import ProtoSchema.Text.CaseMap
import ProtoSchema.Text.Letter
import ProtoSchema.Text.Split

/-!
# Words in names

A name is made of words.  In *snake case* the words are lower case with an
underscore between them.  In *Pascal case* each word starts with an upper-case
letter and nothing stands between them.

`snake` finds the words of a name by its upper-case letters.  A word starts at
an upper-case letter after a lower-case one, and at the last of several
upper-case letters when a lower-case one follows, so `HTTPServer` has two words.
Only ASCII letters are made lower case.

`pascal` takes the words between underscores.
-/

namespace ProtoSchema.Words

/-- Whether a word starts at `c`, given the characters around it. -/
def startsWord (previous c : Char) (next : Option Char) : Bool :=
  Letter.isUpper c &&
    (Letter.isLower previous || (Letter.isUpper previous && next.any Letter.isLower))

/-- The snake case of the rest of a name, after the character `previous`. -/
def snakeAfter (previous : Char) : List Char → List Char
  | [] => []
  | c :: rest =>
    if startsWord previous c rest.head? then '_' :: c.toLower :: snakeAfter c rest
    else c.toLower :: snakeAfter c rest

/-- The snake case of a name. -/
def snake : List Char → List Char
  | [] => []
  | c :: rest => c.toLower :: snakeAfter c rest

/-- A word with its first character in upper case and the others in lower case. -/
def capitalize : List Char → List Char
  | [] => []
  | c :: rest => CaseMap.upper c ++ rest.flatMap CaseMap.lower

/-- The Pascal case of a name.  It is empty for a name of underscores only. -/
def pascal (name : List Char) : List Char :=
  (Text.split '_' name).flatMap capitalize

end ProtoSchema.Words
