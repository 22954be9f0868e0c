import ProtoSchema.Failure
import ProtoSchema.Text.Blank
import ProtoSchema.Text.Split

/-!
# Programs

A program that is run prints something, complains about something, and ends by
itself or by a signal.  Two kinds of programs are known here.

A *compiler* is described by how it answers.  Asked for its version it prints
that.  Otherwise it writes some bytes to the file that it is told to write.

A *script* is text whose first line names the program that runs it.  Where that
is a shell, the commands `echo`, `exit`, `true` and `false` are understood.
-/

namespace ProtoSchema

/-- How a program ended. -/
inductive Ending where
  /-- By itself, with a status. -/
  | exit (status : Nat)
  | signal (number : Nat)
deriving DecidableEq, Repr, Inhabited

/-- The status that a shell reports. -/
def Ending.status : Ending → Nat
  | exit status => status % 256
  | signal number => 128 + number

/-- Whether a program ended by itself and well. -/
def Ending.isSuccess : Ending → Bool
  | exit status => status % 256 == 0
  | signal _ => false

/-- What a program did when it was run. -/
structure Outcome where
  /-- What it printed. -/
  printed : String := ""
  /-- What it complained about. -/
  complaint : String := ""
  /-- How it ended. -/
  ending : Ending := .exit 0
deriving DecidableEq, Repr, Inhabited

namespace Outcome

/-- All that was printed, in one text.  A blank part is left out, and when both
are blank the complaint remains. -/
def everything (outcome : Outcome) : String :=
  if Blank.isBlankText outcome.printed then outcome.complaint
  else if Blank.isBlankText outcome.complaint then outcome.printed
  else s!"{outcome.printed}\n{outcome.complaint}"

/-- The fault of a compiler that did not succeed. -/
def fault? (outcome : Outcome) : Option CompilerFault :=
  if outcome.ending.isSuccess then none
  else some (.exited outcome.ending.status outcome.everything)

end Outcome

/-! ## Compilers -/

/-- How a compiler answers. -/
structure CompilerAnswers where
  /-- What it prints when it is asked for its version. -/
  version : String := ""
  /-- The bytes that it writes, if it writes any. -/
  output : Option (List UInt8) := none
  /-- What it does besides. -/
  outcome : Outcome := {}
deriving DecidableEq, Repr, Inhabited

namespace CompilerAnswers

/-- What an argument says after a letter that marks it. -/
def marked? (letter : Char) (argument : String) : Option String :=
  match argument.toList with
  | '-' :: c :: rest => if c = letter then some (String.ofList rest) else none
  | _ => none

/-- Whether a compiler is asked for its version. -/
def asksVersion (arguments : List String) : Bool := arguments.head? == some "--version"

/-- The file that the arguments tell a compiler to write. -/
def outputFile? (arguments : List String) : Option String :=
  (arguments.filterMap (marked? 'o')).getLast?

/-- The last argument that names no output. -/
def lastInput? (arguments : List String) : Option String :=
  (arguments.filter fun argument => (marked? 'o' argument).isNone).getLast?

/-- What a compiler does when it is run. -/
def run (answers : CompilerAnswers) (arguments : List String) : Outcome :=
  if asksVersion arguments then { printed := answers.version } else answers.outcome

/-- The file that a compiler writes when it is run, and the bytes in it. -/
def written? (answers : CompilerAnswers) (arguments : List String) :
    Option (String × List UInt8) :=
  if asksVersion arguments then none
  else
    match outputFile? arguments, answers.output with
    | some file, some bytes => some (file, bytes)
    | _, _ => none

end CompilerAnswers

/-! ## Scripts -/

/-- A text that is run by another program, its *interpreter*. -/
structure Script where
  /-- The path of the interpreter. -/
  interpreter : String
  /-- What the interpreter is told before anything else. -/
  argument : Option String := none
  /-- The lines after the first one. -/
  lines : List String
deriving DecidableEq, Repr, Inhabited

namespace Script

/-- The shells that are installed. -/
def shells : List String :=
  ["/bin/sh", "/usr/bin/sh", "/bin/dash", "/usr/bin/dash", "/bin/bash", "/usr/bin/bash"]

/-- The programs that start another one by its name. -/
def starters : List String := ["/usr/bin/env", "/bin/env"]

/-- Whether a character stands between two words. -/
def isGap (c : Char) : Bool := c == ' ' || c == '\t'

/-- The words of text.  `quote` is the quote that is open, inside of which a gap
ends no word.  `begun` holds the characters of a word that has begun, the last one
first. -/
def wordsFrom (quote : Option Char) (begun : Option (List Char)) : List Char → List String
  | [] => (begun.map fun word => String.ofList word.reverse).toList
  | c :: rest =>
    if quote == some c then wordsFrom none begun rest
    else if quote.isNone && (c == '"' || c == '\'') then wordsFrom (some c) (begun.getD []) rest
    else if quote.isNone && isGap c then wordsFrom none begun [] ++ wordsFrom none none rest
    else wordsFrom quote (some (c :: begun.getD [])) rest

/-- The words of a line. -/
def words (line : String) : List String := wordsFrom none none line.toList

/-- Text without the gaps around it. -/
def trim (text : List Char) : List Char :=
  ((text.dropWhile isGap).reverse.dropWhile isGap).reverse

/-- The characters of a file in which the interpreter has to be named. -/
def headerLimit : Nat := 256

/-- The script that a text is.  Two marks stand in front of the interpreter, and
the rest of the line is one argument. -/
def ofText? (text : String) : Option Script :=
  match Text.pieces '\n' text with
  | [] => none
  | first :: lines =>
    match first.toList.take headerLimit with
    | '#' :: '!' :: header =>
      let name := (header.dropWhile isGap).takeWhile fun c => !isGap c
      let rest := trim ((header.dropWhile isGap).dropWhile fun c => !isGap c)
      let isCut := headerLimit ≤ first.length && (header.dropWhile isGap).all fun c => !isGap c
      if name.isEmpty || isCut then none
      else
        some {
          interpreter := String.ofList name
          argument := if rest.isEmpty then none else some (String.ofList rest)
          lines }
    | _ => none

/-- Whether the interpreter is a shell. -/
def isForShell (script : Script) : Bool :=
  shells.contains script.interpreter ||
    (starters.contains script.interpreter &&
      script.argument.any fun name => shells.contains ("/bin/" ++ name))

/-- What the lines of a script do in a shell. -/
def runLines (outcome : Outcome) : List String → Outcome
  | [] => outcome
  | line :: rest =>
    match words line with
    | ["exit"] => outcome
    | "exit" :: status :: _ => { outcome with ending := .exit (status.toNat?.getD 2) }
    | ["true"] | [":"] => runLines { outcome with ending := .exit 0 } rest
    | ["false"] => runLines { outcome with ending := .exit 1 } rest
    | "echo" :: said =>
      let text (said : List String) : String := " ".intercalate said ++ "\n"
      let done := { outcome with ending := .exit 0 }
      if said.getLast? == some ">&2" then
        runLines { done with complaint := done.complaint ++ text said.dropLast } rest
      else runLines { done with printed := done.printed ++ text said } rest
    | _ => runLines outcome rest

/-- What a script does in a shell. -/
def run (script : Script) : Outcome := runLines {} script.lines

end Script

/-- What can be run. -/
inductive Program where
  | compiler (answers : CompilerAnswers)
  | script (script : Script)
deriving Repr, Inhabited

end ProtoSchema
