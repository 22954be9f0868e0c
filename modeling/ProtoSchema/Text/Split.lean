/-!
# Splitting text

`split` cuts text at every occurrence of a character and leaves the character
out.  There is always at least one piece, and pieces may be empty.
-/

namespace ProtoSchema.Text

/-- The pieces of text between the occurrences of a character. -/
def split (separator : Char) : List Char → List (List Char)
  | [] => [[]]
  | c :: rest =>
    if c = separator then [] :: split separator rest
    else
      match split separator rest with
      | piece :: pieces => (c :: piece) :: pieces
      | [] => [[c]]

/-- Text has at least one piece. -/
theorem split_ne_nil (separator : Char) (text : List Char) : split separator text ≠ [] := by
  cases text with
  | nil => simp [split]
  | cons c rest =>
    rw [split]
    split
    · simp
    · split <;> simp

/-- The pieces of a string. -/
def pieces (separator : Char) (text : String) : List String :=
  (split separator text.toList).map String.ofList

/-- One character in the place of others. -/
def replace (old : Char → Bool) (new : Char) (text : String) : String :=
  String.ofList (text.toList.map fun c => if old c then new else c)

end ProtoSchema.Text
