import ProtoSchema.Text.Blank

/-!
# Blanks and comments

Blanks and comments may stand between the words of source text, and mean
nothing there.  A comment starts with two slashes and takes the rest of its
line, or is put between a slash with a star and a star with a slash.  Comments in
stars nest.  A comment that documents something is a word of its own and is not
passed over.
-/

namespace ProtoSchema.Blanks

/-- Whether what follows two slashes makes them a comment that documents. -/
def documentsLine : List Char → Bool
  | '!' :: _ => true
  | '/' :: '/' :: _ => false
  | '/' :: _ => true
  | _ => false

/-- Whether what follows a slash and a star makes them a comment that
documents. -/
def documentsBlock : List Char → Bool
  | '!' :: _ => true
  | '*' :: '*' :: _ => false
  | '*' :: _ => true
  | _ => false

/-- What follows the end of a comment in stars, inside of which `depth` further
ones are open. -/
def afterBlock (depth : Nat) : List Char → Option (List Char)
  | '/' :: '*' :: rest => afterBlock (depth + 1) rest
  | '*' :: '/' :: rest =>
    match depth with
    | 0 => some rest
    | depth + 1 => afterBlock depth rest
  | _ :: rest => afterBlock depth rest
  | [] => none

/-- What follows a comment is shorter than the comment with it. -/
theorem length_afterBlock {depth : Nat} {text rest : List Char}
    (h : afterBlock depth text = some rest) : rest.length < text.length := by
  fun_induction afterBlock depth text with
  | case1 _ _ ih => have := ih h; simp; omega
  | case2 => cases h; simp only [List.length_cons]; omega
  | case3 _ _ ih => have := ih h; simp; omega
  | case4 _ _ _ _ _ ih => have := ih h; simp; omega
  | case5 => simp at h

/-- Drops the blanks and comments in front. -/
def skip (text : List Char) : List Char :=
  match text with
  | '/' :: '*' :: '*' :: '/' :: rest => skip rest
  | '/' :: '/' :: rest =>
    if documentsLine rest then text else skip (rest.dropWhile fun c => c != '\n')
  | '/' :: '*' :: rest =>
    if documentsBlock rest then text
    else
      match _h : afterBlock 0 rest with
      | some rest => skip rest
      | none => text
  | c :: rest => if Blank.isSeparator c then skip rest else text
  | [] => []
termination_by text.length
decreasing_by
  · simp; omega
  · have := (List.dropWhile_sublist (fun c => c != '\n') (l := rest)).length_le
    simp; omega
  · have := length_afterBlock _h
    simp; omega
  · simp

end ProtoSchema.Blanks
