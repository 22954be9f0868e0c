import ProtoSchema.Proofs.Text.Split

/-!
# Names in schemas

A name that is declared in a schema is an *identifier*: a letter or an
underscore, followed by letters, digits and underscores, all of them ASCII.  A
package is empty, or it consists of identifiers with dots between them.

Descriptors may hold any text for names.  Those of a compiler hold names of this
form.
-/

namespace ProtoSchema.SchemaName

/-- Whether a character can start an identifier. -/
def isStart (c : Char) : Bool := c.isAlpha || c == '_'

/-- Whether a character can stand inside an identifier. -/
def isInner (c : Char) : Bool := c.isAlphanum || c == '_'

/-- Whether a name is an identifier. -/
def isIdentifier (name : String) : Bool :=
  match name.toList with
  | [] => false
  | c :: rest => isStart c && rest.all isInner

/-- Whether a package is empty or consists of identifiers. -/
def isPackage (package : String) : Bool :=
  package == "" || (Text.pieces '.' package).all isIdentifier

theorem toList_ne_nil_of_isIdentifier {name : String} (h : isIdentifier name = true) :
    name.toList ≠ [] := by
  intro hnil
  rw [isIdentifier, hnil] at h
  cases h

/-- There is no dot in an identifier. -/
theorem dot_not_mem_of_isIdentifier {name : String} (h : isIdentifier name = true) :
    '.' ∉ name.toList := by
  unfold isIdentifier at h
  split at h
  · cases h
  · next c rest hchars =>
    rw [Bool.and_eq_true, List.all_eq_true] at h
    rw [hchars]
    intro hmem
    rcases List.mem_cons.mp hmem with hc | hrest
    · rw [← hc] at h
      exact absurd h.1 (by decide)
    · exact absurd (h.2 '.' hrest) (by decide)

/-- An identifier does not start with a dot. -/
theorem head?_ne_of_isIdentifier {name : String} (h : isIdentifier name = true) :
    name.toList.head? ≠ some '.' :=
  fun hdot => dot_not_mem_of_isIdentifier h (List.mem_of_head? hdot)

/-- A package does not start with a dot. -/
theorem head?_ne_of_isPackage {package : String} (h : isPackage package = true) :
    package.toList.head? ≠ some '.' := by
  unfold isPackage Text.pieces at h
  intro hdot
  cases hchars : package.toList with
  | nil =>
    rw [hchars] at hdot
    cases hdot
  | cons c rest =>
    rw [hchars] at hdot
    cases hdot
    have hne : (package == "") = false := beq_false_of_ne fun he => by
      rw [he] at hchars
      cases hchars
    rw [hne, hchars, Text.split, if_pos rfl, List.map_cons, List.all_cons] at h
    cases h

/-! ## Characters of packages -/

theorem isInner_of_isStart {c : Char} (h : isStart c = true) : isInner c = true := by
  rw [isStart, Bool.or_eq_true] at h
  rw [isInner, Char.isAlphanum, Bool.or_eq_true, Bool.or_eq_true]
  rcases h with h | h
  · exact Or.inl (Or.inl h)
  · exact Or.inr h

theorem isInner_of_mem {name : String} (h : isIdentifier name = true) {c : Char}
    (hc : c ∈ name.toList) : isInner c = true := by
  unfold isIdentifier at h
  split at h
  · cases h
  · next first rest hchars =>
    rw [Bool.and_eq_true, List.all_eq_true] at h
    rw [hchars] at hc
    rcases List.mem_cons.mp hc with rfl | hc
    · exact isInner_of_isStart h.1
    · exact h.2 c hc

/-- The pieces of a package are identifiers. -/
theorem isIdentifier_of_mem_split {package : String} (h : isPackage package = true)
    (hne : package ≠ "") {piece : List Char} (hpiece : piece ∈ Text.split '.' package.toList) :
    isIdentifier (String.ofList piece) = true := by
  rw [isPackage, beq_false_of_ne hne, Bool.false_or, List.all_eq_true] at h
  exact h _ (List.mem_map_of_mem hpiece)

/-- In a package there are dots, and characters that stand inside identifiers. -/
theorem eq_or_isInner_of_mem {package : String} (h : isPackage package = true) {c : Char}
    (hc : c ∈ package.toList) : c = '.' ∨ isInner c = true := by
  have hne : package ≠ "" := by
    rintro rfl
    cases hc
  rcases Text.eq_or_exists_of_mem hc with hdot | ⟨piece, hpiece, hc⟩
  · exact Or.inl hdot
  · refine Or.inr (isInner_of_mem (isIdentifier_of_mem_split h hne hpiece) ?_)
    rw [String.toList_ofList]
    exact hc

/-- A package starts like an identifier. -/
theorem isStart_of_isPackage {package : String} (h : isPackage package = true) {c : Char}
    {rest : List Char} (hchars : package.toList = c :: rest) : isStart c = true := by
  have hne : package ≠ "" := by
    rintro rfl
    cases hchars
  have hdot : c ≠ '.' := by
    rintro rfl
    refine head?_ne_of_isPackage h ?_
    rw [hchars, List.head?_cons]
  obtain ⟨piece, more, hsplit⟩ := Text.exists_split_cons rest hdot
  have hmem : c :: piece ∈ Text.split '.' package.toList := by
    rw [hchars, hsplit]
    exact .head _
  have hfirst := isIdentifier_of_mem_split h hne hmem
  rw [isIdentifier, String.toList_ofList, Bool.and_eq_true] at hfirst
  exact hfirst.1

end ProtoSchema.SchemaName
