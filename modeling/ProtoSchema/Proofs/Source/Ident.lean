import ProtoSchema.Source.TypePath

/-!
# Names as they are read and written

Reading a name and writing it gives the text that was read.  A name that may
stand in a path by itself is a part of the path, and a way that is made of such
names only is read as these names (`TypePath.exists_ofNames?`).  A legal name may
stand there (`Ident.isSome_plain?_of_isLegal`).
-/

namespace ProtoSchema

namespace Ident

/-- A name that was read is raw and has the mark in front, or it is the text as it
is. -/
theorem ofText?_cases {text : String} {ident : Ident} (h : ofText? text = some ident) :
    (ident.raw = true ∧ text = "r#" ++ ident.text) ∨
      (ident = ⟨false, text⟩ ∧ ∀ rest, text.toList ≠ 'r' :: '#' :: rest) := by
  unfold ofText? at h
  split at h
  · next rest hchars =>
    rw [Option.ite_none_right_eq_some] at h
    obtain ⟨-, h⟩ := h
    cases h
    refine Or.inl ⟨rfl, String.toList_inj.mp ?_⟩
    simp only [hchars, String.toList_append, String.toList_ofList]
    rfl
  · next hchars =>
    rw [Option.ite_none_right_eq_some] at h
    obtain ⟨-, h⟩ := h
    cases h
    exact Or.inr ⟨rfl, hchars⟩

/-- A name is written as the text that it was read from. -/
theorem spelling_of_ofText? {text : String} {ident : Ident} (h : ofText? text = some ident) :
    ident.spelling = text := by
  unfold spelling
  rcases ofText?_cases h with ⟨hraw, htext⟩ | ⟨rfl, -⟩
  · rw [if_pos hraw, htext]
  · rfl

/-- An identifier is read as it is. -/
theorem ofText?_of_isIdentifier {text : String} (h : Identifier.isIdentifier text.toList = true) :
    ofText? text = some ⟨false, text⟩ := by
  unfold ofText?
  split
  · next rest hchars =>
    rw [hchars] at h
    cases h
  · rw [if_pos h]

/-- What starts with the mark of a raw name is read as a raw name. -/
theorem raw_of_ofText? {name : String} {ident : Ident}
    (h : ofText? ("r#" ++ name) = some ident) : ident.raw = true := by
  rcases ofText?_cases h with ⟨hraw, -⟩ | ⟨-, hchars⟩
  · exact hraw
  · exact absurd (String.toList_append ..) (hchars name.toList)

/-- A raw name may stand in a path. -/
theorem mayStandInPath_of_raw {ident : Ident} (h : ident.raw = true) :
    ident.mayStandInPath = true := by
  rw [mayStandInPath, isFree, h, Bool.true_or, Bool.or_true]

/-! ### Legal names -/

variable {text : String}

theorem isLegal_iff :
    isLegal text = true ↔ ∃ ident, ofText? text = some ident ∧ ident.isFree = true :=
  Option.any_eq_true ..

/-- A legal name is no single underscore. -/
theorem ne_of_isLegal (h : isLegal text = true) : text ≠ "_" := by
  rintro rfl
  revert h
  decide

theorem isLegal_of_isIdentifier (h : Identifier.isIdentifier text.toList = true)
    (hreserved : text ∉ reservedWords) (hne : text ≠ "_") : isLegal text = true := by
  refine isLegal_iff.mpr ⟨_, ofText?_of_isIdentifier h, ?_⟩
  simp [isFree, hreserved, hne]

/-- A legal name can be read as a part of a path. -/
theorem isSome_plain?_of_isLegal (h : isLegal text = true) :
    (TypePath.plain? text).isSome = true := by
  obtain ⟨ident, hident, hfree⟩ := isLegal_iff.mp h
  have hpath : ident.mayStandInPath = true := by
    rw [mayStandInPath, hfree, Bool.or_true]
  rw [TypePath.plain?, hident, Option.filter_some_pos hpath]
  rfl

end Ident

/-! ## Paths -/

/-- A part of a path as it is written on one line. -/
def PathPart.text (part : PathPart) : String := Flat.spaced part.spelling.words

namespace TypePath

/-- The parts of a path as they are written. -/
def steps (path : TypePath) : List String := path.parts.map PathPart.text

theorem text_of_plain? {text : String} {part : PathPart} (h : plain? text = some part) :
    part.text = text := by
  obtain ⟨ident, hident, rfl⟩ := Option.map_eq_some_iff.mp h
  have hread := (Option.filter_eq_some_iff.mp hident).1
  exact Ident.spelling_of_ofText? hread

/-- Names that may each stand in a path are its parts. -/
theorem exists_mapM_plain? {names : List String}
    (h : ∀ name ∈ names, (plain? name).isSome = true) :
    ∃ parts, names.mapM plain? = some parts ∧ parts.map PathPart.text = names := by
  induction names with
  | nil => exact ⟨[], rfl, rfl⟩
  | cons name names ih =>
    obtain ⟨part, hpart⟩ := Option.isSome_iff_exists.mp (h name (.head names))
    obtain ⟨parts, hparts, htexts⟩ := ih fun other hother => h other (.tail name hother)
    refine ⟨part :: parts, ?_, ?_⟩
    · rw [List.mapM_cons, hpart, hparts]
      rfl
    · rw [List.map_cons, text_of_plain? hpart, htexts]

/-- Names that may each stand in a path make up that path. -/
theorem exists_ofNames? {names : List String}
    (h : ∀ name ∈ names, (plain? name).isSome = true) :
    ∃ path, ofNames? names = some path ∧ path.steps = names := by
  obtain ⟨parts, hparts, htexts⟩ := exists_mapM_plain? h
  refine ⟨{ parts }, ?_, htexts⟩
  rw [ofNames?, hparts]

/-- Such a path has a layout in lines. -/
theorem hasLines_of_ofNames? {names : List String}
    (h : ∀ name ∈ names, (plain? name).isSome = true) {path : TypePath}
    (hpath : ofNames? names = some path) : path.hasLines = true := by
  obtain ⟨parts, hparts, -⟩ := exists_mapM_plain? h
  rw [ofNames?, hparts] at hpath
  cases hpath
  rfl

end TypePath

end ProtoSchema
