import ProtoSchema.Proofs.Source.Faults
import ProtoSchema.Proofs.Source.FileModule

/-!
# Names that may be written

A name in source text is *legal* when it is an identifier and either raw or no reserved
word (`Ident.isLegal`).  A legal name can be read wherever a name is expected.  It may
be declared, and it may stand in a path.

The names of a schema are identifiers of ASCII characters.  In snake case such a name is
an identifier again, and in Pascal case it is made of letters and digits.  Whatever is
made of a name for source text is escaped at the end, so it is legal
(`Naming.isLegal_typeName`, `Naming.isLegal_fieldName`, `Naming.isLegal_variantName`).
Only a single underscore stays what it is, and it is no name in this sense
(`SchemaName.isName`).

The module of a file is named after its package, and then it is not escaped.  So it is
not always legal (`Naming.isLegal_fileModule_iff`).
-/

namespace ProtoSchema

open Checked

/-! ## Legal names -/

/-- A legal name is read, and it may be declared. -/
theorem Ident.yields_check_of_isLegal {P : Failure → Prop} {text : String}
    (h : isLegal text = true) :
    Yields P (fun ident => ident.mayBeDeclared = true) (check text) := by
  obtain ⟨ident, hident, -⟩ := isLegal_iff.mp h
  unfold check
  rw [hident]
  show isLegal ident.spelling = true
  rwa [spelling_of_ofText? hident]

/-! ## Names of a schema -/

namespace SchemaName

/-- Whether a name is an identifier and more than an underscore. -/
def isName (name : String) : Bool := isIdentifier name && name != "_"

theorem isName_iff {name : String} :
    isName name = true ↔ isIdentifier name = true ∧ name ≠ "_" := by
  rw [isName, Bool.and_eq_true, bne_iff_ne]

/-- Text is an identifier when its characters are. -/
theorem isIdentifier_ofList {c : Char} {rest : List Char} (hstart : isStart c = true)
    (hrest : ∀ d ∈ rest, isInner d = true) :
    isIdentifier (String.ofList (c :: rest)) = true := by
  rw [isIdentifier, String.toList_ofList]
  exact Bool.and_eq_true_iff.mpr ⟨hstart, List.all_eq_true.mpr hrest⟩

/-- An identifier of a schema is one of source text. -/
theorem toIdentifier {name : String} (h : isIdentifier name = true) :
    Identifier.isIdentifier name.toList = true := by
  unfold isIdentifier at h
  split at h
  · cases h
  · next c rest hchars =>
    obtain ⟨hstart, hrest⟩ := Bool.and_eq_true_iff.mp h
    rw [hchars]
    refine Bool.and_eq_true_iff.mpr ⟨Identifier.isStart_of_isStart hstart, List.all_eq_true.mpr ?_⟩
    exact fun d hd => Identifier.isContinue_of_isInner (List.all_eq_true.mp hrest d hd)

/-- What holds of every ASCII character holds of those in identifiers. -/
theorem of_isInner {p : Char → Prop} (hp : ∀ n < 128, p (Char.ofNat n)) {c : Char}
    (h : isInner c = true) : p c := by
  have hc := hp c.toNat (toNat_lt_of_isInner h)
  rwa [Char.ofNat_toNat] at hc

theorem isInner_toLower {c : Char} (h : isInner c = true) : isInner c.toLower = true :=
  of_isInner (p := fun c => isInner c = true → isInner c.toLower = true) (by decide +kernel) h h

theorem isStart_toLower {c : Char} (h : isStart c = true) : isStart c.toLower = true :=
  of_isInner (p := fun c => isStart c = true → isStart c.toLower = true) (by decide +kernel)
    (isInner_of_isStart h) h

/-- What stands in an identifier and is neither a digit nor an underscore starts one. -/
theorem isStart_of_isAlphanum {c : Char} (h : c.isAlphanum = true) (hdigit : c.isDigit = false) :
    isStart c = true := by
  rw [Char.isAlphanum, hdigit, Bool.or_false] at h
  rw [isStart, h]
  rfl

theorem isInner_of_isAlphanum {c : Char} (h : c.isAlphanum = true) : isInner c = true := by
  rw [isInner, h]
  rfl

end SchemaName

/-! ## Snake case -/

namespace Words

open SchemaName

theorem isInner_of_mem_snakeAfter {rest : List Char} (h : ∀ c ∈ rest, isInner c = true)
    (previous : Char) : ∀ c ∈ snakeAfter previous rest, isInner c = true := by
  induction rest generalizing previous with
  | nil => exact fun c hc => nomatch hc
  | cons d rest ih =>
    have hlower := isInner_toLower (h d (.head rest))
    have hafter := ih (fun c hc => h c (.tail d hc)) d
    rw [snakeAfter]
    split
    · simpa using ⟨by decide, hlower, hafter⟩
    · simpa using ⟨hlower, hafter⟩

/-- The snake case of an identifier is an identifier. -/
theorem isIdentifier_snake {name : String} (h : isIdentifier name = true) :
    isIdentifier (String.ofList (snake name.toList)) = true := by
  unfold isIdentifier at h
  split at h
  · cases h
  · next c rest hchars =>
    obtain ⟨hstart, hrest⟩ := Bool.and_eq_true_iff.mp h
    rw [hchars]
    exact isIdentifier_ofList (isStart_toLower hstart)
      (isInner_of_mem_snakeAfter (List.all_eq_true.mp hrest) c)

/-! ## Pascal case -/

theorem isAlphanum_toUpper {c : Char} (h : c.isAlphanum = true) : c.toUpper.isAlphanum = true :=
  of_isInner (p := fun c => c.isAlphanum = true → c.toUpper.isAlphanum = true) (by decide +kernel)
    (isInner_of_isAlphanum h) h

theorem isAlphanum_toLower {c : Char} (h : c.isAlphanum = true) : c.toLower.isAlphanum = true :=
  of_isInner (p := fun c => c.isAlphanum = true → c.toLower.isAlphanum = true) (by decide +kernel)
    (isInner_of_isAlphanum h) h

theorem isAlphanum_of_mem_upper {c : Char} (h : c.isAlphanum = true) :
    ∀ d ∈ CaseMap.upper c, d.isAlphanum = true := by
  rw [CaseMap.upper, if_pos (toNat_lt_of_isInner (isInner_of_isAlphanum h))]
  intro d hd
  rw [List.mem_singleton.mp hd]
  exact isAlphanum_toUpper h

theorem isAlphanum_of_mem_lower {c : Char} (h : c.isAlphanum = true) :
    ∀ d ∈ CaseMap.lower c, d.isAlphanum = true := by
  rw [CaseMap.lower, if_pos (toNat_lt_of_isInner (isInner_of_isAlphanum h))]
  intro d hd
  rw [List.mem_singleton.mp hd]
  exact isAlphanum_toLower h

theorem isAlphanum_of_mem_capitalize {word : List Char} (h : ∀ c ∈ word, c.isAlphanum = true) :
    ∀ c ∈ capitalize word, c.isAlphanum = true := by
  cases word with
  | nil => exact fun c hc => nomatch hc
  | cons first rest =>
    intro c hc
    rcases List.mem_append.mp hc with hc | hc
    · exact isAlphanum_of_mem_upper (h first (.head rest)) c hc
    · obtain ⟨d, hd, hc⟩ := List.mem_flatMap.mp hc
      exact isAlphanum_of_mem_lower (h d (.tail first hd)) c hc

/-- The Pascal case of an identifier is made of letters and digits. -/
theorem isAlphanum_of_mem_pascal {name : String} (h : isIdentifier name = true) :
    ∀ c ∈ pascal name.toList, c.isAlphanum = true := by
  intro c hc
  obtain ⟨word, hword, hc⟩ := List.mem_flatMap.mp hc
  refine isAlphanum_of_mem_capitalize (fun d hd => ?_) c hc
  obtain ⟨hmem, hne⟩ := Text.mem_of_mem_split hword hd
  have hinner : (d.isAlphanum || d == '_') = true := isInner_of_mem h hmem
  rwa [beq_false_of_ne hne, Bool.or_false] at hinner

end Words

/-! ## Names that are made of names -/

namespace Naming

open SchemaName Ident

variable {name : String}

/-- An identifier that is escaped is a legal name. -/
theorem isLegal_escape (h : isName name = true) : isLegal (escape name) = true := by
  obtain ⟨hidentifier, hne⟩ := isName_iff.mp h
  have hcases := escaped name
  generalize escape name = text at hcases
  cases hcases with
  | suffixed hnever =>
    have hall : ∀ word ∈ neverRaw, isLegal (word ++ "_") = true := by decide +kernel
    exact hall name hnever
  | raw hnever hreserved =>
    have hall : ∀ word ∈ reservedWords, word ∉ neverRaw → isLegal ("r#" ++ word) = true := by
      decide +kernel
    exact hall name hreserved hnever
  | same _ hreserved => exact isLegal_of_isIdentifier (toIdentifier hidentifier) hreserved hne

/-- What is no reserved word is kept. -/
theorem escape_of_not_mem (h : name ∉ reservedWords) : escape name = name := by
  have hcases := escaped name
  generalize escape name = text at hcases ⊢
  cases hcases with
  | suffixed hnever =>
    have hall : ∀ word ∈ neverRaw, word ∈ reservedWords := by decide
    exact absurd (hall name hnever) h
  | raw _ hreserved => exact absurd hreserved h
  | same => rfl

theorem isLegal_typeName (h : isName name = true) : isLegal (typeName name) = true :=
  isLegal_escape h

/-- In snake case, too, a name is more than an underscore. -/
theorem isName_snake (h : isName name = true) :
    isName (String.ofList (Words.snake name.toList)) = true := by
  obtain ⟨hidentifier, hne⟩ := isName_iff.mp h
  refine isName_iff.mpr ⟨Words.isIdentifier_snake hidentifier, fun hsingle => ?_⟩
  have hfield : fieldName name = "_" := by
    rw [fieldName, hsingle]
    rfl
  exact hne (eq_of_escape_eq (typeName_eq_of_fieldName_eq hfield))

theorem isLegal_fieldName (h : isName name = true) : isLegal (fieldName name) = true :=
  isLegal_escape (isName_snake h)

theorem isAlphanum_of_mem_pascalName (h : isIdentifier name = true) :
    ∀ c ∈ pascalName name, c.isAlphanum = true := by
  unfold pascalName
  split
  · exact List.all_eq_true.mp (by decide)
  · exact Words.isAlphanum_of_mem_pascal h

theorem pascalName_ne_nil (name : String) : pascalName name ≠ [] := by
  unfold pascalName
  split
  · decide
  · next hne => exact hne

/-- The name of a variant is its Pascal case, escaped, with an underscore in front of a
digit. -/
theorem exists_escape_of_variantName (h : isIdentifier name = true) :
    ∃ chars, (chars = pascalName name ∨ chars = '_' :: pascalName name) ∧
      isName (String.ofList chars) = true ∧ variantName name = escape (String.ofList chars) := by
  have hall := isAlphanum_of_mem_pascalName h
  unfold variantName
  cases hpascal : pascalName name with
  | nil => exact absurd hpascal (pascalName_ne_nil name)
  | cons c rest =>
    rw [hpascal] at hall
    have hinner : ∀ d ∈ c :: rest, isInner d = true := fun d hd => isInner_of_isAlphanum (hall d hd)
    cases hdigit : c.isDigit with
    | true =>
      simp only [hdigit, List.head?_cons, Option.any_some, if_true]
      refine ⟨'_' :: c :: rest, .inr rfl, isName_iff.mpr ⟨isIdentifier_ofList (by decide) hinner,
        fun hsingle => ?_⟩, (escape_of_not_mem fun hmem => ?_).symm⟩
      · have hchars := congrArg String.toList hsingle
        rw [String.toList_ofList] at hchars
        cases hchars
      · -- No reserved word starts with an underscore.
        have hwords : ∀ word ∈ reservedWords, word.toList.head? ≠ some '_' := by decide +kernel
        exact hwords _ hmem (by rw [String.toList_ofList]; rfl)
    | false =>
      simp only [hdigit, List.head?_cons, Option.any_some, Bool.false_eq_true, if_false]
      have hstart := isStart_of_isAlphanum (hall c (.head rest)) hdigit
      refine ⟨c :: rest, .inl rfl, isName_iff.mpr
        ⟨isIdentifier_ofList hstart fun d hd => hinner d (.tail c hd), fun hsingle => ?_⟩, rfl⟩
      have hchars := congrArg String.toList hsingle
      rw [String.toList_ofList] at hchars
      cases hchars
      exact absurd (hall '_' (.head [])) (by decide)

theorem isLegal_variantName (h : isIdentifier name = true) : isLegal (variantName name) = true := by
  obtain ⟨chars, -, hname, heq⟩ := exists_escape_of_variantName h
  rw [heq]
  exact isLegal_escape hname

/-- No name that is made of a name of a schema is at fault. -/
theorem mayFailBy_of_isName (h : isName name = true) (P : Failure → Prop) : MayFailBy P name where
  type := (yields_check_of_isLegal (isLegal_typeName h)).imp fun _ hlegal _ => hlegal
  field := (yields_check_of_isLegal (isLegal_fieldName h)).imp fun _ hlegal _ => hlegal
  variant := (yields_check_of_isLegal (isLegal_variantName (isName_iff.mp h).1)).imp
    fun _ hlegal _ => hlegal

end Naming

/-! ## Files and their modules -/

/-- A path to a file of schemas that is named `stem`, in any directory. -/
inductive Path.IsProto (stem : String) : String → Prop where
  | alone : IsProto stem (stem ++ ".proto")
  | inside (directory : String) : IsProto stem (directory ++ "/" ++ (stem ++ ".proto"))

namespace Path

variable {stem path : String}

/-- There is no slash in the name of such a file. -/
theorem slash_not_mem (h : SchemaName.isIdentifier stem = true) :
    '/' ∉ (stem ++ ".proto").toList := by
  rw [String.toList_append]
  intro hmem
  rcases List.mem_append.mp hmem with hmem | hmem
  · exact absurd (SchemaName.isInner_of_mem h hmem) (by decide)
  · exact absurd hmem (by decide)

theorem component?_proto (stem : String) :
    component? (stem ++ ".proto") = some (.entry (stem ++ ".proto")) := by
  have hlong : 6 ≤ (stem ++ ".proto").toList.length := by
    rw [String.toList_append, List.length_append]
    exact Nat.le_add_left 6 _
  generalize stem ++ ".proto" = name at hlong
  unfold component?
  split
  · exact absurd hlong (by decide)
  · exact absurd hlong (by decide)
  · exact absurd hlong (by decide)
  · rfl

theorem stem_proto (h : SchemaName.isIdentifier stem = true) :
    Path.stem (stem ++ ".proto") = stem := by
  have hne : stem ≠ "" := by
    rintro rfl
    cases h
  simp [Path.stem, hne]

/-- The last part of a path is the name of the file, when it is a name and does not stand
right below the root. -/
theorem fileName_of_parts (before : List String) {name : String}
    (hparts : parts path = before ++ [name]) (hname : component? name = some (.entry name))
    (hroot : before = [] → isAbsolute path = false) : fileName path = some name := by
  unfold fileName components
  cases before with
  | nil =>
    have hhere : name ≠ "." := by
      rintro rfl
      cases hname
    simp [hparts, hroot rfl, hhere, hname]
  | cons first rest => simp [hparts, hname]

theorem fileStem_of_isProto (h : IsProto stem path) (hstem : SchemaName.isIdentifier stem = true) :
    fileStem path = some stem := by
  have hslash := slash_not_mem hstem
  have hname : fileName path = some (stem ++ ".proto") := by
    cases h with
    | alone =>
      refine fileName_of_parts [] ?_ (component?_proto stem) fun _ => ?_
      · rw [parts, Text.pieces, Text.split_of_not_mem hslash, List.map_singleton,
          String.ofList_toList]
        rfl
      · exact beq_false_of_ne fun hhead => hslash (List.mem_of_head? hhead)
    | inside directory =>
      refine fileName_of_parts (parts directory) ?_ (component?_proto stem) fun hnone => ?_
      · have hopen : parts (directory ++ "/") = parts directory ++ [""] :=
          Text.pieces_concat '/' directory
        rw [parts, Text.pieces_append_of_not_mem hopen hslash, String.empty_append]
      · exact absurd (List.map_eq_nil_iff.mp hnone) (Text.split_ne_nil '/' directory.toList)
  rw [fileStem, hname, Option.map_some, stem_proto hstem]

end Path

namespace Naming

open SchemaName Ident

variable {package file stem : String}

/-- The module of a file without a package is named after the file. -/
theorem fileModule_of_isProto (h : Path.IsProto stem file) (hstem : isIdentifier stem = true) :
    fileModule "" file = fieldName stem := by
  have hsame : Text.replace (fun c => c == '-' || c == '.') '_' stem = stem := by
    refine String.toList_inj.mp ?_
    rw [Text.replace, String.toList_ofList]
    refine (List.map_congr_left fun c hc => ?_).trans (List.map_id _)
    rw [if_neg]
    · rfl
    · intro hmark
      have hinner := isInner_of_mem hstem hc
      rcases Bool.or_eq_true_iff.mp hmark with heq | heq
      · rw [eq_of_beq heq] at hinner
        cases hinner
      · rw [eq_of_beq heq] at hinner
        cases hinner
  rw [fileModule, if_neg (by decide), Path.fileStem_of_isProto h hstem]
  simp only [Option.getD_some, hsame]

/-- **Which modules are legal.**  Reserved words and the single underscore are kept as
packages, and the underscore is kept as the name of a file. -/
theorem isLegal_fileModule_iff (hpackage : isPackage package = true)
    (hfile : Path.IsProto stem file) (hstem : isIdentifier stem = true) :
    isLegal (fileModule package file) = true ↔
      package ∉ "_" :: reservedWords ∧ (package = "" → stem ≠ "_") := by
  by_cases hempty : package = ""
  · subst hempty
    rw [fileModule_of_isProto hfile hstem]
    constructor
    · intro hlegal
      refine ⟨by decide, fun _ hsingle => ?_⟩
      rw [hsingle] at hlegal
      revert hlegal
      decide +kernel
    · rintro ⟨-, hne⟩
      exact isLegal_fieldName (isName_iff.mpr ⟨hstem, hne rfl⟩)
  · constructor
    · intro hlegal
      refine ⟨fun hkept => ?_, fun h => absurd h hempty⟩
      have hall : ∀ word ∈ "_" :: reservedWords,
          isLegal (Text.replace (· == '.') '_' word) = false := by decide +kernel
      rw [fileModule, if_pos (bne_iff_ne.mpr hempty), hall package hkept] at hlegal
      cases hlegal
    · rintro ⟨hkept, -⟩
      obtain ⟨hsingle, hreserved⟩ := List.ne_and_not_mem_of_not_mem_cons hkept
      exact isLegal_of_isIdentifier (isIdentifier_fileModule hpackage hempty file)
        (fileModule_not_mem_reservedWords hempty hreserved file)
        (fileModule_ne_underscore hpackage hempty hsingle file)

end Naming

end ProtoSchema
