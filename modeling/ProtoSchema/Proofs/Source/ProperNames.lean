import ProtoSchema.Proofs.Source.Legal
import ProtoSchema.Proofs.Source.MemberNames
import ProtoSchema.Proofs.Source.Resolved

/-!
# Names are proper identifiers

Source text is written for the edition of 2021, in which some words have a meaning and
others are kept for later.  An identifier is *proper* there when it is none of these words,
or when it is one of them that is written raw and may be (`Ident.IsProper`).

The names of types, fields and variants are made in different ways, and each way ends by
escaping a name that is an identifier and more than an underscore.  So all of them are
proper (`Naming.isProper_of_isName`), whatever words came up on the way.

A name is checked where it is needed, and a name that is no identifier is a fault.  Tables
are built without this check, for their faults are of another kind
(`FileDescriptor.yields_tables`).  So a set whose names are proper never has this fault, no
matter how else generating its source may fail (`Scope.generate_proper`).
-/

namespace ProtoSchema

open Checked

/-! ## Proper identifiers -/

namespace Ident

/-- The words that have a meaning in the edition. -/
def strictWords : List String :=
  ["as", "async", "await", "break", "const", "continue", "crate", "dyn", "else", "enum", "extern",
    "false", "fn", "for", "if", "impl", "in", "let", "loop", "match", "mod", "move", "mut", "pub",
    "ref", "return", "self", "Self", "static", "struct", "super", "trait", "true", "type",
    "unsafe", "use", "where", "while"]

/-- The words that the edition keeps for later. -/
def keptWords : List String :=
  ["abstract", "become", "box", "do", "final", "macro", "override", "priv", "try", "typeof",
    "unsized", "virtual", "yield"]

/-- Whether a word is one of either kind. -/
def IsReserved (word : String) : Prop := word ∈ strictWords ∨ word ∈ keptWords

instance (word : String) : Decidable (IsReserved word) :=
  inferInstanceAs (Decidable (_ ∨ _))

/-- An identifier of the edition, as it is written. -/
inductive IsProper : String → Prop where
  /-- A plain one, which is neither a reserved word nor a single underscore. -/
  | plain {text : String} (identifier : Identifier.isIdentifier text.toList = true)
      (free : ¬ IsReserved text) (more : text ≠ "_") : IsProper text
  /-- A reserved word that is written raw. -/
  | raw {word : String} (reserved : IsReserved word)
      (allowed : word ∉ ["self", "Self", "super", "crate"]) : IsProper ("r#" ++ word)

/-- The words that are escaped are those that are reserved. -/
theorem mem_reservedWords_iff {word : String} : word ∈ reservedWords ↔ IsReserved word := by
  have hforward : ∀ word ∈ reservedWords, IsReserved word := by decide +kernel
  have hstrict : ∀ word ∈ strictWords, word ∈ reservedWords := by decide +kernel
  have hkept : ∀ word ∈ keptWords, word ∈ reservedWords := by decide +kernel
  constructor
  · exact hforward word
  · rintro (hword | hword)
    · exact hstrict word hword
    · exact hkept word hword

end Ident

namespace Naming

open SchemaName Ident

variable {name : String}

/-- An identifier becomes proper by escaping. -/
theorem isProper_escape (h : isName name = true) : IsProper (escape name) := by
  obtain ⟨hidentifier, hne⟩ := isName_iff.mp h
  have hcases := escaped name
  generalize escape name = text at hcases
  cases hcases with
  | suffixed hnever =>
    -- With an underscore at the end, none of the four words is reserved.
    have hall : ∀ word ∈ neverRaw, Identifier.isIdentifier (word ++ "_").toList = true ∧
        ¬ IsReserved (word ++ "_") ∧ word ++ "_" ≠ "_" := by decide +kernel
    obtain ⟨hsuffixed, hfree, hmore⟩ := hall name hnever
    exact .plain hsuffixed hfree hmore
  | raw hnever hreserved => exact .raw (mem_reservedWords_iff.mp hreserved) hnever
  | same _ hfree =>
    exact .plain (toIdentifier hidentifier) (fun h => hfree (mem_reservedWords_iff.mpr h)) hne

/-- **Whatever a name becomes in source text is a proper identifier.** -/
theorem isProper_of_isName (h : isName name = true) :
    IsProper (typeName name) ∧ IsProper (fieldName name) ∧ IsProper (variantName name) := by
  refine ⟨isProper_escape h, isProper_escape (isName_snake h), ?_⟩
  obtain ⟨chars, -, hname, heq⟩ := exists_escape_of_variantName (isName_iff.mp h).1
  rw [heq]
  exact isProper_escape hname

end Naming

/-! ## The names in a file -/

/-- The names of an enum and of its values. -/
def EnumDescriptor.names (enum : EnumDescriptor) : List String :=
  enum.name.toList ++ enum.valueNames

/-- The names of a message, of its fields and of its oneofs. -/
def MessageDescriptor.names (message : MessageDescriptor) : List String :=
  message.name.toList ++ message.fields.filterMap FieldDescriptor.name ++
    message.oneofs.filterMap OneofDescriptor.name

namespace FileDescriptor

/-- The names that are given anywhere in a file. -/
def names (file : FileDescriptor) : List String :=
  file.allMessages.flatMap MessageDescriptor.names ++ file.allEnums.flatMap EnumDescriptor.names

variable {file : FileDescriptor} {name : String}

theorem mem_names_of_message {message : MessageDescriptor} (hmessage : message ∈ file.allMessages)
    (hname : name ∈ message.names) : name ∈ file.names :=
  List.mem_append_left _ (List.mem_flatMap.mpr ⟨message, hmessage, hname⟩)

theorem mem_names_of_enum {enum : EnumDescriptor} (henum : enum ∈ file.allEnums)
    (hname : name ∈ enum.names) : name ∈ file.names :=
  List.mem_append_right _ (List.mem_flatMap.mpr ⟨enum, henum, hname⟩)

end FileDescriptor

/-! ## Faults of tables -/

/-- Whether a failure is found before source is rendered. -/
def Failure.IsEarly (failure : Failure) : Prop := failure.isOfRendering = false

namespace FieldDescriptor

variable {scope : Scope} {file : String} {isProto3 : Bool}

theorem yields_content (field : FieldDescriptor) :
    Yields Failure.IsEarly (fun _ => True) (field.content scope file) := by
  refine Yields.bind_true ?_ fun type => ?_
  · unfold checkedType
    cases field.typeKind with
    | none => exact rfl
    | some type => trivial
  · cases type.scalar? with
    | some scalar => trivial
    | none =>
      refine Yields.bind_true ?_ fun name => ?_
      · unfold checkedReference
        cases field.typeName with
        | none => exact rfl
        | some name => trivial
      · unfold referencedContent
        split
        · cases scope.enum? name with
          | none => exact rfl
          | some table => trivial
        · split
          · trivial
          · exact rfl

theorem yields_table (field : FieldDescriptor) :
    Yields Failure.IsEarly (fun _ => True) (field.table scope file isProto3) := by
  unfold table
  cases field.name with
  | none => exact rfl
  | some name =>
    cases field.number.filter (0 < ·) with
    | none => exact rfl
    | some number =>
      refine field.yields_content.bind_true fun content => ?_
      cases field.defaultText with
      | none => trivial
      | some text =>
        cases hvalue : content.readDefault? text with
        | none =>
          simp only [hvalue]
          exact rfl
        | some value =>
          simp only [hvalue]
          trivial

end FieldDescriptor

namespace MessageDescriptor

variable {scope : Scope} {file package : String} {isProto3 : Bool}

theorem yields_table (message : MessageDescriptor) (outer name : String) :
    Yields Failure.IsEarly (fun _ => True)
      (message.table scope file package isProto3 outer name) := by
  refine Yields.bind_true (Yields.mapM_true fun field _ => ?_) fun _ => ?_
  · exact field.yields_table.bind_true fun _ => trivial
  · refine Yields.bind_true (Yields.mapM_true fun position _ => ?_) fun _ => trivial
    cases message.oneofs[position]?.bind OneofDescriptor.name with
    | none => exact rfl
    | some name => trivial

theorem yields_tables (message : MessageDescriptor) (outer : String) :
    Yields Failure.IsEarly (fun _ => True)
      (message.tables scope file package isProto3 outer) := by
  induction message using nesting generalizing outer with
  | step message ih =>
    cases hname : message.name with
    | none =>
      rw [tables_of_name_eq_none hname]
      exact rfl
    | some name =>
      rw [tables_of_name_eq_some hname, tablesInside_eq]
      refine (message.yields_table outer name).bind_true fun _ => ?_
      refine Yields.bind_true ?_ fun _ => trivial
      exact (Yields.mapM_true fun inner hinner => ih inner hinner _).bind_true fun _ => trivial

end MessageDescriptor

namespace FileDescriptor

variable {scope : Scope} {file : FileDescriptor}

/-- The faults of tables are none of rendering. -/
theorem yields_tables (scope : Scope) (file : FileDescriptor) :
    Yields Failure.IsEarly (fun _ => True) (file.tables scope) := by
  refine Yields.bind_true ?_ fun name => Yields.bind_true ?_ fun _ => ?_
  · unfold checkedName
    cases file.name with
    | none => exact rfl
    | some name => trivial
  · rw [Scope.checkDependencies_eq]
    cases file.dependencies.find? fun name => !scope.hasFile name with
    | none => trivial
    | some missing => exact rfl
  · rw [MessageDescriptor.tablesInside_eq]
    refine Yields.bind_true ?_ fun _ => trivial
    exact (Yields.mapM_true fun message _ => message.yields_tables _).bind_true fun _ => trivial

end FileDescriptor

/-! ## Source -/

/-- Whether a failure is another one than a name that is no identifier. -/
def Failure.SparesNames (failure : Failure) : Prop := ∀ text, failure ≠ .notIdentifier text

theorem Failure.IsEarly.sparesNames {failure : Failure} (h : failure.IsEarly) :
    failure.SparesNames := by
  rintro text rfl
  cases h

/-- Where a way cannot be read, no name in it is checked. -/
theorem Scope.yields_typePath_sparesNames (scope : Scope) (file : String) (depth : Nat)
    (name : String) :
    Yields Failure.SparesNames (fun path => ¬ Failure.SparesNames .noLayout → path.hasLines = true)
      (scope.typePath file depth name) := by
  unfold typePath
  cases scope.home? name with
  | none => exact fun _ => Failure.noConfusion
  | some home =>
    cases hpath : TypePath.ofNames? (Naming.pathFrom depth name home.package home.file) with
    | none =>
      simp only [hpath]
      exact fun _ => Failure.noConfusion
    | some path =>
      simp only [hpath]
      exact fun hlayout => absurd (fun _ => Failure.noConfusion) hlayout

/-- No name of an enum is at fault when all are proper. -/
theorem EnumDescriptor.mayFailBy_sparesNames {file : String} {enum : EnumDescriptor}
    (h : ∀ name ∈ enum.names, SchemaName.isName name = true) :
    enum.MayFailBy Failure.SparesNames file where
  unnamed _ _ := Failure.noConfusion
  name name hname :=
    Naming.mayFailBy_of_isName (h name (List.mem_append_left _ (Option.mem_toList.mpr hname))) _
  nonempty _ _ := Failure.noConfusion
  values value hvalue name hname :=
    Naming.mayFailBy_of_isName
      (h name (List.mem_append_right _ (List.mem_filterMap.mpr ⟨value, hvalue, hname⟩))) _
  complete _ _ := .inr fun _ => Failure.noConfusion

namespace FileDescriptor

variable {scope : Scope} {file : FileDescriptor} {tables : FileTable}

/-- No name of a message is at fault when all in its file are proper. -/
theorem mayFailBy_sparesNames (h : ∀ name ∈ file.names, SchemaName.isName name = true)
    (htables : file.tables scope = .ok tables) {message : MessageDescriptor}
    (hmessage : message ∈ file.allMessages) :
    message.MayFailBy Failure.SparesNames scope tables.file where
  unnamed _ _ := Failure.noConfusion
  name name hname := by
    have hmem : name ∈ message.names :=
      List.mem_append_left _ (List.mem_append_left _ (Option.mem_toList.mpr hname))
    exact Naming.mayFailBy_of_isName (h name (mem_names_of_message hmessage hmem)) _
  fields field hfield := by
    obtain ⟨table, htable⟩ := exists_hasTable_of_tables htables hmessage hfield
    constructor
    · have hmem : table.name ∈ message.names := List.mem_append_left _
        (List.mem_append_right _ (List.mem_filterMap.mpr ⟨field, hfield, htable.name⟩))
      rw [htable.name, Option.getD_some]
      exact Naming.mayFailBy_of_isName (h _ (mem_names_of_message hmessage hmem)) _
    · exact (FieldDescriptor.holds_of_content htable.content).typeMayFailBy
        fun name _ _ depth => scope.yields_typePath_sparesNames _ depth name
  oneofs position hposition := by
    obtain ⟨name, hname⟩ := exists_oneofName_of_tables htables hmessage hposition
    obtain ⟨oneof, honeof, hdeclared⟩ := Option.bind_eq_some_iff.mp hname
    have hmem : name ∈ message.names := List.mem_append_right _
      (List.mem_filterMap.mpr ⟨oneof, List.mem_of_getElem? honeof, hdeclared⟩)
    rw [hname, Option.getD_some]
    exact Naming.mayFailBy_of_isName (h name (mem_names_of_message hmessage hmem)) _
  mapEntry _ := .inr fun _ => Failure.noConfusion
  enums enum henum := by
    have hmem : enum ∈ file.allEnums :=
      List.mem_append_right _ (List.mem_flatMap.mpr ⟨message, hmessage, henum⟩)
    exact EnumDescriptor.mayFailBy_sparesNames fun name hname =>
      h name (mem_names_of_enum hmem hname)

/-- So a file fails by no name when all its names are proper. -/
theorem yields_generate_sparesNames (h : ∀ name ∈ file.names, SchemaName.isName name = true)
    (scope : Scope) (style : SourceStyle) :
    Yields Failure.SparesNames (fun _ => True) (file.generate scope style) := by
  cases htables : file.tables scope with
  | error failure =>
    have hearly := (yields_tables scope file).of_eq_error htables
    unfold generate
    rw [htables]
    exact hearly.sparesNames
  | ok tables =>
    have henums : ∀ enum ∈ file.enums, enum.MayFailBy Failure.SparesNames tables.file :=
      fun enum henum => EnumDescriptor.mayFailBy_sparesNames fun name hname =>
        h name (mem_names_of_enum (List.mem_append_left _ henum) hname)
    exact (yields_generate htables (fun message hmessage =>
      mayFailBy_sparesNames h htables hmessage) henums style).imp fun _ _ => trivial

end FileDescriptor

/-- **Names become proper identifiers, and none is found to be no identifier.**  A name of
a schema that is more than an underscore is made into proper identifiers only.  When all
names in a set are such names, generating its source never fails by a name, whatever was
loaded before and however source is written. -/
theorem Scope.generate_proper :
    (∀ name, SchemaName.isName name = true →
      Ident.IsProper (Naming.typeName name) ∧ Ident.IsProper (Naming.fieldName name) ∧
        Ident.IsProper (Naming.variantName name)) ∧
    ∀ (set : FileSet) (loaded : Catalog) (style : SourceStyle),
      (∀ file ∈ set.files, ∀ name ∈ file.names, SchemaName.isName name = true) →
      ∀ text, (Scope.of set loaded).generate style ≠ .error (.notIdentifier text) ∧
        ∀ file ∈ set.files,
          file.generate (Scope.of set loaded) style ≠ .error (.notIdentifier text) := by
  refine ⟨fun name h => Naming.isProper_of_isName h, fun set loaded style hset text => ?_⟩
  have hfiles : ∀ file ∈ set.files, Yields Failure.SparesNames (fun _ => True)
      (file.generate (Scope.of set loaded) style) := fun file hfile =>
    file.yields_generate_sparesNames (hset file hfile) _ style
  constructor
  · exact fun hfailure => (Yields.mapM_true hfiles).of_eq_error hfailure text rfl
  · exact fun file hfile hfailure => (hfiles file hfile).of_eq_error hfailure text rfl

/-- Names that become reserved words, or no identifiers, unless they are escaped.  The
source of one set is generated, and that of another one fails by a type that is nowhere. -/
theorem Scope.generate_proper_escaped :
    let message : MessageDescriptor :=
      { name := some "Self"
        fields := [{ name := some "TYPE", number := some 1, type := some 9 },
                   { name := some "super", number := some 2, type := some 9,
                     oneofIndex := some 0 },
                   { name := some "self", number := some 3, type := some 9,
                     oneofIndex := some 0 }]
        oneofs := [{ name := some "__" }]
        enums := [⟨some "crate", [⟨some "_2D", some 0⟩, ⟨some "SELF", some 1⟩]⟩] }
    let stray : FieldDescriptor :=
      { name := some "fn", number := some 4, type := some 11, typeName := some ".Nowhere" }
    let made : FileSet := ⟨[{ name := some "-.proto", messages := [message] }]⟩
    let failing : FileSet :=
      ⟨[{ name := some "-.proto"
          messages := [{ message with fields := message.fields ++ [stray] }] }]⟩
    (Naming.typeName "Self" = "Self_" ∧ Ident.IsProper "Self_") ∧
      (Naming.fieldName "TYPE" = "r#type" ∧ Ident.IsProper "r#type") ∧
      (Naming.variantName "_2D" = "_2d" ∧ Ident.IsProper "_2d") ∧
      (∀ style text, (Scope.of made {}).generate style ≠ .error (.notIdentifier text)) ∧
      (∀ style, ((Scope.of made {}).generate style).isOk = true) ∧
      (∀ style text, (Scope.of failing {}).generate style ≠ .error (.notIdentifier text)) ∧
      ∀ style, ((Scope.of failing {}).generate style).isOk = false := by
  intro message stray made failing
  obtain ⟨hnames, hsets⟩ := generate_proper
  have hself := (hnames "Self" (by decide)).1
  have htype := (hnames "TYPE" (by decide)).2.1
  have htwo := (hnames "_2D" (by decide)).2.2
  have hmade : ∀ file ∈ made.files, ∀ name ∈ file.names, SchemaName.isName name = true := by
    decide +kernel
  have hfailing : ∀ file ∈ failing.files, ∀ name ∈ file.names,
      SchemaName.isName name = true := by
    decide +kernel
  refine ⟨⟨by decide, hself⟩, ⟨by decide, htype⟩, ⟨by decide, htwo⟩,
    fun style text => (hsets made {} style hmade text).1, fun style => ?_,
    fun style text => (hsets failing {} style hfailing text).1, fun style => ?_⟩
  · cases style <;> decide +kernel
  · cases style <;> decide +kernel

end ProtoSchema
