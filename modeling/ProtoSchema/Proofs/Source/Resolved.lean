import ProtoSchema.Proofs.Source.Faults

/-!
# What was resolved for tables is resolved for source

Tables and source look names up in different ways.  A table asks what kind of type a
name means, or which enum it is, and source asks where the type is declared, to find
the way to it.  Each question has an order of its own in which the set, the loaded
messages and the loaded enums are asked.  The answers agree in one respect: a name
that stands for something in a table has a home (`FieldDescriptor.Holds.exists_home`).

Source is rendered by another traversal than tables are built by, for map entries are
written into the fields that refer to them, and oneofs are put together.  Every field
that is met has been met before, though.  So rendering never finds a reference that is
missing or leads nowhere, and the failures that it adds are those of names, paths,
enums and map entries (`FileDescriptor.generate_resolves`).
-/

namespace ProtoSchema

open Checked

/-! ## Two kinds of failures -/

/-- Whether a failure is about something that is nowhere to be found, or that is not
even named. -/
def Failure.isUnresolved : Failure → Bool
  | unresolvedDependency _ _ => true
  | unresolvedType _ _ => true
  | descriptor (.missingReference _ _) => true
  | _ => false

/-- Whether a failure is found no sooner than source is rendered. -/
def Failure.isOfRendering : Failure → Bool
  | notIdentifier _ | badTypePath _ | reservedName | noLayout => true
  | descriptor (.unnamedEnum _) => true
  | descriptor (.incompleteValue _ _) => true
  | descriptor (.emptyEnum _ _) => true
  | descriptor (.incompleteMapEntry _ _) => true
  | _ => false

theorem Failure.isUnresolved_of_isOfRendering {failure : Failure}
    (h : failure.isOfRendering = true) : failure.isUnresolved = false := by
  cases failure with
  | descriptor fault => cases fault <;> first | rfl | cases h
  | unresolvedDependency => cases h
  | unresolvedType => cases h
  | _ => rfl

/-! ## Fields -/

namespace Scope

variable {scope : Scope} {name : String}

/-- A type has a home when its name has a kind. -/
theorem exists_home_of_kind? {kind : TypeKind} (h : scope.kind? name = some kind) :
    ∃ home, scope.home? name = some home := by
  obtain ⟨home, hhome, -⟩ := Option.map_eq_some_iff.mp h
  exact ⟨home, hhome⟩

/-- An enum has a home, be it in the set or among what was loaded. -/
theorem exists_home_of_enum? {table : EnumTable} (h : scope.enum? name = some table) :
    ∃ home, scope.home? name = some home := by
  refine Option.isSome_iff_exists.mp ?_
  rw [home?, scope.homes_eq, Option.isSome_or, Bool.or_eq_true]
  rcases enum?_eq_some h with ⟨d, hd, rfl, -⟩ | hloaded
  · exact .inl (FileSet.isSome_homes hd)
  · refine .inr ?_
    rw [loadedHome?_eq, Option.isSome_or, Option.isSome_map, Option.isSome_map, hloaded]
    exact Bool.or_true _

end Scope

namespace FieldDescriptor

variable {scope : Scope} {file : String} {field : FieldDescriptor}

/-- What a field refers to has a home. -/
theorem Holds.exists_home {content : Content} (h : field.Holds scope content) :
    (∃ kind, content = .scalar kind) ∨
      ∃ name home, field.typeName = some name ∧ scope.home? name = some home := by
  cases h with
  | scalar => exact .inl ⟨_, rfl⟩
  | enum _ hname henum =>
    obtain ⟨home, hhome⟩ := Scope.exists_home_of_enum? henum
    exact .inr ⟨_, home, hname, hhome⟩
  | message _ _ hname hkind =>
    obtain ⟨home, hhome⟩ := Scope.exists_home_of_kind? hkind
    exact .inr ⟨_, home, hname, hhome⟩

/-- The content of a field was found, and so is the way to the type that it refers to. -/
def Resolves (scope : Scope) (file : String) (field : FieldDescriptor) : Prop :=
  ∃ content, field.content scope file = .ok content ∧
    ((∃ kind, content = .scalar kind) ∨
      ∃ name home, field.typeName = some name ∧ scope.home? name = some home)

theorem resolves_of_content {content : Content} (h : field.content scope file = .ok content) :
    field.Resolves scope file :=
  ⟨content, h, (holds_of_content h).exists_home⟩

end FieldDescriptor

/-! ## Parts of messages -/

/-- The failures of rendering, as those that are allowed. -/
def Failure.OfRendering (failure : Failure) : Prop := failure.isOfRendering = true

section

variable {scope : Scope} {file : String}

theorem Ident.yields_check (text : String) {Q : Ident → Prop} (hQ : ∀ ident, Q ident) :
    Yields Failure.OfRendering Q (Ident.check text) := by
  unfold check
  cases Ident.ofText? text with
  | some ident => exact hQ ident
  | none => exact rfl

/-- A name may be at fault by itself only. -/
theorem Naming.mayFailBy_ofRendering (name : String) :
    Naming.MayFailBy Failure.OfRendering name where
  type := Ident.yields_check _ fun _ h => absurd rfl h
  field := Ident.yields_check _ fun _ h => absurd rfl h
  variant := Ident.yields_check _ fun _ h => absurd rfl h

/-- The way to a type that has a home may be unreadable, and is not unresolved. -/
theorem Scope.yields_typePath {name : String} {home : TypeHome}
    (h : scope.home? name = some home) (depth : Nat) :
    Yields Failure.OfRendering (fun path => ¬ Failure.OfRendering .noLayout → path.hasLines = true)
      (scope.typePath file depth name) := by
  unfold typePath
  rw [h]
  cases hpath : TypePath.ofNames? (Naming.pathFrom depth name home.package home.file) with
  | some path =>
    simp only [hpath]
    exact fun hnot => absurd rfl hnot
  | none =>
    simp only [hpath]
    exact rfl

theorem FieldDescriptor.Resolves.typeMayFailBy {field : FieldDescriptor}
    (h : field.Resolves scope file) : field.TypeMayFailBy Failure.OfRendering scope file := by
  obtain ⟨content, hcontent, -⟩ := h
  refine (holds_of_content hcontent).typeMayFailBy fun name _ hkind depth => ?_
  obtain ⟨home, hhome⟩ := Scope.exists_home_of_kind? hkind
  exact Scope.yields_typePath hhome depth

/-- An enum is at fault by itself only. -/
theorem EnumDescriptor.mayFailBy_ofRendering (enum : EnumDescriptor) :
    enum.MayFailBy Failure.OfRendering file where
  unnamed _ := rfl
  name name _ := Naming.mayFailBy_ofRendering name
  nonempty _ := rfl
  values _ _ name _ := Naming.mayFailBy_ofRendering name
  complete _ _ := .inr rfl

/-- A message whose name is given and whose fields resolve is at fault by itself only. -/
theorem MessageDescriptor.mayFailBy_ofRendering {message : MessageDescriptor}
    (hname : message.name ≠ none) (hfields : ∀ field ∈ message.fields, field.Resolves scope file) :
    message.MayFailBy Failure.OfRendering scope file where
  unnamed h := absurd h hname
  name name _ := Naming.mayFailBy_ofRendering name
  fields field hfield := ⟨Naming.mayFailBy_ofRendering _, (hfields field hfield).typeMayFailBy⟩
  oneofs _ _ := Naming.mayFailBy_ofRendering _
  mapEntry _ := .inr rfl
  enums enum _ := enum.mayFailBy_ofRendering

end

/-! ## Files -/

namespace FileDescriptor

variable {scope : Scope} {file : FileDescriptor} {tables : FileTable}

/-- Every field of a file resolves when its tables were built. -/
theorem resolves_of_tables (h : file.tables scope = .ok tables) {message : MessageDescriptor}
    (hmessage : message ∈ file.allMessages) {field : FieldDescriptor}
    (hfield : field ∈ message.fields) : field.Resolves scope tables.file := by
  obtain ⟨table, htable⟩ := exists_hasTable_of_tables h hmessage hfield
  exact FieldDescriptor.resolves_of_content htable.content

/-- Once the tables are built, generating source fails only when source is rendered. -/
theorem isOfRendering_of_generate (h : file.tables scope = .ok tables) {style : SourceStyle}
    {failure : Failure} (hfailure : file.generate scope style = .error failure) :
    failure.isOfRendering = true := by
  refine (yields_generate h (P := Failure.OfRendering) ?_ ?_ style).of_eq_error hfailure
  · intro message hmessage
    obtain ⟨_, name, _, hname, -⟩ := exists_messageTable_of_tables h hmessage
    exact MessageDescriptor.mayFailBy_ofRendering (hname ▸ Option.some_ne_none name)
      fun field hfield => resolves_of_tables h hmessage hfield
  · exact fun enum _ => enum.mayFailBy_ofRendering

/-- **What was resolved for the tables of a file is resolved for its source.**  Every field
of the file leads to a type, generating source fails only by a fault of rendering, and the
failures of a reference are those of the tables. -/
theorem generate_resolves (scope : Scope) (style : SourceStyle) (file : FileDescriptor) :
    (∀ tables, file.tables scope = .ok tables →
      (∀ message ∈ file.allMessages, ∀ field ∈ message.fields,
        field.Resolves scope tables.file) ∧
      ∀ failure, file.generate scope style = .error failure →
        failure.isOfRendering = true ∧ failure.isUnresolved = false) ∧
    ∀ failure, failure.isUnresolved = true →
      (file.generate scope style = .error failure ↔ file.tables scope = .error failure) := by
  refine ⟨fun tables htables => ⟨fun message hmessage field hfield =>
    resolves_of_tables htables hmessage hfield, fun failure hfailure => ?_⟩, ?_⟩
  · have hrendering := isOfRendering_of_generate htables hfailure
    exact ⟨hrendering, Failure.isUnresolved_of_isOfRendering hrendering⟩
  · intro failure hunresolved
    constructor
    · intro hfailure
      cases htables : file.tables scope with
      | error other =>
        unfold generate at hfailure
        rw [htables] at hfailure
        cases hfailure
        rfl
      | ok tables =>
        have hrendering := isOfRendering_of_generate htables hfailure
        rw [Failure.isUnresolved_of_isOfRendering hrendering] at hunresolved
        cases hunresolved
    · intro htables
      unfold generate
      rw [htables]
      rfl

/-- A file whose references lead to types, by a map and by a oneof, and which has an enum
without values. -/
def withEmptyEnum : FileDescriptor where
  name := some "kept.proto"
  messages :=
    [{ name := some "Kept"
       fields :=
        [{ name := some "byName", number := some 1, label := some 3, type := some 11,
           typeName := some ".Kept.ByNameEntry" },
         { name := some "next", number := some 2, label := some 1, type := some 11,
           typeName := some ".Kept", oneofIndex := some 0 }]
       oneofs := [{ name := some "link" }]
       nested :=
        [{ name := some "ByNameEntry"
           fields :=
            [{ name := some "key", number := some 1, label := some 1, type := some 9 },
             { name := some "value", number := some 2, label := some 1, type := some 11,
               typeName := some ".Kept" }]
           options := some ⟨some true⟩ }] }]
  enums := [{ name := some "Empty" }]

/-- A file with a reference that leads nowhere. -/
def withStrayReference : FileDescriptor where
  name := some "stray.proto"
  messages :=
    [{ name := some "Stray"
       fields :=
        [{ name := some "lost", number := some 1, label := some 1, type := some 11,
           typeName := some ".Nowhere" }] }]
  enums := [{ name := some "Empty" }]

theorem generate_resolves_kept :
    (∃ tables, withEmptyEnum.tables (Scope.of ⟨[withEmptyEnum]⟩ {}) = .ok tables ∧
      ∀ message ∈ withEmptyEnum.allMessages, ∀ field ∈ message.fields,
        field.Resolves (Scope.of ⟨[withEmptyEnum]⟩ {}) tables.file) ∧
    withEmptyEnum.generate (Scope.of ⟨[withEmptyEnum]⟩ {}) .flat =
      .error (.descriptor (.emptyEnum "Empty" "kept.proto")) ∧
    (Failure.descriptor (.emptyEnum "Empty" "kept.proto")).isOfRendering = true ∧
    withStrayReference.generate (Scope.of ⟨[withStrayReference]⟩ {}) .flat =
      .error (.unresolvedType "stray.proto" ".Nowhere") := by
  have hkept := generate_resolves (Scope.of ⟨[withEmptyEnum]⟩ {}) .flat withEmptyEnum
  have hstray := generate_resolves (Scope.of ⟨[withStrayReference]⟩ {}) .flat withStrayReference
  have hbuilds : (withEmptyEnum.tables (Scope.of ⟨[withEmptyEnum]⟩ {})).isOk = true := by
    decide +kernel
  obtain ⟨tables, htables⟩ := exists_eq_ok_of_isOk hbuilds
  have hempty : withEmptyEnum.generate (Scope.of ⟨[withEmptyEnum]⟩ {}) .flat =
      .error (.descriptor (.emptyEnum "Empty" "kept.proto")) := by rfl
  have hnowhere : withStrayReference.tables (Scope.of ⟨[withStrayReference]⟩ {}) =
      .error (.unresolvedType "stray.proto" ".Nowhere") := by rfl
  exact ⟨⟨tables, htables, (hkept.1 tables htables).1⟩, hempty,
    ((hkept.1 tables htables).2 _ hempty).1, (hstray.2 _ rfl).mpr hnowhere⟩

end FileDescriptor

end ProtoSchema
