import ProtoSchema.Catalog.Basic
import ProtoSchema.Resolve.Reference

/-!
# Scopes

A *scope* is what names mean while a set of files is worked on.  A name means
the type that the set declares under it.  Only a name that the set does not
declare is looked up in the catalog of what was loaded before.

The types of a set are known by their full names with a dot in front, exactly as
they are referred to.  When a name is declared twice the last declaration
counts.  Messages are declared before the enums of their file, and a message
before the messages and then the enums inside it.  Nothing inside a message
without a name is declared.
-/

namespace ProtoSchema

/-- Where a type is declared. -/
structure TypeHome where
  /-- Whether it is a message or an enum. -/
  kind : TypeKind
  /-- The package of the file. -/
  package : String
  /-- The file. -/
  file : String
deriving DecidableEq, Repr

/-! ## Declarations -/

/-- A type that a set declares. -/
structure Declaration where
  /-- Its full name, with a dot in front. -/
  name : String
  /-- Where it is declared. -/
  home : TypeHome
  /-- Its table, when it is an enum. -/
  enum? : Option EnumTable := none

/-- The values of an enum that have a name and a number. -/
def EnumDescriptor.entries (enum : EnumDescriptor) : List EnumEntry :=
  enum.values.filterMap fun value =>
    match value.name, value.number with
    | some name, some number => some ⟨name, number⟩
    | _, _ => none

/-- What an enum declares. -/
def EnumDescriptor.declarations (package file outer : String) (enum : EnumDescriptor) :
    List Declaration :=
  match enum.name with
  | none => []
  | some name =>
    let fullName := FullName.inside outer name
    [{ name := fullName
       home := ⟨.enum, package, file⟩
       enum? := some ⟨FullName.bare fullName, name, package, file, enum.entries⟩ }]

mutual

/-- What a message declares: itself, the messages inside it, and its enums. -/
def MessageDescriptor.declarations (package file outer : String) :
    MessageDescriptor → List Declaration
  | { name := none, .. } => []
  | { name := some name, nested, enums, .. } =>
    let fullName := FullName.inside outer name
    let outer := FullName.asOuter fullName
    { name := fullName, home := ⟨.message, package, file⟩ } ::
      (MessageDescriptor.declarationsInside package file outer nested ++
        enums.flatMap (EnumDescriptor.declarations package file outer))
termination_by structural message => message

/-- What the messages inside another declare. -/
def MessageDescriptor.declarationsInside (package file outer : String) :
    List MessageDescriptor → List Declaration
  | [] => []
  | message :: rest =>
    message.declarations package file outer ++ declarationsInside package file outer rest
termination_by structural messages => messages

end

/-- What a file declares. -/
def FileDescriptor.declarations (file : FileDescriptor) : List Declaration :=
  let name := file.name.getD ""
  file.messages.flatMap (MessageDescriptor.declarations file.packageName name file.typePrefix) ++
    file.enums.flatMap (EnumDescriptor.declarations file.packageName name file.typePrefix)

/-- What a set declares. -/
def FileSet.declarations (set : FileSet) : List Declaration :=
  set.files.flatMap FileDescriptor.declarations

/-- Where the types of a set are declared, by name. -/
def FileSet.homes (set : FileSet) : NameTable TypeHome :=
  set.declarations.foldl (fun table d => table.insert d.name d.home) .empty

/-- The enums of a set, by name. -/
def FileSet.enumTables (set : FileSet) : NameTable EnumTable :=
  set.declarations.foldl
    (fun table d =>
      match d.enum? with
      | some enum => table.insert d.name enum
      | none => table)
    .empty

/-! ## Scopes -/

/-- A set of files that is worked on, and what was loaded before.  What follows
from the set is kept with it, so that it is worked out once.  The cyclic fields
are worked out when they are first asked for. -/
structure Scope where
  /-- The set. -/
  set : FileSet
  /-- What was loaded before. -/
  loaded : Catalog
  /-- Where the types of the set are declared. -/
  homes : NameTable TypeHome := set.homes
  /-- The enums of the set. -/
  enums : NameTable EnumTable := set.enumTables
  /-- The cyclic fields of the set. -/
  cyclic : Thunk (List CyclicField) := ⟨fun _ => set.cyclicFields⟩
  /-- The homes are those of the set. -/
  homes_eq : homes = set.homes := by rfl
  /-- The enums are those of the set. -/
  enums_eq : enums = set.enumTables := by rfl
  /-- The cyclic fields are those of the set. -/
  cyclic_eq : cyclic.get = set.cyclicFields := by rfl

namespace Scope

/-- The scope of a set on top of what was loaded before. -/
def of (set : FileSet) (loaded : Catalog) : Scope := { set, loaded }

/-- Where a type that was loaded before is declared. -/
def loadedHome? (scope : Scope) (name : String) : Option TypeHome :=
  match scope.loaded.message? name, scope.loaded.enum? name with
  | some table, _ => some ⟨.message, table.package, table.file⟩
  | none, some table => some ⟨.enum, table.package, table.file⟩
  | none, none => none

/-- Where the type of this name is declared. -/
def home? (scope : Scope) (name : String) : Option TypeHome :=
  (scope.homes.find? name).or (scope.loadedHome? name)

/-- Whether a name means a message or an enum. -/
def kind? (scope : Scope) (name : String) : Option TypeKind := (scope.home? name).map TypeHome.kind

/-- The enum of this name. -/
def enum? (scope : Scope) (name : String) : Option EnumTable :=
  (scope.enums.find? name).or (scope.loaded.enum? name)

/-- Whether a field of a message leads back to the message. -/
def isCyclic (scope : Scope) (message field : String) : Bool :=
  scope.cyclic.get.contains ⟨message, field⟩

/-- Checks that every file in a list of imports is in the set or was loaded. -/
def checkDependencies (scope : Scope) (file : String) (dependencies : List String) :
    Except Failure Unit :=
  match dependencies.find? fun name =>
      (scope.set.find? name).isNone && !scope.loaded.containsFile name with
  | some missing => .error (.unresolvedDependency file missing)
  | none => .ok ()

end Scope

end ProtoSchema
