import ProtoSchema.Proofs.Table.Build
import ProtoSchema.Proofs.Resolve.Declarations

/-!
# Tables and declarations

Tables are built by going through the messages of a set, and the declarations of
the set are found by going through the same messages another way.  The two agree.
Every declared message has one table, under its bare name, and every declared
enum gives the table that its name means.

`TablesOf` states that for some tables and some declarations.
`MessageDescriptor.tablesOf`, `FileDescriptor.tablesOf` and `Scope.tablesOf` go
from the inside out.
-/

namespace ProtoSchema

open Checked

/-- The bare name of a declared message. -/
def Declaration.messageName? (d : Declaration) : Option String :=
  match d.home.kind with
  | .message => some (FullName.bare d.name)
  | .enum => none

/-- The table that the name of a declared enum means. -/
def Scope.declaredEnum? (scope : Scope) (d : Declaration) : Option EnumTable :=
  d.enum?.bind fun _ => scope.enums.find? d.name

/-- Tables that are those of some declarations, up to the order. -/
structure TablesOf (scope : Scope) (declarations : List Declaration)
    (messages : List MessageTable) (enums : List EnumTable) : Prop where
  messages : (messages.map MessageTable.fullName).Perm
    (declarations.filterMap Declaration.messageName?)
  enums : enums.Perm (declarations.filterMap scope.declaredEnum?)

namespace TablesOf

variable {scope : Scope}

theorem nil : TablesOf scope [] [] [] := ⟨.refl _, .refl _⟩

theorem append {declarations moreDeclarations : List Declaration}
    {messages moreMessages : List MessageTable} {enums moreEnums : List EnumTable}
    (h : TablesOf scope declarations messages enums)
    (hmore : TablesOf scope moreDeclarations moreMessages moreEnums) :
    TablesOf scope (declarations ++ moreDeclarations) (messages ++ moreMessages)
      (enums ++ moreEnums) := by
  constructor
  · rw [List.map_append, List.filterMap_append]
    exact h.messages.append hmore.messages
  · rw [List.filterMap_append]
    exact h.enums.append hmore.enums

/-- The order of tables does not matter. -/
theorem reorder {declarations : List Declaration} {messages messages' : List MessageTable}
    {enums enums' : List EnumTable} (h : TablesOf scope declarations messages enums)
    (hmessages : messages'.Perm messages) (henums : enums'.Perm enums) :
    TablesOf scope declarations messages' enums' :=
  ⟨(hmessages.map _).trans h.messages, henums.trans h.enums⟩

/-- Tables that belong together item by item belong together as a whole. -/
theorem flatMap {α β : Type} {declared : α → List Declaration} {messages : β → List MessageTable}
    {enums : β → List EnumTable} {items : List α} {parts : List β}
    (h : List.Forall₂ (fun a b => TablesOf scope (declared a) (messages b) (enums b))
      items parts) :
    TablesOf scope (items.flatMap declared) (parts.flatMap messages) (parts.flatMap enums) := by
  induction h with
  | nil => exact nil
  | cons hfirst _ ih =>
    rw [List.flatMap_cons, List.flatMap_cons, List.flatMap_cons]
    exact hfirst.append ih

/-- The name of a table is that of a declared message. -/
theorem exists_of_mem_messages {declarations : List Declaration} {messages : List MessageTable}
    {enums : List EnumTable} (h : TablesOf scope declarations messages enums) {name : String}
    (hname : name ∈ messages.map MessageTable.fullName) :
    ∃ d ∈ declarations, d.home.kind = .message ∧ FullName.bare d.name = name := by
  obtain ⟨d, hd, hfound⟩ := List.mem_filterMap.mp (h.messages.mem_iff.mp hname)
  refine ⟨d, hd, ?_⟩
  unfold Declaration.messageName? at hfound
  split at hfound
  · next hkind =>
    cases hfound
    exact ⟨hkind, rfl⟩
  · cases hfound

/-- A declared message has a table. -/
theorem mem_messages {declarations : List Declaration} {messages : List MessageTable}
    {enums : List EnumTable} (h : TablesOf scope declarations messages enums) {d : Declaration}
    (hd : d ∈ declarations) (hkind : d.home.kind = .message) :
    FullName.bare d.name ∈ messages.map MessageTable.fullName := by
  have hname : d.messageName? = some (FullName.bare d.name) := by
    rw [Declaration.messageName?, hkind]
  exact h.messages.mem_iff.mpr (List.mem_filterMap.mpr ⟨d, hd, hname⟩)

/-- The table of an enum is what the name of a declared enum means. -/
theorem exists_of_mem_enums {declarations : List Declaration} {messages : List MessageTable}
    {enums : List EnumTable} (h : TablesOf scope declarations messages enums) {table : EnumTable}
    (htable : table ∈ enums) :
    ∃ d ∈ declarations, d.enum?.isSome = true ∧ scope.enums.find? d.name = some table := by
  obtain ⟨d, hd, hfound⟩ := List.mem_filterMap.mp (h.enums.mem_iff.mp htable)
  obtain ⟨declared, hdeclared, hfound⟩ := Option.bind_eq_some_iff.mp hfound
  exact ⟨d, hd, Option.isSome_iff_exists.mpr ⟨declared, hdeclared⟩, hfound⟩

/-- What the name of a declared enum means is a table. -/
theorem mem_enums {declarations : List Declaration} {messages : List MessageTable}
    {enums : List EnumTable} (h : TablesOf scope declarations messages enums) {d : Declaration}
    {table : EnumTable} (hd : d ∈ declarations) (hdeclared : d.enum?.isSome = true)
    (hfound : scope.enums.find? d.name = some table) : table ∈ enums := by
  obtain ⟨declared, hdeclared⟩ := Option.isSome_iff_exists.mp hdeclared
  refine h.enums.mem_iff.mpr (List.mem_filterMap.mpr ⟨d, hd, ?_⟩)
  rw [Scope.declaredEnum?, hdeclared, Option.bind_some, hfound]

end TablesOf

/-! ## From the inside out -/

/-- The table of an enum is what its declaration means. -/
theorem EnumDescriptor.tables_eq_filterMap (scope : Scope) (package file outer : String)
    (enum : EnumDescriptor) :
    enum.tables scope outer =
      (enum.declarations package file outer).filterMap scope.declaredEnum? := by
  unfold declarations EnumDescriptor.tables
  cases enum.name with
  | none => rfl
  | some name =>
    simp only [List.filterMap_cons, List.filterMap_nil, Scope.declaredEnum?, Option.bind_some]
    cases scope.enums.find? (FullName.inside outer name) with
    | none => rfl
    | some table => rfl

theorem EnumDescriptor.filterMap_messageName? (package file outer : String)
    (enum : EnumDescriptor) :
    (enum.declarations package file outer).filterMap Declaration.messageName? = [] := by
  unfold declarations
  cases enum.name with
  | none => rfl
  | some name => rfl

theorem EnumDescriptor.tablesOf (scope : Scope) (package file outer : String)
    (enum : EnumDescriptor) :
    TablesOf scope (enum.declarations package file outer) [] (enum.tables scope outer) := by
  constructor
  · rw [enum.filterMap_messageName?]
    exact .refl _
  · rw [enum.tables_eq_filterMap scope package file]

/-- The tables of enums side by side. -/
theorem EnumDescriptor.tablesOf_flatMap (scope : Scope) (package file outer : String)
    (enums : List EnumDescriptor) :
    TablesOf scope (enums.flatMap (declarations package file outer)) []
      (enums.flatMap (EnumDescriptor.tables scope outer)) := by
  induction enums with
  | nil => exact .nil
  | cons enum enums ih =>
    rw [List.flatMap_cons, List.flatMap_cons]
    exact (enum.tablesOf scope package file outer).append ih

theorem MessageDescriptor.tablesOf {scope : Scope} {file package : String} {isProto3 : Bool}
    {outer : String} {message : MessageDescriptor} {found : List MessageTable × List EnumTable}
    (h : message.tables scope file package isProto3 outer = .ok found) :
    TablesOf scope (message.declarations package file outer) found.1 found.2 := by
  induction message using nesting generalizing outer found with
  | step message ih =>
    obtain ⟨name, own, parts, hname, hown, hparts, rfl⟩ := tables_eq_ok h
    have hself : TablesOf scope
        [{ name := FullName.inside outer name, home := ⟨.message, package, file⟩ }] [own] [] := by
      constructor
      · rw [List.map_singleton, hown.fullName]
        exact .refl _
      · exact .refl _
    have hinside : TablesOf scope
        (message.nested.flatMap
          (declarations package file (FullName.asOuter (FullName.inside outer name))))
        (parts.flatMap Prod.fst) (parts.flatMap Prod.snd) :=
      .flatMap ((forall₂_mem_and (mapM_eq_ok.mp hparts)).imp fun _ _ h => ih _ h.1 h.2)
    have henums := EnumDescriptor.tablesOf_flatMap scope package file
      (FullName.asOuter (FullName.inside outer name)) message.enums
    rw [declarations_of_name_eq_some hname]
    refine (hself.append (hinside.append henums)).reorder ?_ ?_
    · rw [List.append_nil]
      exact List.perm_append_comm
    · exact List.perm_append_comm

theorem FileDescriptor.tablesOf {scope : Scope} {file : FileDescriptor} {found : FileTable}
    (h : file.tables scope = .ok found) :
    TablesOf scope file.declarations found.messages found.enums := by
  obtain ⟨name, parts, hname, -, hparts, rfl⟩ := tables_eq_ok h
  have hmessages : TablesOf scope
      (file.messages.flatMap
        (MessageDescriptor.declarations file.packageName name file.typePrefix))
      (parts.flatMap Prod.fst) (parts.flatMap Prod.snd) :=
    .flatMap ((mapM_eq_ok.mp hparts).imp fun _ _ hpart => MessageDescriptor.tablesOf hpart)
  have henums := EnumDescriptor.tablesOf_flatMap scope file.packageName name file.typePrefix
    file.enums
  rw [declarations, hname]
  refine (hmessages.append henums).reorder ?_ ?_
  · rw [List.append_nil]
  · exact List.perm_append_comm

/-- The tables that are built for a set are those of its declarations. -/
theorem Scope.tablesOf {scope : Scope} {files : List FileTable} (h : scope.tables = .ok files) :
    TablesOf scope scope.set.declarations (files.flatMap FileTable.messages)
      (files.flatMap FileTable.enums) :=
  .flatMap ((mapM_eq_ok.mp h).imp fun _ _ hfile => FileDescriptor.tablesOf hfile)

end ProtoSchema
