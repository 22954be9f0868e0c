import ProtoSchema.Source.Generate
import ProtoSchema.Proofs.Collection.Checked
import ProtoSchema.Proofs.Source.Ident

/-!
# Places in rendered source

The items of a file stand in the module of the file, and those in a module of a
message one module deeper.  A `Placed` thing is something rendered, with the
modules around it.  `Item.collectAll` collects such things from items:
the records (`Item.ownRecords`), or the ways to rendered types that are written in
them (`Item.ownPaths`).

A way that is written somewhere leads out of one module for each `super` in front
and then down by the names that follow (`TypePath.landing`).

`Scope.rendered` collects the items of each file.  These are what the generated
text is written from (`Scope.exists_rendered_of_generate`).
-/

namespace ProtoSchema

open Checked

/-- Something in rendered source. -/
structure Placed (α : Type) where
  /-- The modules around it, the outermost first. -/
  around : List String
  /-- What stands there. -/
  item : α

/-- The place of a record: the modules around it, and its name. -/
def Placed.location (placed : Placed RecordItem) : List String :=
  placed.around ++ [placed.item.name.spelling]

/-! ## Ways to types -/

/-- The ways to rendered types in a type. -/
def SourceType.typePaths : SourceType → List TypePath
  | .path way => [way]
  | .optional item => item.typePaths
  | .list item => item.typePaths
  | .boxed item => item.typePaths
  | .map key value => key.typePaths ++ value.typePaths
  | _ => []

/-- The ways in the fields of a record.  A field that holds a oneof is none of the
message, and the way in it leads to the choice. -/
def RecordItem.typePaths (record : RecordItem) : List TypePath :=
  (record.fields.filter fun field => field.number.isSome).flatMap fun field =>
    field.type.typePaths

/-- The ways in the variants of a choice. -/
def ChoiceItem.typePaths (choice : ChoiceItem) : List TypePath :=
  choice.variants.flatMap fun variant => variant.type.typePaths

namespace TypePath

/-- Where a way leads from what stands inside some modules.  Each `super` in front
leads out of one module. -/
def landing (path : TypePath) (around : List String) : List String :=
  let up := (path.steps.takeWhile fun step => step == "super").length
  around.take (around.length - up) ++ path.steps.drop up

/-- A way that leads out of all modules lands on the names behind that. -/
theorem landing_of_steps {path : TypePath} {around : List String} {module : String}
    {names : List String}
    (h : path.steps = List.replicate around.length "super" ++ module :: names)
    (hmodule : module ≠ "super") : path.landing around = module :: names := by
  have hup : (path.steps.takeWhile fun step => step == "super").length = around.length := by
    rw [h, List.takeWhile_append_of_pos, List.takeWhile_cons_of_neg, List.append_nil,
      List.length_replicate]
    · exact fun heq => hmodule (eq_of_beq heq)
    · intro step hstep
      rw [List.eq_of_mem_replicate hstep]
      rfl
  simp only [landing, hup]
  rw [h, Nat.sub_self, List.take_zero, List.nil_append,
    List.drop_left' (List.length_replicate ..)]

end TypePath

/-! ## Items -/

namespace Item

/-- The record that an item is. -/
def ownRecords : Item → List RecordItem
  | .record item => [item]
  | _ => []

/-- The ways to rendered types that are written in an item itself. -/
def ownPaths : Item → List TypePath
  | .record item => item.typePaths
  | .choice item => item.typePaths
  | _ => []

mutual

/-- Collects something from an item, or from the items inside a module. -/
def collect {α : Type} (own : Item → List α) (around : List String) : Item → List (Placed α)
  | .module name items => collectAll own (around ++ [name.spelling]) items
  | item => (own item).map (Placed.mk around)
termination_by structural item => item

/-- Collects something from several items. -/
def collectAll {α : Type} (own : Item → List α) (around : List String) :
    List Item → List (Placed α)
  | [] => []
  | item :: rest => item.collect own around ++ collectAll own around rest
termination_by structural items => items

end

section

variable {α : Type} (own : Item → List α) (around : List String)

theorem collect_record (item : RecordItem) :
    (record item).collect own around = (own (.record item)).map (Placed.mk around) := rfl

theorem collect_enumeration (item : EnumItem) :
    (enumeration item).collect own around = (own (.enumeration item)).map (Placed.mk around) :=
  rfl

theorem collectAll_eq_flatMap (items : List Item) :
    collectAll own around items = items.flatMap (collect own around) := by
  induction items with
  | nil => rfl
  | cons item items ih => rw [collectAll, ih, List.flatMap_cons]

theorem collectAll_append (first second : List Item) :
    collectAll own around (first ++ second) =
      collectAll own around first ++ collectAll own around second := by
  simp only [collectAll_eq_flatMap, List.flatMap_append]

/-- Something is collected from the items of several messages one after the
other. -/
theorem collectAll_flatten (messages : List (List Item)) :
    collectAll own around messages.flatten = messages.flatMap (collectAll own around) := by
  induction messages with
  | nil => rfl
  | cons items messages ih => rw [List.flatten_cons, collectAll_append, ih, List.flatMap_cons]

/-- A module that is left out when it is empty holds the same. -/
theorem collectAll_moduleOf (name : Ident) (items : List Item) :
    collectAll own around (moduleOf name items) =
      collectAll own (around ++ [name.spelling]) items := by
  cases items with
  | nil => rfl
  | cons item items => exact List.append_nil _

theorem collectAll_choices (choices : List (ChoiceItem × RecordField)) :
    collectAll own around (choices.map fun (found, _) => .choice found) =
      (choices.flatMap fun found => own (.choice found.1)).map (Placed.mk around) := by
  induction choices with
  | nil => rfl
  | cons found choices ih =>
    rw [List.flatMap_cons, List.map_append, ← ih]
    rfl

theorem collectAll_enums (enums : List EnumItem) :
    collectAll own around (enums.map .enumeration) =
      (enums.flatMap fun enum => own (.enumeration enum)).map (Placed.mk around) := by
  induction enums with
  | nil => rfl
  | cons enum enums ih =>
    rw [List.map_cons, collectAll, ih, collect_enumeration, List.flatMap_cons, List.map_append]

/-- Nothing is collected from enums when there is nothing to collect from each. -/
theorem collectAll_enums_eq_nil (h : ∀ enum, own (.enumeration enum) = [])
    (enums : List EnumItem) : collectAll own around (enums.map .enumeration) = [] := by
  rw [collectAll_enums, List.flatMap_eq_nil_iff.mpr fun enum _ => h enum]
  rfl

end

/-! ## What can be written -/

theorem areWritable_append (first second : List Item) :
    areWritable (first ++ second) = (areWritable first && areWritable second) := by
  induction first with
  | nil => rfl
  | cons item items ih => rw [List.cons_append, areWritable, areWritable, ih, Bool.and_assoc]

theorem areWritable_flatten {messages : List (List Item)}
    (h : areWritable messages.flatten = true) : ∀ items ∈ messages, areWritable items = true := by
  induction messages with
  | nil =>
    intro items hitems
    cases hitems
  | cons first messages ih =>
    rw [List.flatten_cons, areWritable_append, Bool.and_eq_true] at h
    intro items hitems
    cases hitems with
    | head => exact h.1
    | tail _ hitems => exact ih h.2 items hitems

/-- A module that is left out when it is empty needs a name only for what is in it. -/
theorem areWritable_moduleOf {name : Ident} {items : List Item} :
    areWritable (moduleOf name items) = true ↔
      (items ≠ [] → name.mayBeDeclared = true) ∧ areWritable items = true := by
  cases items with
  | nil => simp [moduleOf, areWritable]
  | cons item items => simp [moduleOf, areWritable, isWritable]

end Item

/-! ## Files -/

/-- What is rendered for a file. -/
structure RenderedFile where
  /-- The package of the file. -/
  package : String
  /-- The module of the file. -/
  module : String
  /-- The items in it. -/
  items : List Item

namespace RenderedFile

/-- The records of a file. -/
def records (file : RenderedFile) : List (Placed RecordItem) :=
  Item.collectAll Item.ownRecords [file.module] file.items

/-- The ways to rendered types that are written in a file. -/
def typePaths (file : RenderedFile) : List (Placed TypePath) :=
  Item.collectAll Item.ownPaths [file.module] file.items

end RenderedFile

/-- Renders a file without writing it. -/
def FileDescriptor.rendered (scope : Scope) (file : FileDescriptor) :
    Except Failure RenderedFile := do
  let tables ← FileDescriptor.tables scope file
  return { package := file.packageName
           module := Naming.fileModule file.packageName tables.file
           items := ← FileDescriptor.items scope tables.file file }

/-- Renders every file of a scope without writing it. -/
def Scope.rendered (scope : Scope) : Except Failure (List RenderedFile) :=
  scope.set.files.mapM (FileDescriptor.rendered scope)

/-- Whether generated source is what is rendered for a file, as it is written. -/
structure SourceStyle.Writes (style : SourceStyle) (generated : GeneratedFile)
    (file : RenderedFile) : Prop where
  module : generated.module = file.module
  source : style.write file.items = .ok generated.source

theorem FileDescriptor.exists_rendered_of_generate {scope : Scope} {style : SourceStyle}
    {file : FileDescriptor} {generated : GeneratedFile}
    (h : file.generate scope style = .ok generated) :
    ∃ rendered, file.rendered scope = .ok rendered ∧ style.Writes generated rendered := by
  obtain ⟨tables, htables, h⟩ := bind_eq_ok.mp h
  obtain ⟨items, hitems, h⟩ := bind_eq_ok.mp h
  obtain ⟨source, hsource, h⟩ := bind_eq_ok.mp h
  cases h
  refine ⟨⟨file.packageName, Naming.fileModule file.packageName tables.file, items⟩, ?_, rfl,
    hsource⟩
  exact bind_eq_ok.mpr ⟨tables, htables, bind_eq_ok.mpr ⟨items, hitems, rfl⟩⟩

/-- Source is generated along with the tables of the file. -/
theorem FileDescriptor.tables_of_generate {scope : Scope} {style : SourceStyle}
    {file : FileDescriptor} {generated : GeneratedFile}
    (h : file.generate scope style = .ok generated) :
    file.tables scope = .ok generated.tables := by
  obtain ⟨tables, htables, h⟩ := bind_eq_ok.mp h
  obtain ⟨items, -, h⟩ := bind_eq_ok.mp h
  obtain ⟨source, -, h⟩ := bind_eq_ok.mp h
  cases h
  exact htables

/-- Generated source is what is rendered, as it is written. -/
theorem Scope.exists_rendered_of_generate {scope : Scope} {style : SourceStyle}
    {generated : List GeneratedFile} (h : scope.generate style = .ok generated) :
    ∃ files, scope.rendered = .ok files ∧ List.Forall₂ style.Writes generated files := by
  unfold generate at h
  unfold Scope.rendered
  generalize scope.set.files = descriptors at h
  induction descriptors generalizing generated with
  | nil =>
    cases h
    exact ⟨[], rfl, .nil⟩
  | cons file descriptors ih =>
    rw [List.mapM_cons] at h
    obtain ⟨first, hfirst, h⟩ := bind_eq_ok.mp h
    obtain ⟨rest, hrest, h⟩ := bind_eq_ok.mp h
    cases h
    obtain ⟨firstRendered, hrendered, hwritten⟩ := file.exists_rendered_of_generate hfirst
    obtain ⟨restRendered, hrestRendered, hrestWritten⟩ := ih hrest
    refine ⟨firstRendered :: restRendered, ?_, .cons hwritten hrestWritten⟩
    rw [List.mapM_cons, hrendered, hrestRendered]
    rfl

/-- What was written had names that could be written. -/
theorem SourceStyle.Writes.areWritable {style : SourceStyle} {generated : GeneratedFile}
    {file : RenderedFile} (h : style.Writes generated file) :
    Item.areWritable file.items = true := by
  have hsource := h.source
  unfold write at hsource
  split at hsource
  · cases hsource
  · next hwritable =>
    rw [Bool.not_eq_true, Bool.not_eq_false'] at hwritable
    exact hwritable

theorem SourceStyle.areWritable_of_mem {style : SourceStyle} {generated : List GeneratedFile}
    {files : List RenderedFile} (h : List.Forall₂ style.Writes generated files)
    {file : RenderedFile} (hfile : file ∈ files) : Item.areWritable file.items = true := by
  induction h with
  | nil => cases hfile
  | cons hfirst _ ih =>
    cases hfile with
    | head => exact hfirst.areWritable
    | tail _ hfile => exact ih hfile

end ProtoSchema
