import ProtoSchema.Proofs.Source.Records

/-!
# Where types are rendered

Every message, every enum and every oneof that counts is rendered as a type, map
entries inside others left out.  `FileSet.typeSites` lists them in the order in which
they are rendered, each with its place in the schema.  From the place and the name
follow the modules around the type and its identifier (`TypeSite.location`).

What is rendered are these types, one by one, and each stands where its site says
(`Scope.map_typeLocation_eq`).
-/

namespace ProtoSchema

open Checked

/-! ## Sites -/

/-- A type that is rendered, by its place in the schema. -/
structure TypeSite where
  /-- The place.  A oneof is in the place that is its message. -/
  place : SchemaPlace
  /-- Whether it is rendered for a oneof. -/
  isOneof : Bool := false
  /-- The name in the schema. -/
  name : String
deriving DecidableEq, Repr

namespace TypeSite

/-- The identifier of the type. -/
def identifier (site : TypeSite) : String :=
  if site.isOneof then Naming.variantName site.name else Naming.typeName site.name

/-- The modules around the type, and its identifier. -/
def location (site : TypeSite) : List String := site.place.modules ++ [site.identifier]

end TypeSite

/-- The name of the oneof at a position. -/
def MessageDescriptor.oneofName? (message : MessageDescriptor) (position : Nat) :
    Option String :=
  (message.oneofs[position]?).bind OneofDescriptor.name

/-- The site of an enum that has a name. -/
def EnumDescriptor.typeSite? (place : SchemaPlace) (enum : EnumDescriptor) : Option TypeSite :=
  enum.name.map fun name => { place, name }

namespace SurroundedMessage

/-- The sites of the oneofs of a message. -/
def oneofSites (found : SurroundedMessage) : List TypeSite :=
  found.message.realOneofs.map fun position =>
    { place := found.inside, isOneof := true, name := (found.message.oneofName? position).getD "" }

/-- The sites of a message, of its oneofs and of the enums inside it. -/
def typeSites (found : SurroundedMessage) : List TypeSite :=
  { place := found.place, name := found.name } ::
    (found.oneofSites ++ found.message.enums.filterMap (EnumDescriptor.typeSite? found.inside))

end SurroundedMessage

/-- The sites of the types of a file. -/
def FileDescriptor.typeSites (module : String) (file : FileDescriptor) : List TypeSite :=
  file.enums.filterMap (EnumDescriptor.typeSite? (file.place module)) ++
    (file.surrounded module).flatMap SurroundedMessage.typeSites

/-- The sites of the types of a set. -/
def FileSet.typeSites (set : FileSet) : List TypeSite :=
  set.files.flatMap fun file =>
    file.typeSites (Naming.fileModule file.packageName (file.name.getD ""))

/-! ## Rendered types -/

/-- The name of the type that an item is. -/
def Item.ownTypes : Item → List Ident
  | .record item => [item.name]
  | .choice item => [item.name]
  | .enumeration item => [item.name]
  | .module _ _ => []

/-- The types of a file, by their names. -/
def RenderedFile.types (file : RenderedFile) : List (Placed Ident) :=
  Item.collectAll Item.ownTypes [file.module] file.items

/-- The modules around a type, and its identifier. -/
def Placed.typeLocation (placed : Placed Ident) : List String :=
  placed.around ++ [placed.item.spelling]

/-- Whether a rendered type stands where a site says. -/
def Placed.StandsAt (placed : Placed Ident) (site : TypeSite) : Prop :=
  placed.typeLocation = site.location

theorem Placed.standsAt_of_ofText? (site : TypeSite) {ident : Ident}
    (h : Ident.ofText? site.identifier = some ident) :
    Placed.StandsAt ⟨site.place.modules, ident⟩ site := by
  rw [StandsAt, typeLocation, TypeSite.location, Ident.spelling_of_ofText? h]

/-! ## Enums -/

theorem EnumItem.name_add (item : EnumItem) (value : EnumVariant) :
    (item.add value).name = item.name := by
  unfold add
  split
  · rfl
  · rfl

theorem EnumItem.name_ofValues (name : Ident) (first : EnumVariant) (rest : List EnumVariant) :
    (ofValues name first rest).name = name := by
  have hadded : ∀ item : EnumItem, (rest.foldl add item).name = item.name := by
    induction rest with
    | nil => exact fun _ => rfl
    | cons value rest ih => exact fun item => (ih _).trans (item.name_add value)
  exact hadded _

theorem EnumDescriptor.exists_name_of_item {file : String} {enum : EnumDescriptor}
    {found : EnumItem} (h : enum.item file = .ok found) :
    ∃ name, enum.name = some name ∧ Ident.ofText? (Naming.typeName name) = some found.name := by
  unfold item at h
  split at h
  · cases h
  · next name hname =>
    obtain ⟨ident, hident, h⟩ := bind_eq_ok.mp h
    obtain ⟨values, -, h⟩ := bind_eq_ok.mp h
    refine ⟨name, hname, ?_⟩
    cases values with
    | nil => cases h
    | cons first rest =>
      cases h
      rw [EnumItem.name_ofValues]
      exact Ident.check_eq_ok.mp hident

/-- The enums of a place stand where their sites say. -/
theorem EnumDescriptor.forall₂_standsAt {file : String} (place : SchemaPlace)
    {enums : List EnumDescriptor} {found : List EnumItem}
    (h : enums.mapM (item file) = .ok found) :
    List.Forall₂ Placed.StandsAt
      ((found.flatMap fun enum => Item.ownTypes (.enumeration enum)).map
        (Placed.mk place.modules))
      (enums.filterMap (typeSite? place)) := by
  have hall := mapM_eq_ok.mp h
  clear h
  induction hall with
  | nil => exact .nil
  | cons hitem _ ih =>
    obtain ⟨name, hname, hident⟩ := exists_name_of_item hitem
    rw [List.filterMap_cons_some (by rw [typeSite?, hname, Option.map_some])]
    exact .cons (Placed.standsAt_of_ofText? { place, name } hident) ih

/-! ## Messages -/

namespace RenderedMessage

variable {scope : Scope} {file : String} {isProto3 : Bool}

/-- The choices of a message stand where the sites of its oneofs say. -/
theorem forall₂_oneofSites {place : SchemaPlace} {message : MessageDescriptor}
    {rendered : RenderedMessage} {depth : Nat}
    (h : message.Renders scope file isProto3 depth place.outer rendered) :
    List.Forall₂ Placed.StandsAt
      ((rendered.choices.flatMap fun found => Item.ownTypes (.choice found.1)).map
        (Placed.mk (place.inside rendered.ownName).modules))
      (SurroundedMessage.oneofSites ⟨place, rendered.ownName, message⟩) := by
  rw [SurroundedMessage.oneofSites, List.forall₂_map_right_iff, List.forall₂_map_left_iff]
  simp only [Item.ownTypes]
  rw [← List.map_eq_flatMap, List.forall₂_map_left_iff]
  refine ((mapM_eq_ok.mp h.choices).imp fun position found hchoice => ?_).flip
  exact Placed.standsAt_of_ofText?
    { place := place.inside rendered.ownName, isOneof := true, name := _ }
    (MessageDescriptor.rendersChoice_of_choice hchoice).name

/-- What is rendered for a message itself stands where its sites say. -/
theorem collectsOwn_ownTypes (scope : Scope) (file : String) (isProto3 : Bool) :
    CollectsOwn scope file isProto3 Item.ownTypes Placed.StandsAt
      SurroundedMessage.typeSites := by
  intro place message rendered hrenders
  rw [collectOwn, hrenders.modules_inside, List.map_append]
  refine .cons ?_ (List.rel_append (forall₂_oneofSites hrenders) ?_)
  · exact Placed.standsAt_of_ofText? { place, name := rendered.ownName } hrenders.name
  · exact EnumDescriptor.forall₂_standsAt (place.inside rendered.ownName) hrenders.enums

end RenderedMessage

/-! ## Files -/

/-- The types of a file stand where their sites say. -/
theorem FileDescriptor.forall₂_typeSites {scope : Scope} {file : FileDescriptor}
    {rendered : RenderedFile} (h : file.Renders scope rendered) :
    List.Forall₂ Placed.StandsAt rendered.types (file.typeSites rendered.module) :=
  forall₂_collectAll
    (fun _ henums => EnumDescriptor.forall₂_standsAt (file.place rendered.module) henums)
    (RenderedMessage.collectsOwn_ownTypes _ _ _) h.items

/-- The types of a set stand where their sites say. -/
theorem Scope.map_typeLocation_eq {scope : Scope} {files : List RenderedFile}
    (h : scope.rendered = .ok files) :
    (files.flatMap RenderedFile.types).map Placed.typeLocation =
      scope.set.typeSites.map TypeSite.location := by
  rw [← List.forall₂_eq_eq_eq, List.forall₂_map_left_iff, List.forall₂_map_right_iff]
  refine List.rel_flatMap (mapM_eq_ok.mp h).flip fun rendered file hrendered => ?_
  have hrenders := FileDescriptor.renders_of_rendered hrendered
  rw [← hrenders.module]
  exact FileDescriptor.forall₂_typeSites hrenders

end ProtoSchema
