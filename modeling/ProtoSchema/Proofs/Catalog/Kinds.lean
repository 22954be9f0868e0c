import Mathlib.Data.List.Nodup
import ProtoSchema.Proofs.Catalog.History

/-!
# The kinds that a name has

A catalog keeps messages and enums apart, and a load that puts in a type of one kind
does not look at the other one.  So each kind has its own history.  For either kind a
name stands for what the last load that put in a type of this kind put in, and a type
of the other kind that was loaded before or after it changes nothing about it
(`keepsKinds_afterLoads`).

A set that names its types once puts in no name for both kinds.  Two such sets can
still do so together, one after the other, and then both types are stored
(`exists_both_kinds`).  A set that refers to the name means the message.
-/

namespace ProtoSchema

/-- The name that a declared type is stored under. -/
def Declaration.storedName (d : Declaration) : String := FullName.bare d.name

namespace FileSet

/-- Whether no two types of a set are stored under one name. -/
def NamesTypesOnce (set : FileSet) : Prop :=
  (set.declarations.map Declaration.storedName).Nodup

instance (set : FileSet) : Decidable set.NamesTypesOnce :=
  inferInstanceAs (Decidable (set.declarations.map Declaration.storedName).Nodup)

end FileSet

/-! ## What a load puts in -/

/-- A declaration with a table is that of an enum. -/
theorem Declaration.IsSound.kind_eq_enum_iff {d : Declaration} (h : d.IsSound) :
    d.home.kind = .enum ↔ ∃ table, d.enum? = some table := by
  unfold IsSound at h
  cases hkind : d.home.kind with
  | message =>
    rw [hkind] at h
    refine iff_of_false (fun h => by cases h) ?_
    rintro ⟨table, htable⟩
    cases h.symm.trans htable
  | enum =>
    rw [hkind] at h
    obtain ⟨table, htable, -⟩ := h
    exact iff_of_true rfl ⟨table, htable⟩

namespace Load

variable {load : Load} {name : String}

/-- A load puts in a type of some kind under a name when its set declares one. -/
theorem activates_iff {kind : TypeKind} :
    load.Activates kind name ↔
      ∃ d ∈ load.set.declarations, d.home.kind = kind ∧ d.storedName = FullName.bare name := by
  have htables := Scope.tablesOf load.built
  cases kind with
  | message =>
    constructor
    · rintro ⟨table, htable, hname⟩
      exact htables.exists_of_mem_messages (List.mem_map.mpr ⟨table, htable, hname⟩)
    · rintro ⟨d, hd, hkind, hname⟩
      obtain ⟨table, htable, hfullName⟩ := List.mem_map.mp (htables.mem_messages hd hkind)
      exact ⟨table, htable, hfullName.trans hname⟩
  | enum =>
    constructor
    · rintro ⟨table, htable, hname⟩
      obtain ⟨d, -, -, hfound⟩ := htables.exists_of_mem_enums htable
      obtain ⟨d', hd', -, henum⟩ := FileSet.exists_of_enumTables hfound
      have hsound := FileSet.isSound_of_mem_declarations hd'
      exact ⟨d', hd', hsound.kind_eq_enum_iff.mpr ⟨table, henum⟩,
        (hsound.fullName_eq henum).symm.trans hname⟩
    · rintro ⟨d, hd, hkind, hname⟩
      have hsound := FileSet.isSound_of_mem_declarations hd
      obtain ⟨declared, hdeclared⟩ := hsound.kind_eq_enum_iff.mp hkind
      obtain ⟨table, htable, hfullName⟩ := FileSet.exists_find?_enumTables hd hdeclared
      refine ⟨table, htables.mem_enums hd (by rw [hdeclared]; rfl) htable, ?_⟩
      rw [hfullName, hsound.fullName_eq hdeclared]
      exact hname

/-- A load of a set that names its types once puts in a name for one kind at most. -/
theorem kind_eq_of_activates (honce : load.set.NamesTypesOnce) {kind kind' : TypeKind}
    (h : load.Activates kind name) (h' : load.Activates kind' name) : kind = kind' := by
  obtain ⟨d, hd, rfl, hname⟩ := activates_iff.mp h
  obtain ⟨d', hd', rfl, hname'⟩ := activates_iff.mp h'
  rw [List.inj_on_of_nodup_map honce hd hd' (hname.trans hname'.symm)]

end Load

namespace Catalog

/-! ## What a name stands for -/

theorem isSome_message?_afterLoads {sets : List FileSet} {name : String} :
    ((({} : Catalog).afterLoads sets).message? name).isSome = true ↔
      ∃ load ∈ ({} : Catalog).loads sets, load.Activates .message name := by
  rw [Option.isSome_iff_exists, exists_congr fun _ => message?_afterLoads]
  exact IsLast.exists_flatMap_iff

theorem isSome_enum?_afterLoads {sets : List FileSet} {name : String} :
    ((({} : Catalog).afterLoads sets).enum? name).isSome = true ↔
      ∃ load ∈ ({} : Catalog).loads sets, load.Activates .enum name := by
  rw [Option.isSome_iff_exists, exists_congr fun _ => enum?_afterLoads]
  exact IsLast.exists_flatMap_iff

/-- What a name stands for in a catalog that some loads led to. -/
structure KeepsKinds (catalog : Catalog) (loads : List Load) (name : String) : Prop where
  /-- The last load that put in a message tells the message. -/
  message : ∀ table, catalog.message? name = some table ↔
    ∃ load, IsLast (·.Activates .message name) loads load ∧
      IsLast (fun table => table.fullName = FullName.bare name) load.messages table
  /-- The last load that put in an enum tells the enum. -/
  enum : ∀ table, catalog.enum? name = some table ↔
    ∃ load, IsLast (·.Activates .enum name) loads load ∧
      IsLast (fun table => table.fullName = FullName.bare name) load.enums table
  /-- A name that stands for both was put in by two loads, once for each kind. -/
  both : (catalog.message? name).isSome = true ∧ (catalog.enum? name).isSome = true ↔
    ∃ a ∈ loads, ∃ b ∈ loads, (a.Activates .message name ∧ ¬ a.Activates .enum name) ∧
      (b.Activates .enum name ∧ ¬ b.Activates .message name)
  /-- A set that does not declare the name means a message by it whenever one was put
  in. -/
  kind_message : ∀ set : FileSet, ¬ set.Declares name →
    ((Scope.of set catalog).kind? name = some .message ↔
      ∃ load ∈ loads, load.Activates .message name)
  /-- It means an enum only when no message was ever put in. -/
  kind_enum : ∀ set : FileSet, ¬ set.Declares name →
    ((Scope.of set catalog).kind? name = some .enum ↔
      (∃ load ∈ loads, load.Activates .enum name) ∧
        ∀ load ∈ loads, ¬ load.Activates .message name)

/-- The kind of a name that a set does not declare is told by what was loaded. -/
theorem kind?_of_not_declares {set : FileSet} {catalog : Catalog} {name : String}
    (h : ¬ set.Declares name) :
    (Scope.of set catalog).kind? name =
      if (catalog.message? name).isSome then some .message
      else if (catalog.enum? name).isSome then some .enum
      else none := by
  have hloaded := (Scope.of set catalog).map_kind_loadedHome? name
  have hhomes : (Scope.of set catalog).homes.find? name = none := FileSet.homes_eq_none h
  rw [Scope.kind?, Scope.home?, hhomes, Option.none_or, hloaded]
  rfl

/-- After loads of sets that name their types once, a name stands for what the last load
of each kind put in under it. -/
theorem keepsKinds_afterLoads {sets : List FileSet} (honce : ∀ set ∈ sets, set.NamesTypesOnce)
    (name : String) :
    (({} : Catalog).afterLoads sets).KeepsKinds (({} : Catalog).loads sets) name where
  message := fun _ => message?_afterLoads
  enum := fun _ => enum?_afterLoads
  both := by
    rw [isSome_message?_afterLoads, isSome_enum?_afterLoads]
    constructor
    · rintro ⟨⟨a, ha, hmessage⟩, ⟨b, hb, henum⟩⟩
      refine ⟨a, ha, b, hb, ⟨hmessage, fun h => ?_⟩, henum, fun h => ?_⟩
      · cases Load.kind_eq_of_activates (honce _ (set_mem_of_loads ha)) hmessage h
      · cases Load.kind_eq_of_activates (honce _ (set_mem_of_loads hb)) henum h
    · rintro ⟨a, ha, b, hb, ⟨hmessage, -⟩, henum, -⟩
      exact ⟨⟨a, ha, hmessage⟩, ⟨b, hb, henum⟩⟩
  kind_message := by
    intro set hset
    rw [kind?_of_not_declares hset, ← isSome_message?_afterLoads]
    split
    · next h => exact iff_of_true rfl h
    · next h =>
      refine iff_of_false (fun heq => ?_) h
      split at heq <;> cases heq
  kind_enum := by
    intro set hset
    rw [kind?_of_not_declares hset, ← isSome_enum?_afterLoads]
    split
    · next h =>
      obtain ⟨load, hload, hmessage⟩ := isSome_message?_afterLoads.mp h
      exact iff_of_false (fun heq => by cases heq) fun h => h.2 load hload hmessage
    · next h =>
      have hnone : ∀ load ∈ ({} : Catalog).loads sets, ¬ load.Activates .message name :=
        fun load hload hmessage => h (isSome_message?_afterLoads.mpr ⟨load, hload, hmessage⟩)
      split
      · next henum => exact iff_of_true rfl ⟨henum, hnone⟩
      · next henum => exact iff_of_false (fun heq => by cases heq) fun h => henum h.1

/-- A message that is loaded again, with an enum of the same name in between. -/
theorem keepsKinds_afterLoads_again :
    let first : FileSet := ⟨[
      { name := some "a.proto", package := some "p", messages := [{ name := some "T" }] }]⟩
    let second : FileSet := ⟨[
      { name := some "b.proto", package := some "p"
        enums := [{ name := some "T", values := [{ name := some "A", number := some 0 }] }] }]⟩
    let third : FileSet := ⟨[
      { name := some "c.proto", package := some "p"
        messages := [{ name := some "T", enums := [{ name := some "E" }] }] }]⟩
    let catalog := ({} : Catalog).afterLoads [first, second, third]
    (catalog.message? ".p.T").map MessageTable.file = some "c.proto" ∧
      (catalog.enum? "p.T").map EnumTable.file = some "b.proto" ∧
      catalog.KeepsKinds (({} : Catalog).loads [first, second, third]) "p.T" := by
  intro first second third catalog
  have honce : ∀ set ∈ [first, second, third], set.NamesTypesOnce := by decide +kernel
  exact ⟨by decide +kernel, by decide +kernel, keepsKinds_afterLoads honce "p.T"⟩

/-- Two sets that name their types once, and leave a message and an enum under one
name. -/
theorem exists_both_kinds :
    let first : FileSet := ⟨[{ name := some "r.proto", messages := [{ name := some "M" }] }]⟩
    let second : FileSet := ⟨[
      { name := some "e.proto"
        enums := [{ name := some "M", values := [{ name := some "A", number := some 0 }] }] }]⟩
    let catalog := ({} : Catalog).afterLoads [first, second]
    first.NamesTypesOnce ∧ second.NamesTypesOnce ∧
      (catalog.message? "M").isSome = true ∧ (catalog.enum? "M").isSome = true ∧
      (Scope.of ⟨[]⟩ catalog).kind? "M" = some .message := by
  decide +kernel

end Catalog

end ProtoSchema
