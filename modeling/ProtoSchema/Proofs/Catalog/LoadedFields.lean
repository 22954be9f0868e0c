import ProtoSchema.Proofs.Catalog.History
import ProtoSchema.Proofs.Table.Origin
import ProtoSchema.Proofs.Value.Apart

/-!
# Fields of loaded types

The fields of a loaded type have the names and the numbers of the descriptor that the
type was built from, one by one and in order.  A load checks each of them on its own: a
name is there, and a number is positive.  It does not compare them, so what two fields of
a descriptor have in common their tables have in common too
(`Catalog.describes_afterLoads`).

So fields of a loaded type are told apart when those of the descriptor are.  Then a write
to one of them leaves the others alone.  A descriptor that uses a number twice is loaded
as well, and there a write to one field shows as a value of the other
(`Catalog.exists_shared_number`).
-/

namespace ProtoSchema

open Checked

/-! ## Fields and descriptors -/

/-- Whether a number of a field is the one that is declared, which must be positive. -/
def IsNumbered (declared : Option Int32) (number : Nat) : Prop :=
  ∃ n, declared = some n ∧ 0 < n ∧ number = n.toInt.toNat

/-- Positive numbers are told apart. -/
theorem biUnique_isNumbered : Relator.BiUnique IsNumbered := by
  constructor
  · rintro _ _ number ⟨n, rfl, hn, rfl⟩ ⟨m, rfl, hm, hnumber⟩
    have hn : 0 < n.toInt := Int32.lt_iff_toInt_lt.mp hn
    have hm : 0 < m.toInt := Int32.lt_iff_toInt_lt.mp hm
    rw [Int32.toInt_inj.mp (show n.toInt = m.toInt by omega)]
  · rintro declared _ _ ⟨n, rfl, -, rfl⟩ ⟨m, hm, -, rfl⟩
    cases hm
    rfl

/-- Whether the fields of a type have the names and the numbers of those of a message, one
by one. -/
def MessageDescriptor.Describes (message : MessageDescriptor) (type : MessageTable) : Prop :=
  List.Forall₂ (fun descriptor field =>
    descriptor.name = some field.name ∧ IsNumbered descriptor.number field.number)
    message.fields type.fields

namespace MessageDescriptor.Describes

variable {message : MessageDescriptor} {type : MessageTable}

/-- Numbers are told apart in a type when they are in the message. -/
theorem numbersFieldsOnce_iff (h : message.Describes type) :
    type.NumbersFieldsOnce ↔ (message.fields.map FieldDescriptor.number).Nodup := by
  have hnumbers : List.Forall₂ IsNumbered (message.fields.map FieldDescriptor.number)
      (type.fields.map FieldTable.number) :=
    List.forall₂_map_left_iff.mpr
      (List.forall₂_map_right_iff.mpr (List.Forall₂.imp (fun _ _ hfield => hfield.2) h))
  exact (List.rel_nodup biUnique_isNumbered hnumbers).symm

/-- Names are told apart in a type when they are in the message. -/
theorem namesFieldsOnce_iff (h : message.Describes type) :
    type.NamesFieldsOnce ↔ (message.fields.map FieldDescriptor.name).Nodup := by
  have hnames : message.fields.map FieldDescriptor.name =
      (type.fields.map FieldTable.name).map some := by
    rw [← List.forall₂_eq_eq_eq, List.map_map]
    exact List.forall₂_map_left_iff.mpr
      (List.forall₂_map_right_iff.mpr (List.Forall₂.imp (fun _ _ hfield => hfield.1) h))
  rw [hnames, List.nodup_map_iff fun _ _ => Option.some.inj]
  rfl

end MessageDescriptor.Describes

namespace Catalog

/-- The fields of a loaded type are those of a message that was loaded under its name.
They are told apart as far as those of the message are, and where their numbers are, a
write to one of them leaves the others alone. -/
theorem describes_afterLoads {sets : List FileSet} {name : String} {type : MessageTable}
    (h : (({} : Catalog).afterLoads sets).message? name = some type) :
    ∃ load, IsLast (·.Activates .message name) (({} : Catalog).loads sets) load ∧
      ∃ origin ∈ load.set.named, FullName.bare origin.name = FullName.bare name ∧
        origin.message.Describes type ∧
        (type.NumbersFieldsOnce ↔ (origin.message.fields.map FieldDescriptor.number).Nodup) ∧
        (type.NamesFieldsOnce ↔ (origin.message.fields.map FieldDescriptor.name).Nodup) ∧
        ((origin.message.fields.map FieldDescriptor.number).Nodup → type.KeepsFieldsApart) := by
  obtain ⟨load, hload, hlast⟩ := message?_afterLoads.mp h
  obtain ⟨file, hfile, origin, horigin, hname, hfields⟩ :=
    Scope.exists_named_of_tables load.built hlast.mem
  have hdescribes : origin.message.Describes type :=
    hfields.imp fun _ _ hfield => ⟨hfield.name, hfield.number⟩
  refine ⟨load, hload, origin, FileSet.mem_named.mpr ⟨file, hfile, horigin⟩,
    hname.symm.trans hlast.holds, hdescribes, hdescribes.numbersFieldsOnce_iff,
    hdescribes.namesFieldsOnce_iff, fun hnumbers => ?_⟩
  exact (hdescribes.numbersFieldsOnce_iff.mpr hnumbers).keepsFieldsApart

/-- A message whose fields are told apart, and which replaces one whose fields are not. -/
theorem describes_afterLoads_replaced :
    let first : FileSet := ⟨[
      { name := some "a.proto", package := some "p"
        messages := [
          { name := some "M"
            fields := [{ name := some "a", number := some 1, type := some 9 },
                       { name := some "a", number := some 1, type := some 5 }] }] }]⟩
    let second : FileSet := ⟨[
      { name := some "b.proto", package := some "p"
        messages := [
          { name := some "M"
            fields := [{ name := some "a", number := some 2, type := some 9 },
                       { name := some "b", number := some 1, type := some 5 }] }] }]⟩
    ∃ type, (({} : Catalog).afterLoads [first, second]).message? "p.M" = some type ∧
      ∃ load, IsLast (·.Activates .message "p.M") (({} : Catalog).loads [first, second]) load ∧
        ∃ origin ∈ load.set.named, FullName.bare origin.name = "p.M" ∧
          origin.message.Describes type ∧ type.KeepsFieldsApart := by
  intro first second
  have hstored : ∃ type ∈ (({} : Catalog).afterLoads [first, second]).message? "p.M",
      type.NumbersFieldsOnce := by decide +kernel
  obtain ⟨type, htype, hnumbers⟩ := hstored
  obtain ⟨load, hload, origin, horigin, hname, hdescribes, hiff, -, hapart⟩ :=
    describes_afterLoads htype
  exact ⟨type, htype, load, hload, origin, horigin, hname, hdescribes, hapart (hiff.mp hnumbers)⟩

/-- Two fields of one number, and two of one name, are loaded.  A write to one field of the
number shows as the value of the other one. -/
theorem exists_shared_number :
    let set : FileSet := ⟨[
      { name := some "m.proto"
        messages := [
          { name := some "M"
            fields := [
              { name := some "a", number := some 1, label := some 1, type := some 9 },
              { name := some "b", number := some 1, label := some 1, type := some 5 }] },
          { name := some "N"
            fields := [
              { name := some "a", number := some 1, label := some 1, type := some 9 },
              { name := some "a", number := some 2, label := some 1, type := some 5 }] }] }]⟩
    let catalog := ({} : Catalog).afterLoads [set]
    let first : Call := .set "a" (.atom (.text "x"))
    let second : Call := .set "b" (.atom (.int32 5))
    (∃ type ∈ catalog.message? "N", ¬ type.NamesFieldsOnce) ∧
      ∃ type ∈ catalog.message? "M", ¬ type.NumbersFieldsOnce ∧
        ∃ a ∈ type.field? "a", ∃ b ∈ type.field? "b", ¬ b.SharesOneof a ∧
          (((Message.empty type).run [first]).stored? a.number).map Value.kindName =
              some "string" ∧
            (((Message.empty type).run [first, second]).stored? a.number).map Value.kindName =
              some "i32" := by
  decide +kernel

end Catalog

end ProtoSchema
