import Mathlib.Data.List.Nodup
import ProtoSchema.Table.Basic

/-!
# Fields of a type

A field is looked up in the table of its type by name or by number.  The field that
is found is one of the table.  When names, or numbers, tell the fields of a type
apart, every field is found (`MessageTable.NamesFieldsOnce.field?_eq_some`,
`MessageTable.NumbersFieldsOnce.fieldNumbered?_eq_some_iff`).
-/

namespace ProtoSchema

/-- When at most one item of a list passes a test, it is the one that is found. -/
theorem find?_eq_some_iff_of_unique {α : Type} {test : α → Bool} {items : List α}
    (hunique : ∀ a ∈ items, ∀ b ∈ items, test a = true → test b = true → a = b) {item : α} :
    items.find? test = some item ↔ item ∈ items ∧ test item = true := by
  constructor
  · intro h
    exact ⟨List.mem_of_find?_eq_some h, List.find?_some h⟩
  · rintro ⟨hitem, htest⟩
    obtain ⟨found, hfound⟩ :=
      Option.isSome_iff_exists.mp (List.find?_isSome.mpr ⟨item, hitem, htest⟩)
    rw [hfound, hunique found (List.mem_of_find?_eq_some hfound) item hitem
      (List.find?_some hfound) htest]

/-- The position of an item is found when no item is twice in a list. -/
theorem findIdx?_beq_eq_some_iff {α : Type} [BEq α] [LawfulBEq α] {items : List α}
    (h : items.Nodup) {index : Nat} {item : α} :
    (items.findIdx? fun other => other == item) = some index ↔ items[index]? = some item := by
  rw [List.findIdx?_eq_some_iff_getElem, List.getElem?_eq_some_iff]
  refine exists_congr fun hindex => ?_
  rw [beq_iff_eq]
  refine and_iff_left_of_imp fun hitem other hother hsame => ?_
  rw [beq_iff_eq, ← hitem, h.getElem_inj_iff] at hsame
  omega

namespace MessageTable

variable {type : MessageTable}

/-- Whether no two fields of a type have one number. -/
def NumbersFieldsOnce (type : MessageTable) : Prop := (type.fields.map FieldTable.number).Nodup

/-- Whether no two fields of a type have one name. -/
def NamesFieldsOnce (type : MessageTable) : Prop := (type.fields.map FieldTable.name).Nodup

instance : Decidable type.NumbersFieldsOnce :=
  inferInstanceAs (Decidable (type.fields.map FieldTable.number).Nodup)

instance : Decidable type.NamesFieldsOnce :=
  inferInstanceAs (Decidable (type.fields.map FieldTable.name).Nodup)

theorem mem_of_field? {name : String} {field : FieldTable} (h : type.field? name = some field) :
    field ∈ type.fields ∧ field.name = name := by
  have hname := List.find?_some h
  exact ⟨List.mem_of_find?_eq_some h, eq_of_beq hname⟩

theorem mem_of_fieldNumbered? {number : Nat} {field : FieldTable}
    (h : type.fieldNumbered? number = some field) :
    field ∈ type.fields ∧ field.number = number := by
  have hnumber := List.find?_some h
  exact ⟨List.mem_of_find?_eq_some h, eq_of_beq hnumber⟩

/-- Fields that have one number are one field. -/
theorem NumbersFieldsOnce.eq (h : type.NumbersFieldsOnce) {a b : FieldTable}
    (ha : a ∈ type.fields) (hb : b ∈ type.fields) (hab : a.number = b.number) : a = b :=
  List.inj_on_of_nodup_map h ha hb hab

/-- Fields that have one name are one field. -/
theorem NamesFieldsOnce.eq (h : type.NamesFieldsOnce) {a b : FieldTable}
    (ha : a ∈ type.fields) (hb : b ∈ type.fields) (hab : a.name = b.name) : a = b :=
  List.inj_on_of_nodup_map h ha hb hab

/-- A field is found by its name. -/
theorem NamesFieldsOnce.field?_eq_some (h : type.NamesFieldsOnce) {field : FieldTable}
    (hfield : field ∈ type.fields) : type.field? field.name = some field := by
  refine (find?_eq_some_iff_of_unique fun a ha b hb hA hB => ?_).mpr
    ⟨hfield, beq_self_eq_true _⟩
  exact h.eq ha hb ((eq_of_beq hA).trans (eq_of_beq hB).symm)

/-- A field is found by its number. -/
theorem NumbersFieldsOnce.fieldNumbered?_eq_some_iff (h : type.NumbersFieldsOnce) {number : Nat}
    {field : FieldTable} :
    type.fieldNumbered? number = some field ↔ field ∈ type.fields ∧ field.number = number := by
  refine (find?_eq_some_iff_of_unique fun a ha b hb hA hB => ?_).trans ?_
  · exact h.eq ha hb ((eq_of_beq hA).trans (eq_of_beq hB).symm)
  · rw [beq_iff_eq]

end MessageTable

end ProtoSchema
