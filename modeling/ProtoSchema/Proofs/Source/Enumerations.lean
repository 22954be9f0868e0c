import ProtoSchema.Proofs.Number.Integer
import ProtoSchema.Proofs.Source.TypeSites
import ProtoSchema.Resolve.Scope
import ProtoSchema.Source.Generate

/-!
# Enumerations and their tables

An enum is turned into two things: the table by which values are looked up, and
the enumeration of the rendered source.  The table keeps every value and answers
with the first one that fits.  The enumeration is built value by value: a number
that is new makes a variant, and one that is taken makes a second name.

The two stay in step (`EnumItem.Agrees`).  One further value keeps them in step,
whether its number is new or taken (`EnumItem.Agrees.add`), and so does the rest
of the values after the first.  What is compared is what the source says: an arm
is chosen by the number that its literal is read as, in either style, so that the
numbers without a positive counterpart are covered as well.
-/

namespace ProtoSchema

/-! ## Literals -/

/-- The number that the words of a literal stand for. -/
def Flat.numberOf? : List String → Option Int
  | [digits] => (Decimal.natural? digits.toList).map Int.ofNat
  | ["-", digits] => (Decimal.natural? digits.toList).map fun n => -Int.ofNat n
  | _ => none

/-- The number that is read where a style writes the number of a variant. -/
def SourceStyle.numberRead? (style : SourceStyle) (n : Int32) : Option Int :=
  match style with
  | .flat => Flat.numberOf? (Flat.number n)
  | .formatted => Decimal.signed? (Formatted.number n).toList

/-- The number of a variant is read as what it is. -/
theorem SourceStyle.numberRead?_eq (style : SourceStyle) (n : Int32) :
    style.numberRead? n = some n.toInt := by
  cases style with
  | formatted => exact Decimal.signed?_toString n.toInt
  | flat =>
    by_cases hn : n < 0
    · have hneg : n.toInt < 0 := Int32.lt_iff_toInt_lt.mp hn
      have habs : -(n.toInt.natAbs : Int) = n.toInt := by omega
      have hdigits : Decimal.natural? (toString n.toInt.natAbs).toList = some n.toInt.natAbs := by
        rw [Nat.toString_eq_repr, Nat.toList_repr, Decimal.natural?_toDigits]
      simp only [numberRead?, Flat.number, if_pos hn, Flat.numberOf?, hdigits, Option.map_some]
      exact congrArg some habs
    · have hpos : ¬ n.toInt < 0 := fun hneg => hn (Int32.lt_iff_toInt_lt.mpr hneg)
      have habs : (n.toInt.natAbs : Int) = n.toInt := by omega
      have hdigits : Decimal.natural? (toString n.toInt).toList = some n.toInt.natAbs := by
        rw [Decimal.toList_toString, if_neg hpos, Decimal.natural?_toDigits]
      simp only [numberRead?, Flat.number, if_neg hn, Flat.numberOf?, hdigits, Option.map_some]
      exact congrArg some habs

/-! ## What the two say -/

/-- The values whose number an earlier value has. -/
def EnumTable.repeated (table : EnumTable) : List EnumEntry :=
  (table.values.zipIdx.filter fun (entry, position) =>
    (table.values.take position).any fun earlier => earlier.number == entry.number).map Prod.fst

/-- The variant that a match over the arms leads to from a number. -/
def EnumItem.fromNumber? (style : SourceStyle) (item : EnumItem) (n : Int32) :
    Option EnumVariant :=
  item.variants.find? fun variant => style.numberRead? variant.number == some n.toInt

/-- An enumeration says the same as a table. -/
structure EnumItem.Agrees (item : EnumItem) (table : EnumTable) : Prop where
  /-- No two variants have the same number. -/
  nodup : (item.variants.map EnumVariant.number).Nodup
  /-- There is an arm for a number exactly when the table has a name for it.  It leads to the
  variant of that name, and the number of the variant is the one that was looked for. -/
  arms : ∀ style n,
    (item.fromNumber? style n).map
        (fun variant => (variant.name.spelling, style.numberRead? variant.number)) =
      (table.nameOf? n).map fun name => (Naming.variantName name, some n.toInt)
  /-- Each value whose number is taken is a second name for the variant that the table names. -/
  aliases : List.Forall₂
    (fun entry second => second.name.spelling = Naming.variantName entry.name ∧
      (table.nameOf? entry.number).map Naming.variantName = some second.target.spelling)
    table.repeated item.aliases
  /-- The default variant has the default number. -/
  default : item.first.number = table.defaultNumber

/-! ## One further value -/

/-- The table with one further value. -/
def EnumTable.push (table : EnumTable) (entry : EnumEntry) : EnumTable :=
  { table with values := table.values ++ [entry] }

namespace EnumTable

variable (table : EnumTable) (entry : EnumEntry)

theorem nameOf?_push (n : Int32) :
    (table.push entry).nameOf? n =
      (table.nameOf? n).or (if entry.number = n then some entry.name else none) := by
  simp only [nameOf?, push, List.find?_append, List.find?_singleton, beq_iff_eq]
  cases table.values.find? fun other => other.number == n with
  | some found => rfl
  | none => by_cases h : entry.number = n <;> simp [h]

/-- A number that has a name keeps it. -/
theorem nameOf?_push_of_isSome {n : Int32} (h : (table.nameOf? n).isSome = true) :
    (table.push entry).nameOf? n = table.nameOf? n := by
  obtain ⟨name, hname⟩ := Option.isSome_iff_exists.mp h
  rw [nameOf?_push, hname, Option.some_or]

theorem isSome_nameOf? (n : Int32) :
    (table.nameOf? n).isSome = table.values.any fun other => other.number == n := by
  rw [nameOf?, Option.isSome_map, List.isSome_find?]

/-- A further value is a repeated one when its number has a name. -/
theorem repeated_push :
    (table.push entry).repeated =
      table.repeated ++ if (table.nameOf? entry.number).isSome then [entry] else [] := by
  have hbefore : table.values.zipIdx.filter (fun (other, position) =>
        ((table.values ++ [entry]).take position).any fun earlier =>
          earlier.number == other.number) =
      table.values.zipIdx.filter (fun (other, position) =>
        (table.values.take position).any fun earlier => earlier.number == other.number) := by
    refine List.filter_congr fun (other, position) hother => ?_
    have hle : position ≤ table.values.length := Nat.le_of_lt (List.snd_lt_of_mem_zipIdx hother)
    simp only [List.take_append_of_le_length hle]
  simp only [repeated, push, List.zipIdx_append, List.filter_append, List.map_append, hbefore,
    isSome_nameOf?]
  congr 1
  by_cases h : (table.values.any fun other => other.number == entry.number) = true
  · simp [h]
  · simp [h]

end EnumTable

namespace EnumItem

variable {item : EnumItem} {table : EnumTable}

/-- A literal is read as the number it was written for, so an arm is found by
the number of its variant. -/
theorem fromNumber?_eq (style : SourceStyle) (item : EnumItem) (n : Int32) :
    item.fromNumber? style n = item.variantOf? n := by
  unfold fromNumber? variantOf?
  congr 1
  funext variant
  rw [SourceStyle.numberRead?_eq]
  by_cases h : variant.number = n
  · simp [h]
  · simp [h, Int32.toInt_inj]

theorem number_of_variantOf? {n : Int32} {variant : EnumVariant}
    (h : item.variantOf? n = some variant) : variant.number = n := by
  simpa using List.find?_some h

namespace Agrees

/-- The first variant with a number has the name that the table has for it. -/
theorem spelling_variantOf? (h : item.Agrees table) (n : Int32) :
    (item.variantOf? n).map (fun variant => variant.name.spelling) =
      (table.nameOf? n).map Naming.variantName := by
  have harms := congrArg (Option.map Prod.fst) (h.arms .flat n)
  rw [fromNumber?_eq, Option.map_map, Option.map_map] at harms
  exact harms

/-- The arms follow from the first variants with a number, since every literal
is read as what was written. -/
theorem arms_of_variantOf?
    (h : ∀ n, (item.variantOf? n).map (fun variant => variant.name.spelling) =
      (table.nameOf? n).map Naming.variantName) (style : SourceStyle) (n : Int32) :
    (item.fromNumber? style n).map
        (fun variant => (variant.name.spelling, style.numberRead? variant.number)) =
      (table.nameOf? n).map fun name => (Naming.variantName name, some n.toInt) := by
  have hread : (item.variantOf? n).map
        (fun variant => (variant.name.spelling, style.numberRead? variant.number)) =
      ((item.variantOf? n).map fun variant => variant.name.spelling).map
        fun spelling => (spelling, some n.toInt) := by
    cases hvariant : item.variantOf? n with
    | none => rfl
    | some variant =>
      simp [SourceStyle.numberRead?_eq, number_of_variantOf? hvariant]
  rw [fromNumber?_eq, hread, h, Option.map_map]
  rfl

theorem isSome_nameOf? (h : item.Agrees table) (n : Int32) :
    (table.nameOf? n).isSome = (item.variantOf? n).isSome := by
  have hsome := congrArg Option.isSome (h.spelling_variantOf? n)
  rw [Option.isSome_map, Option.isSome_map] at hsome
  exact hsome.symm

/-- The default number is that of a value, so a further value does not change
it. -/
theorem defaultNumber_push (h : item.Agrees table) (entry : EnumEntry) :
    (table.push entry).defaultNumber = table.defaultNumber := by
  have hfirst : (table.nameOf? item.first.number).isSome = true := by
    rw [h.isSome_nameOf?, variantOf?, variants, List.isSome_find?]
    simp
  cases hvalues : table.values with
  | nil => simp [EnumTable.nameOf?, hvalues] at hfirst
  | cons first rest => simp [EnumTable.defaultNumber, EnumTable.push, hvalues]

/-- **One further value keeps an enumeration and its table in step.** -/
theorem add (h : item.Agrees table) {value : EnumVariant} {entry : EnumEntry}
    (hname : value.name.spelling = Naming.variantName entry.name)
    (hnumber : value.number = entry.number) : (item.add value).Agrees (table.push entry) := by
  cases hfound : item.variantOf? value.number with
  | some variant =>
    -- The number is taken: the variants and the answers of the table stay as they are.
    have hadd : item.add value =
        { item with aliases := item.aliases ++ [⟨value.name, variant.name⟩] } := by
      rw [EnumItem.add, hfound]
    have hnamed : (table.nameOf? entry.number).isSome = true := by
      rw [h.isSome_nameOf?, ← hnumber, hfound]
      rfl
    have hsame (n : Int32) : (table.push entry).nameOf? n = table.nameOf? n := by
      rw [EnumTable.nameOf?_push]
      by_cases hn : entry.number = n
      · obtain ⟨name, hname⟩ := Option.isSome_iff_exists.mp (hn ▸ hnamed)
        rw [hname, Option.some_or]
      · rw [if_neg hn, Option.or_none]
    have htarget := h.spelling_variantOf? entry.number
    rw [← hnumber, hfound] at htarget
    rw [hadd]
    refine ⟨h.nodup, arms_of_variantOf? fun n => ?_, ?_, ?_⟩
    · rw [hsame]
      exact h.spelling_variantOf? n
    · rw [EnumTable.repeated_push, if_pos hnamed]
      refine List.rel_append (h.aliases.imp fun other second hsecond => ?_) (.cons ⟨hname, ?_⟩ .nil)
      · rwa [hsame]
      · rw [hsame, ← hnumber, ← htarget]
        rfl
    · rw [h.defaultNumber_push]
      exact h.default
  | none =>
    -- The number is new: there is one more variant, and the table has one more answer.
    have hadd : item.add value = { item with others := item.others ++ [value] } := by
      rw [EnumItem.add, hfound]
    have hvariants : (item.add value).variants = item.variants ++ [value] := by
      rw [hadd]
      rfl
    have hnew : ¬ (table.nameOf? entry.number).isSome = true := by
      rw [h.isSome_nameOf?, ← hnumber, hfound]
      exact Bool.false_ne_true
    refine ⟨?_, arms_of_variantOf? fun n => ?_, ?_, ?_⟩
    · rw [hvariants, List.map_append, List.nodup_append_comm]
      refine List.nodup_cons.mpr ⟨fun hmem => ?_, h.nodup⟩
      obtain ⟨variant, hvariant, hsame⟩ := List.mem_map.mp hmem
      exact List.find?_eq_none.mp hfound variant hvariant (beq_iff_eq.mpr hsame)
    · have hfind : (item.add value).variantOf? n =
          (item.variantOf? n).or (if value.number = n then some value else none) := by
        simp only [variantOf?, hvariants, List.find?_append, List.find?_singleton, beq_iff_eq]
      rw [hfind, EnumTable.nameOf?_push, Option.map_or, Option.map_or, h.spelling_variantOf?,
        ← hnumber]
      by_cases hn : value.number = n
      · simp [hn, hname]
      · simp [hn]
    · rw [EnumTable.repeated_push, if_neg hnew, List.append_nil, hadd]
      refine h.aliases.imp fun other second hsecond => ⟨hsecond.1, ?_⟩
      have hsome : (table.nameOf? other.number).isSome = true := by
        rw [← Option.isSome_map, hsecond.2]
        rfl
      rw [table.nameOf?_push_of_isSome entry hsome]
      exact hsecond.2
    · rw [h.defaultNumber_push, hadd]
      exact h.default

end Agrees

/-! ## All values -/

/-- A variant and a value have the same number and the same name. -/
def Shows (entry : EnumEntry) (value : EnumVariant) : Prop :=
  value.name.spelling = Naming.variantName entry.name ∧ value.number = entry.number

end EnumItem

/-! ## Enums -/

open Checked

namespace EnumDescriptor

variable {file : String} {enum : EnumDescriptor}

/-- A value that makes a variant has an entry in the table, and shows it. -/
theorem exists_entry_of_variant {enumName : String} {value : EnumValueDescriptor}
    {made : EnumVariant} (h : variant file enumName value = .ok made) :
    ∃ name number, value.name = some name ∧ value.number = some number ∧
      EnumItem.Shows ⟨name, number⟩ made := by
  unfold variant at h
  split at h
  · next name number hname hnumber =>
    obtain ⟨ident, hident, h⟩ := bind_eq_ok.mp h
    cases h
    exact ⟨name, number, hname, hnumber,
      Ident.spelling_of_ofText? (Ident.check_eq_ok.mp hident), rfl⟩
  · cases h

end EnumDescriptor

end ProtoSchema
