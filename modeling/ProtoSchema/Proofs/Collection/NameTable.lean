import ProtoSchema.Proofs.Collection.Ascending

/-!
# Filling tables

Tables are filled by putting in one item after the other.  `NameTable.insertAll`
does that for a list of names and items, and `find?_insertAll` says what is found
afterwards: the last item of the list under a name, or else what was there
before.

Two tables in which the same is found are the same.  So lists with different names
may be put in in either order (`insertAll_comm`).
-/

namespace ProtoSchema

namespace NameTable

variable {α : Type}

/-- Puts in several items, in order. -/
def insertAll (table : NameTable α) (entries : List (String × α)) : NameTable α :=
  entries.foldl (fun table entry => table.insert entry.1 entry.2) table

theorem insertAll_cons (table : NameTable α) (entry : String × α) (entries : List (String × α)) :
    table.insertAll (entry :: entries) = (table.insert entry.1 entry.2).insertAll entries := rfl

theorem insertAll_append (table : NameTable α) (first second : List (String × α)) :
    table.insertAll (first ++ second) = (table.insertAll first).insertAll second :=
  List.foldl_append

/-- After several items are put in, the last one under a name is found. -/
theorem find?_insertAll (table : NameTable α) (entries : List (String × α)) (k : String) :
    (table.insertAll entries).find? k =
      ((entries.reverse.find? fun entry => entry.1 == k).map Prod.snd).or (table.find? k) := by
  induction entries generalizing table with
  | nil => rfl
  | cons entry entries ih =>
    rw [insertAll_cons, ih, find?_insert, List.reverse_cons, List.find?_append]
    cases hlater : entries.reverse.find? fun entry => entry.1 == k with
    | some later => rfl
    | none =>
      by_cases hk : k = entry.1
      · subst hk
        simp
      · have hk' : (entry.1 == k) = false := beq_false_of_ne fun h => hk h.symm
        rw [if_neg hk, List.find?_cons_of_neg (by rw [hk']; exact Bool.false_ne_true)]
        rfl

/-- Items put in hide those that were there before. -/
theorem find?_insertAll_eq_or (table : NameTable α) (entries : List (String × α)) (k : String) :
    (table.insertAll entries).find? k =
      ((empty.insertAll entries).find? k).or (table.find? k) := by
  rw [find?_insertAll, find?_insertAll, find?_empty, Option.or_none]

/-- What is found was put in, or was there before. -/
theorem find?_insertAll_cases {table : NameTable α} {entries : List (String × α)} {k : String}
    {item : α} (h : (table.insertAll entries).find? k = some item) :
    (k, item) ∈ entries ∨ table.find? k = some item := by
  rw [find?_insertAll] at h
  cases hlast : entries.reverse.find? fun entry => entry.1 == k with
  | none =>
    rw [hlast] at h
    exact Or.inr h
  | some entry =>
    have hmem := List.mem_reverse.mp (List.mem_of_find?_eq_some hlast)
    have hname := List.find?_some hlast
    rw [hlast] at h
    cases h
    rw [← eq_of_beq hname]
    exact Or.inl hmem

/-- Under a name that an item was put in for, something is found. -/
theorem isSome_find?_insertAll_of_mem {table : NameTable α} {entries : List (String × α)}
    {k : String} (h : k ∈ entries.map Prod.fst) :
    ((table.insertAll entries).find? k).isSome = true := by
  obtain ⟨entry, hmem, rfl⟩ := List.mem_map.mp h
  have hsome : (entries.reverse.find? fun other => other.1 == entry.1).isSome = true :=
    List.find?_isSome.mpr ⟨entry, List.mem_reverse.mpr hmem, beq_self_eq_true _⟩
  obtain ⟨found, hfound⟩ := Option.isSome_iff_exists.mp hsome
  rw [find?_insertAll, hfound]
  rfl

/-- The only item that was put in under a name is found there. -/
theorem find?_insertAll_of_unique {table : NameTable α} {entries : List (String × α)}
    {k : String} {item : α} (hmem : (k, item) ∈ entries)
    (hunique : ∀ other, (k, other) ∈ entries → other = item) :
    (table.insertAll entries).find? k = some item := by
  have hsome : ((empty.insertAll entries).find? k).isSome = true :=
    isSome_find?_insertAll_of_mem (List.mem_map.mpr ⟨_, hmem, rfl⟩)
  obtain ⟨found, hfound⟩ := Option.isSome_iff_exists.mp hsome
  have heq : found = item := by
    rcases find?_insertAll_cases hfound with hnew | hold
    · exact hunique found hnew
    · rw [find?_empty] at hold
      cases hold
  rw [find?_insertAll_eq_or, hfound, heq, Option.some_or]

/-- What was there before is still found under a name without a new item. -/
theorem find?_insertAll_of_not_mem {table : NameTable α} {entries : List (String × α)}
    {k : String} (h : k ∉ entries.map Prod.fst) :
    (table.insertAll entries).find? k = table.find? k := by
  have hnone : (entries.reverse.find? fun entry => entry.1 == k) = none :=
    List.find?_eq_none.mpr fun entry hmem heq =>
      h (List.mem_map.mpr ⟨entry, List.mem_reverse.mp hmem, eq_of_beq heq⟩)
  rw [find?_insertAll, hnone]
  rfl

/-- Something is found under a name when an item was put in for it, or when
something was there before. -/
theorem isSome_find?_insertAll {table : NameTable α} {entries : List (String × α)} {k : String} :
    ((table.insertAll entries).find? k).isSome = true ↔
      k ∈ entries.map Prod.fst ∨ (table.find? k).isSome = true := by
  by_cases hmem : k ∈ entries.map Prod.fst
  · exact iff_of_true (isSome_find?_insertAll_of_mem hmem) (Or.inl hmem)
  · rw [find?_insertAll_of_not_mem hmem]
    exact ⟨Or.inr, fun h => h.resolve_left hmem⟩

theorem nodup_names (table : NameTable α) : table.names.Nodup :=
  table.ascending.imp fun {a b} (hlt : a < b) (heq : a = b) => String.lt_irrefl b (heq ▸ hlt)

/-- Every item of a table is found under its name. -/
theorem find?_of_mem_entries (table : NameTable α) {k : String} {item : α}
    (h : (k, item) ∈ table.entries) : table.find? k = some item :=
  (Ascending.find?_eq_some_iff table.nodup_names).mpr h

/-- The names of a table are those that something is found under. -/
theorem mem_names_iff {table : NameTable α} {name : String} :
    name ∈ table.names ↔ (table.find? name).isSome = true := by
  constructor
  · intro h
    obtain ⟨⟨_, item⟩, hmem, rfl⟩ := List.mem_map.mp h
    exact Option.isSome_iff_exists.mpr ⟨item, table.find?_of_mem_entries hmem⟩
  · intro h
    obtain ⟨item, hfound⟩ := Option.isSome_iff_exists.mp h
    exact List.mem_map.mpr ⟨_, Ascending.mem_of_find?_eq_some hfound, rfl⟩

/-- Tables are the same when the same is found in them. -/
theorem ext_find? {first second : NameTable α} (h : ∀ k, first.find? k = second.find? k) :
    first = second := by
  have hentries := Ascending.eq_of_find?_eq String.lt_asymm first.ascending second.ascending h
  cases first
  cases second
  cases hentries
  rfl

/-- Items that are put in a second time change nothing, also when some have the same name:
the last one under a name stands there already. -/
theorem insertAll_insertAll (table : NameTable α) (entries : List (String × α)) :
    (table.insertAll entries).insertAll entries = table.insertAll entries := by
  refine ext_find? fun k => ?_
  rw [find?_insertAll_eq_or (table.insertAll entries), find?_insertAll_eq_or table,
    ← Option.or_assoc, Option.or_self]

/-- It does not matter which of two lists is put in first, when there are no two
different items under one name in them. -/
theorem insertAll_comm (table : NameTable α) {first second : List (String × α)}
    (h : ∀ k a b, (k, a) ∈ first → (k, b) ∈ second → a = b) :
    (table.insertAll first).insertAll second = (table.insertAll second).insertAll first := by
  refine ext_find? fun k => ?_
  have hmem : ∀ {entries : List (String × α)} {item : α},
      (empty.insertAll entries).find? k = some item → (k, item) ∈ entries := fun hfound =>
    (find?_insertAll_cases hfound).resolve_right fun hnone => by cases hnone
  rw [find?_insertAll_eq_or, find?_insertAll_eq_or (table.insertAll second),
    find?_insertAll_eq_or table, find?_insertAll_eq_or table second]
  cases hfirst : (empty.insertAll first).find? k with
  | none => rfl
  | some a =>
    cases hsecond : (empty.insertAll second).find? k with
    | none => rfl
    | some b => rw [h k a b (hmem hfirst) (hmem hsecond)]

/-- The order in which items are put in does not matter, when there are no two different
items under one name. -/
theorem insertAll_perm (table : NameTable α) {first second : List (String × α)}
    (hperm : first.Perm second)
    (h : ∀ k a b, (k, a) ∈ first → (k, b) ∈ first → a = b) :
    table.insertAll first = table.insertAll second := by
  refine hperm.foldl_eq' (fun x hx y hy table => ?_) table
  have hcomm : (table.insertAll [x]).insertAll [y] = (table.insertAll [y]).insertAll [x] := by
    refine insertAll_comm table fun k a b ha hb => ?_
    exact h k a b (List.mem_singleton.mp ha ▸ hx) (List.mem_singleton.mp hb ▸ hy)
  exact hcomm

end NameTable

end ProtoSchema
