/-!
# Ascending tables

A table from keys to items is kept as a list of pairs whose keys ascend
strictly.  Putting an item under a key replaces the item that was there, and a
new key takes its place in the order.  Two tables with the same items are the
same list.

`Ascending` holds the operations on such lists, for any ordered keys.
`NameTable` is a table with text for keys that carries the proof that its keys
ascend.  `NameTable.find?_insert` says what is found after a change.
-/

namespace ProtoSchema

namespace Ascending

variable {κ α : Type}

/-- Puts an item under a key. -/
def insert [LT κ] [DecidableEq κ] [DecidableLT κ] (key : κ) (item : α) :
    List (κ × α) → List (κ × α)
  | [] => [(key, item)]
  | (k, x) :: rest =>
    if key = k then (key, item) :: rest
    else if key < k then (key, item) :: (k, x) :: rest
    else (k, x) :: insert key item rest

/-- The item under a key. -/
def find? [DecidableEq κ] (key : κ) : List (κ × α) → Option α
  | [] => none
  | (k, x) :: rest => if key = k then some x else find? key rest

/-- Drops the item under a key. -/
def erase [DecidableEq κ] (key : κ) : List (κ × α) → List (κ × α)
  | [] => []
  | (k, x) :: rest => if key = k then rest else (k, x) :: erase key rest

/-- After an item is put under a key it is found there, and every other item
is found as before. -/
theorem find?_insert [LT κ] [DecidableEq κ] [DecidableLT κ] (k key : κ) (item : α)
    (entries : List (κ × α)) :
    find? k (insert key item entries) = if k = key then some item else find? k entries := by
  induction entries with
  | nil => simp [insert, find?]
  | cons entry rest ih =>
    obtain ⟨k', x⟩ := entry
    rw [insert]
    split
    · next he =>
      subst he
      simp only [find?]
      split <;> rfl
    · next hne =>
      split
      · simp only [find?]
      · simp only [find?, ih]
        split
        · next he => rw [if_neg (fun h => hne (h.symm.trans he))]
        · rfl

/-- After an item is dropped every other item is found as before. -/
theorem find?_erase_of_ne [DecidableEq κ] {k key : κ} (h : k ≠ key) (entries : List (κ × α)) :
    find? k (erase key entries) = find? k entries := by
  induction entries with
  | nil => rfl
  | cons entry rest ih =>
    obtain ⟨k', x⟩ := entry
    rw [erase]
    split
    · next he =>
      subst he
      rw [find?, if_neg h]
    · rw [find?, find?, ih]

/-- Every key of a changed table is the new key or an old one. -/
theorem mem_keys_insert [LT κ] [DecidableEq κ] [DecidableLT κ] {key k : κ} {item : α}
    {entries : List (κ × α)} (h : k ∈ (insert key item entries).map Prod.fst) :
    k = key ∨ k ∈ entries.map Prod.fst := by
  induction entries with
  | nil => simpa [insert] using h
  | cons entry rest ih =>
    obtain ⟨k', x⟩ := entry
    rw [insert] at h
    split at h
    · next he => subst he; simpa using h
    · split at h
      · simpa using h
      · simp only [List.map_cons, List.mem_cons] at h ⊢
        rcases h with rfl | h
        · exact Or.inr (Or.inl rfl)
        · exact (ih h).elim Or.inl fun h => Or.inr (Or.inr h)

/-- Putting an item under a key keeps the keys ascending, in any order in which of
two keys one comes first. -/
theorem pairwise_insert [LT κ] [DecidableEq κ] [DecidableLT κ]
    (trans : ∀ {a b c : κ}, a < b → b < c → a < c)
    (total : ∀ {a b : κ}, a ≠ b → ¬ a < b → b < a) (key : κ) (item : α)
    {entries : List (κ × α)} (h : (entries.map Prod.fst).Pairwise (· < ·)) :
    ((insert key item entries).map Prod.fst).Pairwise (· < ·) := by
  induction entries with
  | nil => simp [insert]
  | cons entry rest ih =>
    obtain ⟨k, x⟩ := entry
    simp only [List.map_cons, List.pairwise_cons] at h
    rw [insert]
    split
    · next he => subst he; simpa using h
    · next hne =>
      split
      · next hlt =>
        simp only [List.map_cons, List.pairwise_cons, List.mem_cons]
        refine ⟨?_, h.1, h.2⟩
        rintro a (rfl | ha)
        · exact hlt
        · exact trans hlt (h.1 a ha)
      · next hnlt =>
        simp only [List.map_cons, List.pairwise_cons]
        refine ⟨fun a ha => ?_, ih h.2⟩
        rcases mem_keys_insert ha with rfl | ha
        · exact total hne hnlt
        · exact h.1 a ha

end Ascending

/-- A table with text for keys. -/
structure NameTable (α : Type) where
  /-- The keys and their items. -/
  entries : List (String × α)
  /-- The keys ascend. -/
  ascending : (entries.map Prod.fst).Pairwise (· < ·)

namespace NameTable

variable {α : Type}

/-- The table without items. -/
def empty : NameTable α := ⟨[], .nil⟩

instance : Inhabited (NameTable α) := ⟨empty⟩

/-- The item under a name. -/
def find? (table : NameTable α) (name : String) : Option α :=
  Ascending.find? name table.entries

/-- Whether there is an item under a name. -/
def contains (table : NameTable α) (name : String) : Bool := (table.find? name).isSome

/-- The names, in ascending order. -/
def names (table : NameTable α) : List String := table.entries.map Prod.fst

/-- Putting an item under a name keeps the names ascending. -/
theorem ascending_insert (name : String) (item : α) {entries : List (String × α)}
    (h : (entries.map Prod.fst).Pairwise (· < ·)) :
    ((Ascending.insert name item entries).map Prod.fst).Pairwise (· < ·) :=
  Ascending.pairwise_insert String.lt_trans
    (fun hne hnlt => String.not_le.mp fun hle =>
      hne (String.le_antisymm hle (String.not_lt.mp hnlt)))
    name item h

/-- Puts an item under a name. -/
def insert (table : NameTable α) (name : String) (item : α) : NameTable α :=
  ⟨Ascending.insert name item table.entries, ascending_insert name item table.ascending⟩

/-- Nothing is found in the table without items. -/
theorem find?_empty (name : String) : (empty : NameTable α).find? name = none := rfl

/-- After an item is put under a name it is found there, and every other item
is found as before. -/
theorem find?_insert (table : NameTable α) (k name : String) (item : α) :
    (table.insert name item).find? k = if k = name then some item else table.find? k :=
  Ascending.find?_insert k name item table.entries

end NameTable

end ProtoSchema
