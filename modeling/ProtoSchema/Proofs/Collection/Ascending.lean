import ProtoSchema.Collection.Ascending

/-!
# Entries of an ascending table

The entries of a changed table are the new one and old ones.  When the keys differ
from each other, as ascending keys do, an item is found under its key
(`Ascending.find?_eq_some_iff`), and a key that was dropped is gone
(`Ascending.find?_erase_self`).  What is found under each key tells the whole list
(`Ascending.eq_of_find?_eq`).
-/

namespace ProtoSchema

namespace Ascending

variable {κ α : Type}

/-! ## Entries -/

theorem eq_or_mem_of_mem_insert [LT κ] [DecidableEq κ] [DecidableLT κ] {key : κ} {item : α}
    {entry : κ × α} {entries : List (κ × α)} (h : entry ∈ insert key item entries) :
    entry = (key, item) ∨ entry ∈ entries := by
  induction entries with
  | nil => exact Or.inl (List.mem_singleton.mp h)
  | cons first rest ih =>
    rw [insert] at h
    split at h
    · rcases List.mem_cons.mp h with rfl | h
      · exact Or.inl rfl
      · exact Or.inr (.tail _ h)
    · split at h
      · exact List.mem_cons.mp h
      · rcases List.mem_cons.mp h with rfl | h
        · exact Or.inr (.head _)
        · exact (ih h).imp_right (.tail _)

theorem erase_sublist [DecidableEq κ] (key : κ) (entries : List (κ × α)) :
    (erase key entries).Sublist entries := by
  induction entries with
  | nil => exact .slnil
  | cons first rest ih =>
    rw [erase]
    split
    · exact List.sublist_cons_self first rest
    · exact ih.cons_cons first

/-- Dropping an item keeps the keys ascending. -/
theorem pairwise_erase [LT κ] [DecidableEq κ] (key : κ) {entries : List (κ × α)}
    (h : (entries.map Prod.fst).Pairwise (· < ·)) :
    ((erase key entries).map Prod.fst).Pairwise (· < ·) :=
  h.sublist ((erase_sublist key entries).map Prod.fst)

/-- Of two items that are put in under one key the second stays. -/
theorem insert_insert [LT κ] [DecidableEq κ] [DecidableLT κ] (key : κ) (first second : α)
    (entries : List (κ × α)) :
    insert key second (insert key first entries) = insert key second entries := by
  induction entries with
  | nil => simp only [insert, if_true]
  | cons entry rest ih =>
    by_cases hsame : key = entry.1
    · simp only [insert, if_pos hsame, if_true]
    · by_cases hless : key < entry.1
      · simp only [insert, if_neg hsame, if_pos hless, if_true]
      · simp only [insert, if_neg hsame, if_neg hless, ih]

/-! ## What is found -/

theorem mem_of_find?_eq_some [DecidableEq κ] {key : κ} {item : α} {entries : List (κ × α)}
    (h : find? key entries = some item) : (key, item) ∈ entries := by
  induction entries with
  | nil => cases h
  | cons first rest ih =>
    rw [find?] at h
    split at h
    · next hkey =>
      subst hkey
      cases h
      exact .head _
    · exact .tail _ (ih h)

/-- Nothing is found under a key that is not there. -/
theorem find?_eq_none_of_not_mem [DecidableEq κ] {key : κ} {entries : List (κ × α)}
    (h : key ∉ entries.map Prod.fst) : find? key entries = none := by
  cases hfound : find? key entries with
  | none => rfl
  | some item => exact absurd (List.mem_map_of_mem (mem_of_find?_eq_some hfound)) h

/-- An item is found under its key. -/
theorem find?_eq_some_iff [DecidableEq κ] {key : κ} {item : α} {entries : List (κ × α)}
    (hkeys : (entries.map Prod.fst).Nodup) :
    find? key entries = some item ↔ (key, item) ∈ entries := by
  refine ⟨mem_of_find?_eq_some, fun h => ?_⟩
  induction entries with
  | nil => cases h
  | cons first rest ih =>
    rw [List.map_cons, List.nodup_cons] at hkeys
    rw [find?]
    rcases List.mem_cons.mp h with rfl | hrest
    · exact if_pos rfl
    · have hne : key ≠ first.1 := by
        rintro rfl
        exact hkeys.1 (List.mem_map.mpr ⟨_, hrest, rfl⟩)
      rw [if_neg hne]
      exact ih hkeys.2 hrest

/-- A key that was dropped is gone. -/
theorem find?_erase_self [DecidableEq κ] {key : κ} {entries : List (κ × α)}
    (hkeys : (entries.map Prod.fst).Nodup) : find? key (erase key entries) = none := by
  induction entries with
  | nil => rfl
  | cons first rest ih =>
    rw [List.map_cons, List.nodup_cons] at hkeys
    rw [erase]
    split
    · next hkey =>
      subst hkey
      exact find?_eq_none_of_not_mem hkeys.1
    · next hne => rw [find?, if_neg hne, ih hkeys.2]

/-- Lists with ascending keys are the same when the same is found in them. -/
theorem eq_of_find?_eq [LT κ] [DecidableEq κ] (asymm : ∀ {a b : κ}, a < b → ¬ b < a)
    {first second : List (κ × α)} (hfirst : (first.map Prod.fst).Pairwise (· < ·))
    (hsecond : (second.map Prod.fst).Pairwise (· < ·))
    (h : ∀ key, find? key first = find? key second) : first = second := by
  have hne : ∀ {a b : κ}, a < b → a ≠ b := fun hlt heq => asymm hlt (heq ▸ hlt)
  have hmem : ∀ entry, entry ∈ first ↔ entry ∈ second := by
    rintro ⟨key, item⟩
    rw [← find?_eq_some_iff (hfirst.imp hne), h, find?_eq_some_iff (hsecond.imp hne)]
  have hfirst' : first.Pairwise fun a b => a.1 < b.1 := List.pairwise_map.mp hfirst
  have hsecond' : second.Pairwise fun a b => a.1 < b.1 := List.pairwise_map.mp hsecond
  have hperm : first.Perm second :=
    (List.perm_ext_iff_of_nodup (hfirst'.imp fun hlt heq => hne hlt (congrArg Prod.fst heq))
      (hsecond'.imp fun hlt heq => hne hlt (congrArg Prod.fst heq))).mpr hmem
  exact hperm.eq_of_pairwise (fun _ _ _ _ hlt hgt => absurd hgt (asymm hlt)) hfirst' hsecond'

end Ascending

end ProtoSchema
