import ProtoSchema.Compiler.Session

/-!
# The search path

Imports of a compilation are looked for in the directories of the session and then in those
of the inputs.  The first directory that has the import is taken, so it matters which
directory comes before which.

The search path is the *ordered union* of the two lists (`searchDirs_orderedUnion`).  An
entry is kept when no earlier entry is the same directory.  Nothing is asked of the two
lists: each may name a directory twice, and they may overlap in any way.

Two facts about `firstOnly` carry the result.  What is kept is told by the place of an
entry alone (`firstOnly_eq_filter`), whatever it means to be alike.  And a list in front of
another keeps the entries it would keep by itself, while the other one keeps only what is
like nothing in front (`firstOnly_append`).
-/

namespace ProtoSchema

namespace Path

theorem same_iff {a b : String} : same a b = true ↔ components a = components b := beq_iff_eq

@[simp] theorem same_refl (path : String) : same path path = true := same_iff.mpr rfl

theorem same_trans {a b c : String} (hab : same a b = true) (hbc : same b c = true) :
    same a c = true :=
  same_iff.mpr ((same_iff.mp hab).trans (same_iff.mp hbc))

end Path

namespace Compiler

/-! ## Ordered unions -/

/-- Whether a list holds an item like the given one. -/
def Holds (alike : String → String → Bool) (items : List String) (item : String) : Prop :=
  ∃ known ∈ items, alike known item = true

/-- What a list must be to hold the items of two lists, those of the first one in front, and
of items that are alike only the first. -/
structure OrderedUnion (alike : String → String → Bool) (own others found : List String) :
    Prop where
  /-- An item is kept when there is nothing like it at an earlier place. -/
  kept : found = ((own ++ others).zipIdx.filter fun entry =>
    !((own ++ others).take entry.2).any (alike · entry.1)).map Prod.fst
  /-- No two items are alike. -/
  apart : found.Pairwise fun first second => alike first second = false
  /-- The items are those of the two lists. -/
  holds : ∀ item, Holds alike found item ↔ Holds alike (own ++ others) item
  /-- The items stand in the order in which those like them come first. -/
  ordered : found.Pairwise fun first second =>
    (own ++ others).findIdx (alike · first) < (own ++ others).findIdx (alike · second)
  /-- An item of the first list has only such items before it. -/
  ownFirst : found.Pairwise fun first second => Holds alike own second → Holds alike own first

/-! ## First occurrences -/

section

variable {alike : String → String → Bool}

/-- What is kept after an item is not like it. -/
theorem alike_eq_false_of_mem {first : String} {rest : List String} {second : String}
    (h : second ∈ (firstOnly alike rest).filter fun other => !alike first other) :
    alike first second = false := by
  simpa using (List.mem_filter.mp h).2

theorem mem_of_mem_firstOnly {items : List String} {item : String}
    (h : item ∈ firstOnly alike items) : item ∈ items := by
  induction items with
  | nil => exact h
  | cons first rest ih =>
    rw [firstOnly, List.mem_cons, List.mem_filter] at h
    rcases h with rfl | ⟨hrest, -⟩
    · exact .head rest
    · exact .tail first (ih hrest)

/-- Which items are kept depends only on what is at earlier places, kept or not. -/
theorem firstOnly_eq_filter (items : List String) :
    firstOnly alike items = (items.zipIdx.filter fun entry =>
      !(items.take entry.2).any (alike · entry.1)).map Prod.fst := by
  induction items with
  | nil => rfl
  | cons first rest ih =>
    rw [firstOnly, ih, List.zipIdx_cons']
    simp [List.filter_map, List.filter_filter, Function.comp_def]

/-- No two of the items that are kept are alike. -/
theorem pairwise_firstOnly (items : List String) :
    (firstOnly alike items).Pairwise fun first second => alike first second = false := by
  induction items with
  | nil => exact .nil
  | cons first rest ih => exact .cons (fun _ => alike_eq_false_of_mem) (ih.filter _)

/-- For every item there is one like it that is kept. -/
theorem holds_firstOnly
    (htrans : ∀ a b c, alike a b = true → alike b c = true → alike a c = true)
    (items : List String) (item : String) :
    Holds alike (firstOnly alike items) item ↔ Holds alike items item := by
  constructor
  · rintro ⟨known, hknown, hlike⟩
    exact ⟨known, mem_of_mem_firstOnly hknown, hlike⟩
  · rintro ⟨known, hknown, hlike⟩
    induction items with
    | nil => cases hknown
    | cons first rest ih =>
      cases hfirst : alike first item with
      | true => exact ⟨first, .head _, hfirst⟩
      | false =>
        rcases List.mem_cons.mp hknown with rfl | hrest
        · rw [hlike] at hfirst
          cases hfirst
        · obtain ⟨kept, hkept, hkeptlike⟩ := ih hrest
          refine ⟨kept, .tail first (List.mem_filter.mpr ⟨hkept, ?_⟩), hkeptlike⟩
          -- What is like `first` would make the item like it, too.
          cases hlate : alike first kept with
          | false => rfl
          | true =>
            rw [htrans _ _ _ hlate hkeptlike] at hfirst
            cases hfirst

/-- The items that are kept stand in the order of their first places. -/
theorem ordered_firstOnly (hrefl : ∀ item, alike item item = true) (items : List String) :
    (firstOnly alike items).Pairwise fun first second =>
      items.findIdx (alike · first) < items.findIdx (alike · second) := by
  induction items with
  | nil => exact .nil
  | cons first rest ih =>
    refine .cons ?_ ?_
    · intro second hsecond
      simp [List.findIdx_cons, hrefl, alike_eq_false_of_mem hsecond]
    · -- Both are found in the rest, one place later than there.
      refine (ih.filter _).imp_of_mem ?_
      intro second third hsecond hthird hlt
      simpa [List.findIdx_cons, alike_eq_false_of_mem hsecond, alike_eq_false_of_mem hthird]
        using hlt

/-- Behind other items, those that are like one of them are dropped as well. -/
theorem firstOnly_append (items others : List String) :
    firstOnly alike (items ++ others) =
      firstOnly alike items ++
        (firstOnly alike others).filter fun other => !items.any (alike · other) := by
  induction items with
  | nil => exact (List.filter_eq_self.mpr fun _ _ => rfl).symm
  | cons first rest ih =>
    rw [List.cons_append, firstOnly, ih, firstOnly, List.filter_append, List.filter_filter]
    simp

/-- Items of the first of two lists are kept before the others. -/
theorem ownFirst_firstOnly (hrefl : ∀ item, alike item item = true) (own others : List String) :
    (firstOnly alike (own ++ others)).Pairwise fun first second =>
      Holds alike own second → Holds alike own first := by
  rw [firstOnly_append, List.pairwise_append]
  have hown : ∀ item ∈ firstOnly alike own, Holds alike own item := fun item hitem =>
    ⟨item, mem_of_mem_firstOnly hitem, hrefl item⟩
  refine ⟨?_, ?_, fun first hfirst second _ _ => hown first hfirst⟩
  · exact List.Pairwise.imp_of_mem (fun hfirst _ _ _ => hown _ hfirst) (pairwise_firstOnly own)
  · refine List.Pairwise.imp_of_mem ?_ ((pairwise_firstOnly others).filter _)
    rintro first second - hsecond - ⟨known, hknown, hlike⟩
    simp only [List.mem_filter, Bool.not_eq_true', List.any_eq_false] at hsecond
    exact absurd hlike (hsecond.2 known hknown)

/-- What is kept of two lists is their ordered union, as long as being alike is reflexive and
transitive. -/
theorem orderedUnion_firstOnly (hrefl : ∀ item, alike item item = true)
    (htrans : ∀ a b c, alike a b = true → alike b c = true → alike a c = true)
    (own others : List String) :
    OrderedUnion alike own others (firstOnly alike (own ++ others)) where
  kept := firstOnly_eq_filter (own ++ others)
  apart := pairwise_firstOnly (own ++ others)
  holds := holds_firstOnly htrans (own ++ others)
  ordered := ordered_firstOnly hrefl (own ++ others)
  ownFirst := ownFirst_firstOnly hrefl own others

end

/-! ## Directories -/

/-- A file that names no directory is in the one directory that is always there. -/
theorem directoryOf_eq (input : String) :
    directoryOf input = ((Path.parent input).filter (· ≠ "")).getD "." := by
  unfold directoryOf
  split
  · next h => rw [h]; rfl
  · next h => rw [h]; rfl
  · next parent hne h =>
    have hparent : parent ≠ "" := hne
    rw [h, Option.filter_some, decide_eq_true hparent]
    rfl

/-- **The search path is an ordered union.**  It has the directories of the session and then
those of the inputs, each where it comes first. -/
theorem searchDirs_orderedUnion (compiler : Compiler) (inputs : List String) :
    OrderedUnion Path.same compiler.includeDirs
      (inputs.map fun input => ((Path.parent input).filter (· ≠ "")).getD ".")
      (compiler.searchDirs inputs) := by
  rw [searchDirs, funext directoryOf_eq]
  exact orderedUnion_firstOnly Path.same_refl (fun _ _ _ => Path.same_trans) _ _

example : searchDirs { command := defaultCommand none, includeDirs := ["vendor", "protos/"] }
    ["protos/a.proto", "b.proto", "other/c.proto", "./vendor/../d.proto"] =
      ["vendor", "protos/", ".", "other", "./vendor/.."] := by
  decide +kernel

end Compiler

end ProtoSchema
