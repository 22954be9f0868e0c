import Mathlib.Data.List.Forall2

/-!
# Work that may fail

Tables and source are made step by step, and the first fault stops the work.
These are the laws by which such work is taken apart: what it means that steps
in a row succeed (`bind_eq_ok`), that the same work on every item of a list
succeeds (`mapM_eq_ok`) or fails (`exists_of_mapM_eq_error`), and when two pieces
of work have the same outcome, be it a result or a fault (`bind_congr_ok`,
`mapM_congr_mem`).  `Yields` says both what faults work may have and what its result
is like, and is kept by steps in a row and by work on every item of a list.
-/

namespace ProtoSchema.Checked

variable {ε α β γ : Type}

theorem bind_eq_ok {x : Except ε α} {f : α → Except ε β} {b : β} :
    (x >>= f) = .ok b ↔ ∃ a, x = .ok a ∧ f a = .ok b := by
  cases x with
  | error e =>
    constructor
    · intro h
      cases h
    · rintro ⟨a, h, -⟩
      cases h
  | ok a =>
    constructor
    · intro h
      exact ⟨a, rfl, h⟩
    · rintro ⟨a', h, hf⟩
      cases h
      exact hf

theorem exists_eq_ok_of_isOk {x : Except ε α} (h : x.isOk = true) : ∃ a, x = .ok a := by
  cases x with
  | error e => cases h
  | ok a => exact ⟨a, rfl⟩

/-- Further work matters only for what the work before it can result in. -/
theorem bind_congr_ok {x : Except ε α} {f g : α → Except ε β}
    (h : ∀ a, x = .ok a → f a = g a) : (x >>= f) = (x >>= g) := by
  cases x with
  | error e => rfl
  | ok a => exact h a rfl

/-- Work on every item succeeds when it does so on each. -/
theorem mapM_eq_ok {f : α → Except ε β} {items : List α} {results : List β} :
    items.mapM f = .ok results ↔ List.Forall₂ (fun a b => f a = .ok b) items results := by
  induction items generalizing results with
  | nil =>
    rw [List.mapM_nil, List.forall₂_nil_left_iff]
    constructor
    · intro h
      cases h
      rfl
    · intro h
      rw [h]
      rfl
  | cons a items ih =>
    rw [List.mapM_cons, bind_eq_ok, List.forall₂_cons_left_iff]
    constructor
    · rintro ⟨b, hb, h⟩
      obtain ⟨rest, hrest, h⟩ := bind_eq_ok.mp h
      cases h
      exact ⟨b, rest, hb, ih.mp hrest, rfl⟩
    · rintro ⟨b, rest, hb, hrest, rfl⟩
      exact ⟨b, hb, bind_eq_ok.mpr ⟨rest, ih.mpr hrest, rfl⟩⟩

/-- Work on the items of a list depends only on what is done to these items. -/
theorem mapM_congr_mem {f g : α → Except ε β} {items : List α}
    (h : ∀ a ∈ items, f a = g a) : items.mapM f = items.mapM g := by
  induction items with
  | nil => rfl
  | cons a items ih =>
    rw [List.mapM_cons, List.mapM_cons, h a (.head items), ih fun b hb => h b (.tail a hb)]

/-- What goes together with the items of a list one by one has a part for each item. -/
theorem exists_of_forall₂_left {r : α → β → Prop} {items : List α} {results : List β}
    (h : List.Forall₂ r items results) {a : α} (ha : a ∈ items) : ∃ b ∈ results, r a b := by
  induction h with
  | nil => cases ha
  | cons hfirst _ ih =>
    cases ha with
    | head => exact ⟨_, .head _, hfirst⟩
    | tail _ ha =>
      obtain ⟨b, hb, hr⟩ := ih ha
      exact ⟨b, .tail _ hb, hr⟩

theorem exists_of_forall₂_right {r : α → β → Prop} {items : List α} {results : List β}
    (h : List.Forall₂ r items results) {b : β} (hb : b ∈ results) : ∃ a ∈ items, r a b :=
  exists_of_forall₂_left (r := flip r) h.flip hb

/-- Only the items themselves matter for what goes together with them. -/
theorem forall₂_mem_and {r : α → β → Prop} {items : List α} {results : List β}
    (h : List.Forall₂ r items results) :
    List.Forall₂ (fun a b => a ∈ items ∧ r a b) items results :=
  (List.forall₂_and_left _ _).mpr ⟨fun _ ha => ha, h⟩

/-- What goes together with the same items goes together. -/
theorem forall₂_of_common {r : α → β → Prop} {s : α → γ → Prop} {items : List α}
    {results : List β} {others : List γ} (hr : List.Forall₂ r items results)
    (hs : List.Forall₂ s items others) :
    List.Forall₂ (fun b c => ∃ a, r a b ∧ s a c) results others := by
  induction hr generalizing others with
  | nil =>
    cases hs
    exact .nil
  | cons hfirst _ ih =>
    cases hs with
    | cons hother hrest => exact .cons ⟨_, hfirst, hother⟩ (ih hrest)

/-- The items of a list go together with their positions. -/
theorem forall₂_range_length (items : List α) :
    List.Forall₂ (fun a index => items[index]? = some a) items (List.range items.length) := by
  refine List.forall₂_iff_get.mpr ⟨List.length_range.symm, fun index hindex hindex' => ?_⟩
  simp only [List.get_eq_getElem, List.getElem_range, List.getElem?_eq_getElem hindex]

/-- Where there is something for each item, there is a list of it. -/
theorem exists_forall₂_of_forall {r : α → β → Prop} {items : List α}
    (h : ∀ a ∈ items, ∃ b, r a b) : ∃ results, List.Forall₂ r items results := by
  induction items with
  | nil => exact ⟨[], .nil⟩
  | cons first items ih =>
    obtain ⟨b, hb⟩ := h first (.head _)
    obtain ⟨results, hresults⟩ := ih fun a ha => h a (.tail _ ha)
    exact ⟨b :: results, .cons hb hresults⟩

/-- Each item has a result. -/
theorem exists_of_mapM_eq_ok {f : α → Except ε β} {items : List α} {results : List β}
    (h : items.mapM f = .ok results) {a : α} (ha : a ∈ items) :
    ∃ b ∈ results, f a = .ok b :=
  exists_of_forall₂_left (mapM_eq_ok.mp h) ha

/-- Each result is that of an item. -/
theorem exists_item_of_mapM_eq_ok {f : α → Except ε β} {items : List α} {results : List β}
    (h : items.mapM f = .ok results) {b : β} (hb : b ∈ results) :
    ∃ a ∈ items, f a = .ok b :=
  exists_of_forall₂_right (mapM_eq_ok.mp h) hb

/-- Work on every item fails with the fault of the first item that has one. -/
theorem exists_of_mapM_eq_error {f : α → Except ε β} {items : List α} {e : ε}
    (h : items.mapM f = .error e) :
    ∃ before item after, items = before ++ item :: after ∧
      (∀ earlier ∈ before, ∃ result, f earlier = .ok result) ∧ f item = .error e := by
  induction items with
  | nil => cases h
  | cons item items ih =>
    rw [List.mapM_cons] at h
    cases hitem : f item with
    | error e' =>
      rw [hitem] at h
      cases h
      exact ⟨[], item, items, rfl, fun _ hmem => (List.not_mem_nil hmem).elim, hitem⟩
    | ok result =>
      have hrest : items.mapM f = .error e := by
        cases hrest : items.mapM f with
        | error e' =>
          rw [hitem, hrest] at h
          exact h
        | ok results =>
          rw [hitem, hrest] at h
          cases h
      obtain ⟨before, failing, after, rfl, hbefore, hfailing⟩ := ih hrest
      refine ⟨item :: before, failing, after, rfl, fun earlier hmem => ?_, hfailing⟩
      rcases List.mem_cons.mp hmem with rfl | hmem
      · exact ⟨result, hitem⟩
      · exact hbefore earlier hmem

/-! ## What may come of work -/

/-- Work has only faults that `P` allows, and `Q` holds of what it results in. -/
def Yields (P : ε → Prop) (Q : α → Prop) : Except ε α → Prop
  | .error e => P e
  | .ok a => Q a

namespace Yields

variable {P : ε → Prop} {Q : α → Prop} {R : β → Prop}

theorem imp {Q' : α → Prop} {x : Except ε α} (h : Yields P Q x) (hQ : ∀ a, Q a → Q' a) :
    Yields P Q' x := by
  cases x with
  | error e => exact h
  | ok a => exact hQ a h

theorem of_eq_error {x : Except ε α} (h : Yields P Q x) {e : ε} (hx : x = .error e) : P e := by
  rw [hx] at h
  exact h

/-- Work that may not fail at all has a result. -/
theorem exists_ok {x : Except ε α} (h : Yields (fun _ => False) Q x) : ∃ a, x = .ok a ∧ Q a := by
  cases x with
  | error e => exact h.elim
  | ok a => exact ⟨a, rfl, h⟩

/-- Further work may go by what is known of the result before it. -/
theorem bind {x : Except ε α} {f : α → Except ε β} (hx : Yields P Q x)
    (hf : ∀ a, Q a → Yields P R (f a)) : Yields P R (x >>= f) := by
  cases x with
  | error e => exact hx
  | ok a => exact hf a hx

/-- Work on every item is as good as the work on each of them. -/
theorem mapM {f : α → Except ε β} {items : List α} (h : ∀ a ∈ items, Yields P R (f a)) :
    Yields P (fun results => ∀ b ∈ results, R b) (items.mapM f) := by
  induction items with
  | nil =>
    rw [List.mapM_nil]
    exact fun b hb => nomatch hb
  | cons a items ih =>
    rw [List.mapM_cons]
    refine (h a (.head items)).bind fun b hb => ?_
    refine (ih fun a' ha' => h a' (.tail a ha')).bind fun results hresults => ?_
    intro b' hb'
    rcases List.mem_cons.mp hb' with rfl | hb'
    · exact hb
    · exact hresults b' hb'

/-- Where only faults matter, further work is as good for every result. -/
theorem bind_true {x : Except ε α} {f : α → Except ε β} (hx : Yields P (fun _ => True) x)
    (hf : ∀ a, Yields P R (f a)) : Yields P R (x >>= f) :=
  hx.bind fun a _ => hf a

theorem mapM_true {f : α → Except ε β} {items : List α}
    (h : ∀ a ∈ items, Yields P (fun _ => True) (f a)) :
    Yields P (fun _ => True) (items.mapM f) :=
  (mapM h).imp fun _ _ => trivial

end Yields

end ProtoSchema.Checked
