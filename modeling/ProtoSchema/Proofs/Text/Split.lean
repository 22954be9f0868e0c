import ProtoSchema.Text.Split

/-!
# Pieces of text that was put together

Text is split at a separator.  What is put behind it and has no separator in it
goes into the last piece (`split_append_of_not_mem`), and a separator at the end
opens an empty piece (`split_concat`).  The same is stated for strings.
-/

namespace ProtoSchema.Text

theorem split_of_not_mem {separator : Char} {text : List Char} (h : separator ∉ text) :
    split separator text = [text] := by
  induction text with
  | nil => rfl
  | cons c rest ih =>
    have hc : c ≠ separator := fun he => h (he ▸ .head rest)
    have hrest : separator ∉ rest := fun hmem => h (.tail c hmem)
    rw [split, if_neg hc, ih hrest]

/-- Text without a separator goes into the last piece of what is in front of it. -/
theorem split_append_of_not_mem {separator : Char} {first second last : List Char}
    {pieces : List (List Char)} (hfirst : split separator first = pieces ++ [last])
    (hsecond : separator ∉ second) :
    split separator (first ++ second) = pieces ++ [last ++ second] := by
  induction first generalizing pieces last with
  | nil =>
    have hnil : pieces = [] ∧ last = [] := by
      rw [split] at hfirst
      cases pieces with
      | nil =>
        cases hfirst
        exact ⟨rfl, rfl⟩
      | cons piece pieces =>
        have hlength := congrArg List.length hfirst
        simp at hlength
    rw [hnil.1, hnil.2]
    exact split_of_not_mem hsecond
  | cons c rest ih =>
    rw [List.cons_append, split]
    rw [split] at hfirst
    by_cases hc : c = separator
    · rw [if_pos hc] at hfirst ⊢
      cases pieces with
      | nil =>
        rw [List.nil_append, List.cons.injEq] at hfirst
        exact absurd hfirst.2 (split_ne_nil separator rest)
      | cons piece pieces =>
        rw [List.cons_append, List.cons.injEq] at hfirst
        rw [ih hfirst.2, ← hfirst.1, List.cons_append]
    · rw [if_neg hc] at hfirst ⊢
      cases hrest : split separator rest with
      | nil => exact absurd hrest (split_ne_nil separator rest)
      | cons piece more =>
        rw [hrest] at hfirst
        simp only at hfirst
        cases pieces with
        | nil =>
          rw [List.nil_append, List.cons.injEq] at hfirst
          obtain ⟨rfl, rfl⟩ := hfirst
          have hrest' : split separator rest = [] ++ [piece] := hrest
          rw [ih hrest']
          rfl
        | cons piece' pieces =>
          rw [List.cons_append, List.cons.injEq] at hfirst
          obtain ⟨rfl, rfl⟩ := hfirst
          have hrest' : split separator rest = piece :: pieces ++ [last] := hrest
          rw [ih hrest']
          rfl

/-- A separator at the end opens an empty piece. -/
theorem split_concat (separator : Char) (text : List Char) :
    split separator (text ++ [separator]) = split separator text ++ [[]] := by
  induction text with
  | nil => simp [split]
  | cons c rest ih =>
    rw [List.cons_append, split, split, ih]
    by_cases hc : c = separator
    · rw [if_pos hc, if_pos hc, List.cons_append]
    · rw [if_neg hc, if_neg hc]
      cases hrest : split separator rest with
      | nil => exact absurd hrest (split_ne_nil separator rest)
      | cons piece more => rfl

/-- Every character is the separator or stands in a piece. -/
theorem eq_or_exists_of_mem {separator c : Char} {text : List Char} (h : c ∈ text) :
    c = separator ∨ ∃ piece ∈ split separator text, c ∈ piece := by
  induction text with
  | nil => cases h
  | cons d rest ih =>
    rw [split]
    by_cases hd : d = separator
    · rw [if_pos hd]
      rcases List.mem_cons.mp h with rfl | h
      · exact Or.inl hd
      · rcases ih h with hc | ⟨piece, hpiece, hc⟩
        · exact Or.inl hc
        · exact Or.inr ⟨piece, .tail _ hpiece, hc⟩
    · rw [if_neg hd]
      cases hrest : split separator rest with
      | nil => exact absurd hrest (split_ne_nil separator rest)
      | cons first more =>
        rcases List.mem_cons.mp h with rfl | h
        · exact Or.inr ⟨_, .head _, .head _⟩
        · rcases ih h with hc | ⟨piece, hpiece, hc⟩
          · exact Or.inl hc
          · rw [hrest] at hpiece
            rcases List.mem_cons.mp hpiece with rfl | hpiece
            · exact Or.inr ⟨_, .head _, .tail _ hc⟩
            · exact Or.inr ⟨piece, .tail _ hpiece, hc⟩

/-- What stands in a piece stands in the text, and it is not the separator. -/
theorem mem_of_mem_split {separator c : Char} {text piece : List Char}
    (hpiece : piece ∈ split separator text) (hc : c ∈ piece) : c ∈ text ∧ c ≠ separator := by
  induction text generalizing piece with
  | nil =>
    rw [split, List.mem_singleton] at hpiece
    rw [hpiece] at hc
    cases hc
  | cons d rest ih =>
    rw [split] at hpiece
    by_cases hd : d = separator
    · rw [if_pos hd] at hpiece
      rcases List.mem_cons.mp hpiece with rfl | hpiece
      · cases hc
      · exact (ih hpiece hc).imp_left (.tail d)
    · rw [if_neg hd] at hpiece
      cases hrest : split separator rest with
      | nil => exact absurd hrest (split_ne_nil separator rest)
      | cons first more =>
        rw [hrest] at hpiece ih
        rcases List.mem_cons.mp hpiece with rfl | hpiece
        · rcases List.mem_cons.mp hc with rfl | hc
          · exact ⟨.head rest, hd⟩
          · exact (ih (.head more) hc).imp_left (.tail d)
        · exact (ih (.tail first hpiece) hc).imp_left (.tail d)

/-- What starts with no separator starts like its first piece. -/
theorem exists_split_cons {separator c : Char} (rest : List Char) (h : c ≠ separator) :
    ∃ piece more, split separator (c :: rest) = (c :: piece) :: more := by
  rw [split, if_neg h]
  cases hrest : split separator rest with
  | nil => exact absurd hrest (split_ne_nil separator rest)
  | cons piece more => exact ⟨piece, more, rfl⟩

/-! ## Strings -/

theorem pieces_append_of_not_mem {separator : Char} {first second last : String}
    {init : List String} (hfirst : pieces separator first = init ++ [last])
    (hsecond : separator ∉ second.toList) :
    pieces separator (first ++ second) = init ++ [last ++ second] := by
  have hchars : split separator first.toList = init.map String.toList ++ [last.toList] := by
    have h := congrArg (List.map String.toList) hfirst
    have hid : String.toList ∘ String.ofList = id := funext fun chars => String.toList_ofList
    rw [pieces, List.map_map, hid, List.map_id, List.map_append] at h
    exact h
  have hid : String.ofList ∘ String.toList = id := funext fun text => String.ofList_toList
  rw [pieces, String.toList_append, split_append_of_not_mem hchars hsecond, List.map_append,
    List.map_map, hid, List.map_id, List.map_singleton, String.ofList_append,
    String.ofList_toList, String.ofList_toList]

theorem pieces_concat (separator : Char) (text : String) :
    pieces separator (text ++ String.singleton separator) = pieces separator text ++ [""] := by
  unfold pieces
  rw [String.toList_append, String.toList_singleton, split_concat, List.map_append]
  rfl

end ProtoSchema.Text
