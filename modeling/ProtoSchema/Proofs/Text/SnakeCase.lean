import ProtoSchema.Text.Words

/-!
# Snake case

In snake case a name is spelled with lower-case ASCII letters, and underscores are put in
front of the places where words start.  Nothing else changes.

`snake` goes along a name with the character before at hand.  Where it puts underscores
depends only on the characters around a place (`WordStart`), and so the result is the name
in lower case `withBreaks` there (`snake_eq_withBreaks`).  Whatever the breaks are, they go
away with all other underscores (`filter_withBreaks`).

A word starts with an upper-case letter, and the letter in front of it has a case as well.
So a break is never next to an underscore of the name (`doubled_snakeAfter`).  In the snake
case of an ASCII name nothing is in upper case any more, and nothing starts a word.
-/

namespace ProtoSchema.Words

/-! ## Characters -/

/-- No letter becomes an underscore in lower case. -/
theorem toLower_eq_iff {c : Char} : c.toLower = '_' ↔ c = '_' := by
  constructor
  · intro h
    unfold Char.toLower at h
    split at h
    · next hc =>
      have hlow : 65 ≤ c.val.toNat := UInt32.le_iff_toNat_le.mp hc.1
      have hhigh : c.val.toNat ≤ 90 := UInt32.le_iff_toNat_le.mp hc.2
      have hval : (c.val + 32).toNat = 95 := congrArg (fun d : Char => d.val.toNat) h
      rw [UInt32.toNat_add] at hval
      have h32 : (32 : UInt32).toNat = 32 := rfl
      omega
    · exact h
  · rintro rfl
    rfl

/-- What is not in upper case stays as it is. -/
theorem toLower_of_not_isUpper {c : Char} (h : Letter.isUpper c = false) : c.toLower = c := by
  unfold Char.toLower
  split
  · next hc =>
    have hascii : c.toNat < 128 := Nat.lt_of_le_of_lt (UInt32.le_iff_toNat_le.mp hc.2) (by decide)
    have hupper : c.isUpper = true := decide_eq_true hc
    rw [Letter.isUpper, if_pos hascii, hupper] at h
    cases h
  · rfl

/-- In lower case an ASCII character is not in upper case. -/
theorem isUpper_toLower {c : Char} (h : c.toNat < 128) : Letter.isUpper c.toLower = false := by
  have hall : ∀ n < 128, Letter.isUpper (Char.ofNat n).toLower = false := by decide +kernel
  simpa using hall c.toNat h

/-- An underscore has no case. -/
theorem ne_of_hasCase {c : Char} (h : Letter.isUpper c = true ∨ Letter.isLower c = true) :
    c ≠ '_' := by
  rintro rfl
  revert h
  decide

/-- What starts a word is in upper case, and what stands in front of it has a case, too. -/
theorem ne_of_startsWord {previous c : Char} {next : Option Char}
    (h : startsWord previous c next = true) : previous ≠ '_' ∧ c ≠ '_' := by
  simp only [startsWord, Bool.and_eq_true, Bool.or_eq_true] at h
  obtain ⟨hc, hprevious⟩ := h
  refine ⟨ne_of_hasCase ?_, ne_of_hasCase (Or.inl hc)⟩
  rcases hprevious with hlower | ⟨hupper, -⟩
  · exact Or.inr hlower
  · exact Or.inl hupper

/-! ## Breaks -/

/-- A text with underscores in front of some of its places. -/
def withBreaks (breaks : Nat → Bool) (text : List Char) : List Char :=
  (text.mapIdx fun i c => if breaks i then ['_', c] else [c]).flatten

@[simp] theorem withBreaks_nil (breaks : Nat → Bool) : withBreaks breaks [] = [] := rfl

theorem withBreaks_cons (breaks : Nat → Bool) (c : Char) (text : List Char) :
    withBreaks breaks (c :: text) =
      if breaks 0 then '_' :: c :: withBreaks (fun i => breaks (i + 1)) text
      else c :: withBreaks (fun i => breaks (i + 1)) text := by
  cases hbreak : breaks 0 <;> simp [withBreaks, hbreak]

/-- Without underscores, a text is the same with breaks and without. -/
theorem filter_withBreaks (breaks : Nat → Bool) (text : List Char) :
    (withBreaks breaks text).filter (· ≠ '_') = text.filter (· ≠ '_') := by
  induction text generalizing breaks with
  | nil => rfl
  | cons c text ih =>
    have hc : (c :: withBreaks (fun i => breaks (i + 1)) text).filter (· ≠ '_') =
        (c :: text).filter (· ≠ '_') := by
      rw [List.filter_cons, List.filter_cons, ih]
    rw [withBreaks_cons]
    split
    · rwa [List.filter_cons_of_neg (by decide)]
    · exact hc

/-- With breaks, a text has its own characters and underscores. -/
theorem mem_withBreaks {breaks : Nat → Bool} {text : List Char} {c : Char}
    (h : c ∈ withBreaks breaks text) : c = '_' ∨ c ∈ text := by
  induction text generalizing breaks with
  | nil => cases h
  | cons first text ih =>
    have hrest : c = first ∨ c ∈ withBreaks (fun i => breaks (i + 1)) text →
        c = '_' ∨ c ∈ first :: text := by
      rintro (rfl | hlater)
      · exact Or.inr (.head text)
      · exact (ih hlater).imp_right (.tail first)
    rw [withBreaks_cons] at h
    split at h
    · rcases List.mem_cons.mp h with rfl | h
      · exact Or.inl rfl
      · exact hrest (List.mem_cons.mp h)
    · exact hrest (List.mem_cons.mp h)

/-! ## Where words start -/

/-- Whether a word of a name starts at a place.  There is an upper-case letter, and the one
in front of it is in lower case, or is in upper case while a lower-case one follows. -/
def WordStart (upper lower : Char → Bool) (name : List Char) (i : Nat) : Prop :=
  0 < i ∧ ∃ previous c, name[i - 1]? = some previous ∧ name[i]? = some c ∧ upper c = true ∧
    (lower previous = true ∨
      upper previous = true ∧ ∃ next, name[i + 1]? = some next ∧ lower next = true)

/-- Where words start depends on the characters of a name only. -/
theorem wordStart_congr {upper upper' lower lower' : Char → Bool} {name : List Char} {i : Nat}
    (hupper : ∀ c ∈ name, upper c = upper' c) (hlower : ∀ c ∈ name, lower c = lower' c) :
    WordStart upper lower name i ↔ WordStart upper' lower' name i := by
  refine and_congr_right fun _ => exists_congr fun previous => exists_congr fun c =>
    and_congr_right fun hprevious => and_congr_right fun hc => ?_
  have hnext : (∃ next, name[i + 1]? = some next ∧ lower next = true) ↔
      ∃ next, name[i + 1]? = some next ∧ lower' next = true :=
    exists_congr fun next => and_congr_right fun h => by rw [hlower next (List.mem_of_getElem? h)]
  rw [hupper c (List.mem_of_getElem? hc), hupper previous (List.mem_of_getElem? hprevious),
    hlower previous (List.mem_of_getElem? hprevious), hnext]

/-- The places of the rest of a name, after the character `previous`, where words start. -/
def breaksAfter (previous : Char) : List Char → Nat → Bool
  | [], _ => false
  | c :: rest, 0 => startsWord previous c rest.head?
  | c :: rest, i + 1 => breaksAfter c rest i

/-- The places of a name where words start. -/
def breaks : List Char → Nat → Bool
  | c :: rest, i + 1 => breaksAfter c rest i
  | _, _ => false

theorem breaksAfter_iff {previous : Char} {rest : List Char} {i : Nat} :
    breaksAfter previous rest i = true ↔
      WordStart Letter.isUpper Letter.isLower (previous :: rest) (i + 1) := by
  induction rest generalizing previous i with
  | nil => simp [breaksAfter, WordStart]
  | cons c rest ih =>
    cases i with
    | zero =>
      simp [breaksAfter, WordStart, startsWord, Option.any_eq_true, List.head?_eq_getElem?]
    | succ i =>
      rw [breaksAfter, ih]
      simp [WordStart]

theorem breaks_iff {name : List Char} {i : Nat} :
    breaks name i = true ↔ WordStart Letter.isUpper Letter.isLower name i := by
  cases name with
  | nil => simp [breaks, WordStart]
  | cons c rest =>
    cases i with
    | zero => simp [breaks, WordStart]
    | succ i => exact breaksAfter_iff

theorem snakeAfter_eq_withBreaks (previous : Char) (rest : List Char) :
    snakeAfter previous rest = withBreaks (breaksAfter previous rest) (rest.map Char.toLower) := by
  induction rest generalizing previous with
  | nil => rfl
  | cons c rest ih =>
    rw [snakeAfter, ih, List.map_cons, withBreaks_cons]
    rfl

/-- In snake case, a name is in lower case and has an underscore in front of every word but
the first one. -/
theorem snake_eq_withBreaks (name : List Char) :
    snake name = withBreaks (breaks name) (name.map Char.toLower) := by
  cases name with
  | nil => rfl
  | cons c rest =>
    rw [snake, snakeAfter_eq_withBreaks, List.map_cons, withBreaks_cons]
    rfl

/-! ## Underscores -/

/-- How many underscores of a text have another one right after them. -/
def doubled (text : List Char) : Nat := (text.zip text.tail).count ('_', '_')

theorem doubled_cons_cons (a b : Char) (text : List Char) :
    doubled (a :: b :: text) = doubled (b :: text) + if a = '_' ∧ b = '_' then 1 else 0 := by
  simp [doubled, List.count_cons]

/-- Underscores are next to each other where they are in the name. -/
theorem doubled_snakeAfter (previous : Char) (rest : List Char) :
    doubled (previous.toLower :: snakeAfter previous rest) = doubled (previous :: rest) := by
  induction rest generalizing previous with
  | nil => rfl
  | cons c rest ih =>
    rw [snakeAfter, doubled_cons_cons previous]
    split
    · next hstart =>
      obtain ⟨hprevious, hc⟩ := ne_of_startsWord hstart
      simp [doubled_cons_cons, toLower_eq_iff, hprevious, hc, ih]
    · simp [doubled_cons_cons, toLower_eq_iff, ih]

theorem doubled_snake (name : List Char) : doubled (snake name) = doubled name := by
  cases name with
  | nil => rfl
  | cons c rest => exact doubled_snakeAfter c rest

/-- The snake case of a name starts with an underscore only when the name does. -/
theorem head?_snake (name : List Char) :
    (snake name).head? = some '_' ↔ name.head? = some '_' := by
  cases name with
  | nil => rfl
  | cons c rest => simp [snake, toLower_eq_iff]

/-- Taking underscores out and making letters lower case may be done in either order. -/
theorem filter_map_toLower (name : List Char) :
    (name.map Char.toLower).filter (· ≠ '_') = (name.filter (· ≠ '_')).map Char.toLower := by
  rw [List.filter_map]
  congr 1
  exact List.filter_congr fun c _ => by simp [toLower_eq_iff]

/-! ## Names without upper case -/

theorem snakeAfter_of_not_isUpper (previous : Char) {rest : List Char}
    (h : ∀ c ∈ rest, Letter.isUpper c = false) : snakeAfter previous rest = rest := by
  induction rest generalizing previous with
  | nil => rfl
  | cons c rest ih =>
    have hc := h c (.head rest)
    have hstart : startsWord previous c rest.head? = false := by simp [startsWord, hc]
    simp [snakeAfter, hstart, toLower_of_not_isUpper hc, ih c fun d hd => h d (.tail c hd)]

/-- A name that has nothing in upper case is its own snake case. -/
theorem snake_of_not_isUpper {name : List Char} (h : ∀ c ∈ name, Letter.isUpper c = false) :
    snake name = name := by
  cases name with
  | nil => rfl
  | cons c rest =>
    rw [snake, toLower_of_not_isUpper (h c (.head rest)),
      snakeAfter_of_not_isUpper c fun d hd => h d (.tail c hd)]

/-! ## Names in snake case -/

/-- What a text must be to be a name in lower case with underscores in front of its words. -/
structure AddsBreaks (upper lower : Char → Bool) (name text : List Char) : Prop where
  /-- Underscores apart, the letters of the name become lower case and nothing else changes. -/
  letters : text.filter (· ≠ '_') = (name.filter (· ≠ '_')).map Char.toLower
  /-- Underscores are put in front of the places where words start, and nowhere else. -/
  placed : ∃ breaks : Nat → Bool, text = withBreaks breaks (name.map Char.toLower) ∧
    ∀ i, breaks i = true ↔ WordStart upper lower name i
  /-- There is no underscore in front that the name does not have. -/
  first : text.head? = some '_' ↔ name.head? = some '_'
  /-- There are no two underscores in a row that the name does not have. -/
  inRow : doubled text = doubled name

section

variable {name : List Char} (hascii : ∀ c ∈ name, c.toNat < 128)
include hascii

/-- The snake case of an ASCII name has nothing in upper case. -/
theorem isUpper_of_mem_snake : ∀ c ∈ snake name, Letter.isUpper c = false := by
  intro c hc
  rw [snake_eq_withBreaks] at hc
  rcases mem_withBreaks hc with rfl | hmem
  · rfl
  · obtain ⟨d, hd, rfl⟩ := List.mem_map.mp hmem
    exact isUpper_toLower (hascii d hd)

/-- For an ASCII name, words are told by ASCII letters. -/
theorem AddsBreaks.ascii {text : List Char}
    (h : AddsBreaks Letter.isUpper Letter.isLower name text) :
    AddsBreaks Char.isUpper Char.isLower name text := by
  have hupper : ∀ c ∈ name, Letter.isUpper c = c.isUpper := fun c hc => if_pos (hascii c hc)
  have hlower : ∀ c ∈ name, Letter.isLower c = c.isLower := fun c hc => if_pos (hascii c hc)
  obtain ⟨breaks, htext, hbreaks⟩ := h.placed
  refine { h with placed := ⟨breaks, htext, fun i => ?_⟩ }
  rw [hbreaks i, wordStart_congr hupper hlower]

end

/-- **Snake case only puts underscores in front of words.**  Otherwise a name changes to lower
case, and it gets no underscore in front and no two in a row.  For an ASCII name, nothing in
upper case is left, and doing it again changes nothing. -/
theorem snake_addsBreaks (name : List Char) :
    AddsBreaks Letter.isUpper Letter.isLower name (snake name) ∧
      ((∀ c ∈ name, c.toNat < 128) →
        AddsBreaks Char.isUpper Char.isLower name (snake name) ∧
          (∀ c ∈ snake name, Letter.isUpper c = false) ∧ snake (snake name) = snake name) := by
  have hadds : AddsBreaks Letter.isUpper Letter.isLower name (snake name) :=
    { letters := by rw [snake_eq_withBreaks, filter_withBreaks, filter_map_toLower]
      placed := ⟨breaks name, snake_eq_withBreaks name, fun _ => breaks_iff⟩
      first := head?_snake name
      inRow := doubled_snake name }
  refine ⟨hadds, fun hascii => ⟨hadds.ascii hascii, ?_, ?_⟩⟩
  · exact isUpper_of_mem_snake hascii
  · exact snake_of_not_isUpper (isUpper_of_mem_snake hascii)

/-- A name with several upper-case letters in a row and an underscore of its own. -/
theorem snake_addsBreaks_httpServer :
    (∀ c ∈ "HTTPServer_v2".toList, c.toNat < 128) ∧
      snake "HTTPServer_v2".toList = "http_server_v2".toList ∧
      AddsBreaks Char.isUpper Char.isLower "HTTPServer_v2".toList "http_server_v2".toList ∧
      snake "http_server_v2".toList = "http_server_v2".toList := by
  have hascii : ∀ c ∈ "HTTPServer_v2".toList, c.toNat < 128 := by simp
  have hsnake : snake "HTTPServer_v2".toList = "http_server_v2".toList := by decide
  obtain ⟨-, h⟩ := snake_addsBreaks "HTTPServer_v2".toList
  obtain ⟨hadds, -, hagain⟩ := h hascii
  rw [hsnake] at hadds hagain
  exact ⟨hascii, hsnake, hadds, hagain⟩

end ProtoSchema.Words
