import ProtoSchema.Source.TypePath

/-!
# A single underscore in a path

A single underscore is no name, so no way that leads up and then through it can be
read (`TypePath.ofNames?_underscore`).  A package may have this name, and then there
is no source that refers to what is in the package.

The text of such a way is cut into tokens that start with the words up and the
underscore (`Token.Climbs`).  The names behind the underscore may be anything, so
nothing is said about the tokens that follow.
-/

namespace ProtoSchema

/-! ## Tokens -/

/-- Whether tokens start with words that lead up and then an underscore. -/
inductive Token.Climbs : List Token → Prop where
  | underscore (rest : List Token) : Climbs (.name ⟨false, "_"⟩ :: rest)
  | up {rest : List Token} (joint : Bool) :
    Climbs rest →
    Climbs (.name ⟨false, "super"⟩ :: .mark ':' true :: .mark ':' joint :: rest)

theorem Token.Climbs.exists_name {tokens : List Token} (h : Climbs tokens) :
    ∃ ident rest, tokens = .name ident :: rest := by
  cases h with
  | underscore rest => exact ⟨_, rest, rfl⟩
  | up => exact ⟨_, _, rfl⟩

/-! ## Cutting text -/

theorem Blanks.skip_cons {c : Char} (rest : List Char) (hslash : c ≠ '/')
    (hblank : Blank.isSeparator c = false) : skip (c :: rest) = c :: rest := by
  have h := skip.eq_def (c :: rest)
  split at h
  · next heq => exact absurd (List.cons.inj heq).1 hslash
  · next heq => exact absurd (List.cons.inj heq).1 hslash
  · next heq => exact absurd (List.cons.inj heq).1 hslash
  · next heq =>
    obtain ⟨rfl, rfl⟩ := List.cons.inj heq
    rw [h, hblank]
    rfl
  · next heq => cases heq

namespace Lexeme

/-- The lexeme in front of text comes first. -/
theorem all?_of_read? {c : Char} {text rest : List Char} {lexeme : Lexeme} (hslash : c ≠ '/')
    (hblank : Blank.isSeparator c = false) (h : read? (c :: text) = some (lexeme, rest))
    (hlength : rest.length < (c :: text).length) :
    all? (c :: text) = (all? rest).map (lexeme :: ·) := by
  rw [all?, Blanks.skip_cons text hslash hblank]
  simp only [h]
  rw [dif_pos hlength]

/-- The lexemes of a word that leads up and of the colons behind it. -/
theorem all?_super (rest : List Char) :
    all? ("super::".toList ++ rest) = (all? rest).map fun more =>
      .leaves [.name ⟨false, "super"⟩] :: .leaves [.mark ':' true] ::
        .leaves [.mark ':' (isJointBefore rest)] :: more := by
  have hsuper : all? ("super::".toList ++ rest) =
      (all? ("::".toList ++ rest)).map (.leaves [.name ⟨false, "super"⟩] :: ·) :=
    all?_of_read? (by decide) (by decide) rfl (by simp)
  have hfirst : all? ("::".toList ++ rest) =
      (all? (":".toList ++ rest)).map (.leaves [.mark ':' true] :: ·) :=
    all?_of_read? (by decide) (by decide) rfl (by simp)
  have hsecond : all? (":".toList ++ rest) =
      (all? rest).map (.leaves [.mark ':' (isJointBefore rest)] :: ·) :=
    all?_of_read? (by decide) (by decide) rfl (by simp)
  rw [hsuper, hfirst, hsecond, Option.map_map, Option.map_map]
  rfl

/-- The lexeme of an underscore, with colons behind it or nothing. -/
theorem all?_underscore {rest : List Char} (h : rest = [] ∨ ∃ more, rest = ':' :: more) :
    all? ('_' :: rest) = (all? rest).map (.leaves [.name ⟨false, "_"⟩] :: ·) := by
  refine all?_of_read? (by decide) (by decide) ?_ (by simp)
  rcases h with rfl | ⟨more, rfl⟩
  · rfl
  · rfl

/-- The tokens in front of everything that is in brackets, the last one first. -/
def bottom : List OpenGroup → List Token → List Token
  | [], tokens => tokens
  | group :: stack, _ => bottom stack group.before

theorem exists_bottom_append (stack : List OpenGroup) (first tokens : List Token) :
    ∃ more, bottom stack (first ++ tokens) = more ++ bottom stack tokens := by
  cases stack with
  | nil => exact ⟨first, rfl⟩
  | cons group stack => exact ⟨[], rfl⟩

/-- Tokens stay in front of what is put together after them. -/
theorem exists_of_assemble? {stack : List OpenGroup} {tokens found : List Token}
    {lexemes : List Lexeme} (h : assemble? stack tokens lexemes = some found) :
    ∃ more, found = (bottom stack tokens).reverse ++ more := by
  fun_induction assemble? stack tokens lexemes with
  | case1 tokens =>
    cases h
    exact ⟨[], (List.append_nil _).symm⟩
  | case2 => cases h
  | case3 stack tokens list rest ih =>
    obtain ⟨more, rfl⟩ := ih h
    obtain ⟨first, hfirst⟩ := exists_bottom_append stack list.reverse tokens
    rw [hfirst, List.reverse_append, List.append_assoc]
    exact ⟨_, rfl⟩
  | case4 stack tokens delimiter rest ih => exact ih h
  | case5 => cases h
  | case6 group stack tokens delimiter rest hdelimiter ih =>
    obtain ⟨more, rfl⟩ := ih h
    obtain ⟨first, hfirst⟩ :=
      exists_bottom_append stack [.group delimiter tokens.reverse] group.before
    rw [List.singleton_append] at hfirst
    rw [hfirst, List.reverse_append, List.append_assoc, bottom]
    exact ⟨_, rfl⟩
  | case7 => cases h

end Lexeme

/-! ## Reading -/

namespace PathText

open Reader

variable (nested : Nested) (place : PathPlace) {cursor : Cursor} {rest : List Token}

theorem anyName_of_rest {ident : Ident} (h : cursor.rest = .name ident :: rest) :
    anyName cursor =
      some (ident, { cursor with rest, words := cursor.words ++ [ident.spelling] }) := by
  unfold anyName
  rw [h]

theorem part_underscore (h : cursor.rest = .name ⟨false, "_"⟩ :: rest) :
    part nested place cursor = none := by
  unfold part
  exact (congrArg (fun read => Option.bind read _) (anyName_of_rest h)).trans rfl

/-- A word that leads up is a name of its own, and nothing more is read. -/
theorem exists_part_super (h : cursor.rest = .name ⟨false, "super"⟩ :: rest) :
    ∃ name after, part nested place cursor = some (name, after) ∧ after.rest = rest := by
  refine ⟨.plain ⟨false, "super"⟩,
    { cursor with rest, words := cursor.words ++ ["super"] }, ?_, rfl⟩
  unfold part
  exact (congrArg (fun read => Option.bind read _) (anyName_of_rest h)).trans rfl

/-- Two colons in front of a name are passed, and then the name is read. -/
theorem partsAfter_colons {joint : Bool} {ident : Ident} {rest : List Token}
    (h : cursor.rest = .mark ':' true :: .mark ':' joint :: .name ident :: rest) (n : Nat) :
    ∃ after : Cursor, after.rest = .name ident :: rest ∧
      partsAfter nested place (.group .parenthesis) (n + 1) cursor =
        (part nested place after).bind fun first =>
          (partsAfter nested place (.group .parenthesis) n first.2).bind fun more =>
            some (first.1 :: more.1, more.2) := by
  have hsees : sees (.and (.mark "::") (.not (.after 2 (.group .parenthesis)))) cursor =
      some (true, cursor) := by
    show some (Ahead.and (.mark "::") (.not (.after 2 (.group .parenthesis))) cursor.rest,
      cursor) = _
    rw [h]
    rfl
  have hmark : mark "::" cursor =
      some ((), { cursor with rest := .name ident :: rest, words := cursor.words ++ ["::"] }) := by
    unfold mark
    rw [h]
    rfl
  refine ⟨{ cursor with rest := .name ident :: rest, words := cursor.words ++ ["::"] }, rfl, ?_⟩
  rw [partsAfter]
  simp only [bind, StateT.bind, hsees, Option.bind_some, if_true]
  simp only [hmark, Option.bind]
  rfl

/-- The rest of a path is not read when it leads to an underscore. -/
theorem partsAfter_of_climbs {joint : Bool} {tokens : List Token} (hclimbs : Token.Climbs tokens)
    (h : cursor.rest = .mark ':' true :: .mark ':' joint :: tokens) (n : Nat) :
    partsAfter nested place (.group .parenthesis) n cursor = none := by
  induction hclimbs generalizing cursor n joint with
  | underscore rest =>
    cases n with
    | zero => rfl
    | succ n =>
      obtain ⟨after, hafter, hparts⟩ := partsAfter_colons nested place h n
      rw [hparts, part_underscore nested place hafter]
      rfl
  | up joint' hrest ih =>
    cases n with
    | zero => rfl
    | succ n =>
      obtain ⟨after, hafter, hparts⟩ := partsAfter_colons nested place h n
      obtain ⟨name, further, hpart, hfurther⟩ := exists_part_super nested place hafter
      rw [hparts, hpart, Option.bind_some, ih hfurther n]
      rfl

theorem takesMark_of_climbs (h : Token.Climbs cursor.rest) :
    takesMark "::" true cursor = some (false, cursor) := by
  obtain ⟨ident, rest, hrest⟩ := h.exists_name
  have hsees : sees (.mark "::") cursor = some (false, cursor) := by
    show some (Ahead.mark "::" cursor.rest, cursor) = _
    rw [hrest]
    rfl
  unfold takesMark
  simp only [bind, StateT.bind, hsees, Option.bind_some]
  rfl

/-- Neither is the whole path. -/
theorem read_of_climbs (h : Token.Climbs cursor.rest) : read nested place cursor = none := by
  have hstart : Token.Climbs ({ cursor with words := [] } : Cursor).rest := h
  unfold read silently captured
  simp only [bind, StateT.bind, StateT.run, Functor.map, StateT.map]
  generalize ({ cursor with words := [] } : Cursor) = start at hstart
  rw [takesMark_of_climbs hstart, Option.bind_some]
  generalize htokens : start.rest = tokens at hstart
  cases hstart with
  | underscore rest =>
    rw [part_underscore nested place htokens]
    rfl
  | up joint hrest =>
    obtain ⟨name, after, hpart, hafter⟩ := exists_part_super nested place htokens
    rw [hpart, Option.bind_some, bounded, partsAfter_of_climbs nested place hrest hafter]
    rfl

end PathText

/-! ## Ways -/

namespace TypePath

/-- The text of a way up and through an underscore is cut into tokens that start
so. -/
theorem exists_climbs {depth : Nat} {names : List String} {lexemes : List Lexeme}
    {tokens found : List Token}
    (hlexemes : Lexeme.all?
      ("::".intercalate (List.replicate depth "super" ++ "_" :: names)).toList = some lexemes)
    (hfound : Lexeme.assemble? [] tokens lexemes = some found) :
    ∃ rest, found = tokens.reverse ++ rest ∧ Token.Climbs rest := by
  induction depth generalizing lexemes tokens with
  | zero =>
    have htext : ∃ rest, ("::".intercalate ("_" :: names)).toList = '_' :: rest ∧
        (rest = [] ∨ ∃ more, rest = ':' :: more) := by
      cases names with
      | nil => exact ⟨[], by rw [String.intercalate_singleton]; rfl, Or.inl rfl⟩
      | cons name names =>
        rw [String.intercalate_cons_cons, String.toList_append]
        exact ⟨_, rfl, Or.inr ⟨_, rfl⟩⟩
    obtain ⟨rest, htext, hrest⟩ := htext
    rw [List.replicate_zero, List.nil_append, htext, Lexeme.all?_underscore hrest] at hlexemes
    obtain ⟨more, -, rfl⟩ := Option.map_eq_some_iff.mp hlexemes
    rw [Lexeme.assemble?] at hfound
    obtain ⟨after, rfl⟩ := Lexeme.exists_of_assemble? hfound
    refine ⟨.name ⟨false, "_"⟩ :: after, ?_, .underscore after⟩
    simp [Lexeme.bottom]
  | succ depth ih =>
    have htext : ("::".intercalate (List.replicate (depth + 1) "super" ++ "_" :: names)).toList =
        "super::".toList ++
          ("::".intercalate (List.replicate depth "super" ++ "_" :: names)).toList := by
      rw [List.replicate_succ, List.cons_append, String.intercalate_cons_of_ne_nil (by simp),
        String.toList_append]
      rfl
    rw [htext, Lexeme.all?_super] at hlexemes
    obtain ⟨more, hmore, rfl⟩ := Option.map_eq_some_iff.mp hlexemes
    rw [Lexeme.assemble?, Lexeme.assemble?, Lexeme.assemble?] at hfound
    obtain ⟨rest, rfl, hrest⟩ := ih hmore hfound
    generalize Lexeme.isJointBefore _ = joint
    refine ⟨_, ?_, .up joint hrest⟩
    simp

/-- A single underscore may not stand in a path. -/
theorem ofNames?_underscore (depth : Nat) (names : List String) :
    ofNames? (List.replicate depth "super" ++ "_" :: names) = none := by
  have hplain : (List.replicate depth "super" ++ "_" :: names).mapM plain? = none := by
    induction depth with
    | zero =>
      have hunderscore : plain? "_" = none := by decide +kernel
      rw [List.replicate_zero, List.nil_append, List.mapM_cons, hunderscore]
      rfl
    | succ depth ih =>
      rw [List.replicate_succ, List.cons_append, List.mapM_cons, ih]
      cases plain? "super" with
      | none => rfl
      | some part => rfl
  rw [ofNames?, hplain]
  cases htokens : Token.ofText?
      ("::".intercalate (List.replicate depth "super" ++ "_" :: names)) with
  | none =>
    unfold ofText?
    rw [htokens]
    rfl
  | some tokens =>
    obtain ⟨lexemes, hlexemes, hfound⟩ := Option.bind_eq_some_iff.mp htokens
    obtain ⟨rest, hrest, hclimbs⟩ := exists_climbs hlexemes hfound
    rw [List.reverse_nil, List.nil_append] at hrest
    rw [← hrest] at hclimbs
    have hread : (PathText.read (.forTokens tokens) .inType).run { rest := tokens } = none :=
      PathText.read_of_climbs _ _ hclimbs
    unfold ofText?
    rw [htokens]
    exact congrArg (fun read => Option.bind read _) hread

end TypePath

end ProtoSchema
