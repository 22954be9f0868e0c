import ProtoSchema.Proofs.Source.Enumerations
import ProtoSchema.Proofs.Source.LegalNames

/-!
# Members that are named alike

The values of an enum and the members of a oneof are rendered under names in Pascal case.
Underscores are left out of these, and an upper-case letter says only that a word begins
with it.  What is kept of a name is its *reading*: its letters and digits in lower case, and
which of the letters begin a word (`Words.reading`).  A name of underscores reads like
`value`, which is put in its place.

Nothing else is lost.  The Pascal case of a name is made of its reading, character by
character, and the reading can be made of it again (`Naming.pascalName_eq`,
`Naming.reading_eq`).  What is done to keep a name from being no identifier, or a reserved
word, does not bring two names together.  So two names become one identifier exactly when
they read alike (`Naming.variantName_eq_iff`).

The members of an enum or of a oneof are therefore apart exactly when no two of their names
read alike (`Naming.nodup_members_iff`), and names that differ do not have to
(`Naming.exists_members_alike`).
-/

namespace ProtoSchema

open Checked SchemaName

/-! ## Readings -/

namespace Words

/-- The letters and digits of a name in lower case, each with whether it is a letter that
begins a word.  A word begins at the start, which is where `begins` is set, and behind
underscores. -/
def reading : (begins : Bool) → List Char → List (Char × Bool)
  | _, [] => []
  | begins, c :: rest =>
    if c = '_' then reading true rest
    else (c.toLower, begins && c.isAlpha) :: reading false rest

/-- The character of Pascal case that a part of a reading becomes. -/
def write (sound : Char × Bool) : Char := if sound.2 then sound.1.toUpper else sound.1

/-- The part of a reading that a character of Pascal case is. -/
def read (c : Char) : Char × Bool := (c.toLower, c.isUpper)

variable {c : Char} {name : List Char}

theorem write_first (h : isInner c = true) : write (c.toLower, true && c.isAlpha) = c.toUpper :=
  of_isInner (p := fun c => isInner c = true → write (c.toLower, true && c.isAlpha) = c.toUpper)
    (by decide +kernel) h h

theorem read_write (h : isInner c = true) (begins : Bool) :
    read (write (c.toLower, begins && c.isAlpha)) = (c.toLower, begins && c.isAlpha) :=
  of_isInner (p := fun c => isInner c = true → ∀ begins,
      read (write (c.toLower, begins && c.isAlpha)) = (c.toLower, begins && c.isAlpha))
    (by decide +kernel) h h begins

/-- A reading is made of what is written for it. -/
theorem map_read_write (h : ∀ c ∈ name, isInner c = true) (begins : Bool) :
    ((reading begins name).map write).map read = reading begins name := by
  induction name generalizing begins with
  | nil => rfl
  | cons c rest ih =>
    have hrest := ih fun d hd => h d (.tail c hd)
    rw [reading]
    split
    · exact hrest true
    · rw [List.map_cons, List.map_cons, hrest, read_write (h c (.head rest))]

theorem upper_eq (h : isInner c = true) : CaseMap.upper c = [c.toUpper] :=
  if_pos (toNat_lt_of_isInner h)

theorem lower_eq (h : isInner c = true) : CaseMap.lower c = [c.toLower] :=
  if_pos (toNat_lt_of_isInner h)

/-- Words are written as they read.  The first of them may have begun before. -/
theorem flatMap_capitalize_split (h : ∀ c ∈ name, isInner c = true) :
    (Text.split '_' name).flatMap capitalize = (reading true name).map write ∧
      ∀ word more, Text.split '_' name = word :: more →
        word.flatMap CaseMap.lower ++ more.flatMap capitalize = (reading false name).map write := by
  induction name with
  | nil =>
    refine ⟨rfl, fun word more hsplit => ?_⟩
    cases hsplit
    rfl
  | cons c rest ih =>
    have hc := h c (.head rest)
    obtain ⟨hbegins, hinside⟩ := ih fun d hd => h d (.tail c hd)
    rw [Text.split]
    by_cases hunderscore : c = '_'
    · simp only [reading, if_pos hunderscore]
      refine ⟨hbegins, fun word more hsplit => ?_⟩
      cases hsplit
      exact hbegins
    · cases hsplit : Text.split '_' rest with
      | nil => exact absurd hsplit (Text.split_ne_nil '_' rest)
      | cons word more =>
        have hafter := hinside word more hsplit
        simp only [reading, if_neg hunderscore, List.map_cons]
        constructor
        · rw [List.flatMap_cons, capitalize, upper_eq hc, List.append_assoc, hafter,
            write_first hc]
          rfl
        · rintro _ _ ⟨⟩
          rw [List.flatMap_cons, lower_eq hc, List.append_assoc, hafter]
          rfl

theorem pascal_eq (h : ∀ c ∈ name, isInner c = true) :
    pascal name = (reading true name).map write :=
  (flatMap_capitalize_split h).1

end Words

/-! ## Names that read alike -/

namespace Naming

/-- How a name reads.  One of underscores reads like what is put in its place. -/
def reading (name : String) : List (Char × Bool) :=
  match Words.reading true name.toList with
  | [] => Words.reading true "Value".toList
  | sounds => sounds

/-- Whether two names read alike. -/
def ReadAlike (first second : String) : Prop := reading first = reading second

instance (first second : String) : Decidable (ReadAlike first second) :=
  inferInstanceAs (Decidable (reading first = reading second))

variable {name first second : String}

/-- Pascal case is made of the reading of a name. -/
theorem pascalName_eq (h : isIdentifier name = true) :
    pascalName name = (reading name).map Words.write := by
  unfold pascalName reading
  rw [Words.pascal_eq fun c => isInner_of_mem h]
  cases Words.reading true name.toList with
  | nil => rfl
  | cons sound sounds => rfl

/-- The reading of a name is made of its Pascal case. -/
theorem reading_eq (h : isIdentifier name = true) :
    reading name = (pascalName name).map Words.read := by
  have hback := Words.map_read_write (fun c => isInner_of_mem h) true
  rw [pascalName_eq h]
  unfold reading
  cases hreading : Words.reading true name.toList with
  | nil => rfl
  | cons sound sounds =>
    rw [hreading] at hback
    exact hback.symm

theorem pascalName_eq_iff (hfirst : isIdentifier first = true)
    (hsecond : isIdentifier second = true) :
    pascalName first = pascalName second ↔ ReadAlike first second := by
  constructor
  · intro h
    rw [ReadAlike, reading_eq hfirst, reading_eq hsecond, h]
  · intro h
    rw [pascalName_eq hfirst, pascalName_eq hsecond, h]

theorem underscore_not_mem_pascalName (h : isIdentifier name = true) : '_' ∉ pascalName name :=
  fun hmem => absurd (isAlphanum_of_mem_pascalName h '_' hmem) (by decide)

/-- No underscore is put behind Pascal case. -/
theorem ofList_ne_append_underscore (h : isIdentifier name = true) {chars : List Char}
    (hchars : chars = pascalName name ∨ chars = '_' :: pascalName name) (word : String) :
    String.ofList chars ≠ word ++ "_" := by
  intro hsuffix
  have hlast : chars.getLast? = some '_' := by
    have hlist := congrArg String.toList hsuffix
    rw [String.toList_ofList, String.toList_append] at hlist
    rw [hlist]
    exact List.getLast?_concat
  rcases hchars with rfl | rfl
  · exact underscore_not_mem_pascalName h (List.mem_of_getLast? hlast)
  · cases hpascal : pascalName name with
    | nil => exact absurd hpascal (pascalName_ne_nil name)
    | cons c rest =>
      rw [hpascal, List.getLast?_cons_cons, ← hpascal] at hlast
      exact underscore_not_mem_pascalName h (List.mem_of_getLast? hlast)

/-- **Two names become one identifier exactly when they read alike.** -/
theorem variantName_eq_iff (hfirst : isIdentifier first = true)
    (hsecond : isIdentifier second = true) :
    variantName first = variantName second ↔ ReadAlike first second := by
  rw [← pascalName_eq_iff hfirst hsecond]
  constructor
  · intro h
    obtain ⟨chars, hchars, hname, heq⟩ := exists_escape_of_variantName hfirst
    obtain ⟨others, hothers, hother, heq'⟩ := exists_escape_of_variantName hsecond
    rw [heq, heq'] at h
    -- Escaping could only bring two names together by an underscore at the end.
    have hsame : chars = others := by
      by_contra hne
      rcases reserved_of_escape_eq (isName_iff.mp hname).1 (isName_iff.mp hother).1 h
        (fun heq => hne (String.ofList_injective heq)) with ⟨-, hsuffix⟩ | ⟨-, hsuffix⟩
      · exact ofList_ne_append_underscore hsecond hothers _ hsuffix
      · exact ofList_ne_append_underscore hfirst hchars _ hsuffix
    have hnone := underscore_not_mem_pascalName hfirst
    have hnone' := underscore_not_mem_pascalName hsecond
    rcases hchars with rfl | rfl
    · rcases hothers with rfl | rfl
      · exact hsame
      · rw [hsame] at hnone
        exact absurd (.head _) hnone
    · rcases hothers with rfl | rfl
      · rw [← hsame] at hnone'
        exact absurd (.head _) hnone'
      · exact List.tail_eq_of_cons_eq hsame
  · intro h
    rw [variantName, variantName, h]

/-- Names become identifiers that are apart exactly when no two of them read alike. -/
theorem nodup_map_variantName_iff {names : List String}
    (h : ∀ name ∈ names, isIdentifier name = true) :
    (names.map variantName).Nodup ↔ names.Pairwise fun a b => ¬ ReadAlike a b := by
  rw [List.Nodup, List.pairwise_map]
  refine List.Pairwise.iff_of_mem fun ha hb => ?_
  rw [Ne, variantName_eq_iff (h _ ha) (h _ hb)]

end Naming

/-! ## Enums -/

namespace EnumItem

/-- The names of the variants, and the second names. -/
def memberNames (item : EnumItem) : List Ident :=
  item.variants.map EnumVariant.name ++ item.aliases.map EnumAlias.name

/-- One further value has one further name. -/
theorem memberNames_add (item : EnumItem) (value : EnumVariant) :
    (item.add value).memberNames.Perm (item.memberNames ++ [value.name]) := by
  unfold add
  split
  · simp [memberNames, variants]
  · have hswap : ([value.name] ++ item.aliases.map EnumAlias.name).Perm
        (item.aliases.map EnumAlias.name ++ [value.name]) := List.perm_append_comm
    simpa [memberNames, variants] using hswap.append_left (item.others.map EnumVariant.name)

theorem memberNames_foldl_add (values : List EnumVariant) (item : EnumItem) :
    (values.foldl add item).memberNames.Perm
      (item.memberNames ++ values.map EnumVariant.name) := by
  induction values generalizing item with
  | nil => simp
  | cons value values ih =>
    have hadd := (item.memberNames_add value).append_right (values.map EnumVariant.name)
    rw [List.append_assoc] at hadd
    exact (ih (item.add value)).trans hadd

/-- Every value has a name of its own, be it of a variant or a second one. -/
theorem memberNames_ofValues (name : Ident) (first : EnumVariant) (rest : List EnumVariant) :
    (ofValues name first rest).memberNames.Perm ((first :: rest).map EnumVariant.name) :=
  memberNames_foldl_add rest { name, first }

end EnumItem

namespace EnumDescriptor

/-- The names of the values. -/
def valueNames (enum : EnumDescriptor) : List String :=
  enum.values.filterMap EnumValueDescriptor.name

variable {file : String} {enum : EnumDescriptor}

theorem map_spelling_of_mapM_variant {enumName : String} {values : List EnumValueDescriptor}
    {made : List EnumVariant} (h : values.mapM (variant file enumName) = .ok made) :
    made.map (fun value => value.name.spelling) =
      (values.filterMap EnumValueDescriptor.name).map Naming.variantName := by
  have hall := mapM_eq_ok.mp h
  clear h
  induction hall with
  | nil => rfl
  | cons hvalue _ ih =>
    obtain ⟨name, number, hname, -, hshows⟩ := exists_entry_of_variant hvalue
    rw [List.filterMap_cons_some hname, List.map_cons, List.map_cons, ih, hshows.1]

/-- The members of an enumeration are named after the values of the enum, one by one. -/
theorem perm_memberNames_of_item {item : EnumItem} (h : enum.item file = .ok item) :
    (item.memberNames.map Ident.spelling).Perm (enum.valueNames.map Naming.variantName) := by
  unfold EnumDescriptor.item at h
  split at h
  · cases h
  · next enumName _ =>
    obtain ⟨ident, -, h⟩ := bind_eq_ok.mp h
    obtain ⟨made, hmade, h⟩ := bind_eq_ok.mp h
    have hspelled := map_spelling_of_mapM_variant hmade
    cases made with
    | nil => cases h
    | cons first rest =>
      cases h
      have hperm := (EnumItem.memberNames_ofValues ident first rest).map Ident.spelling
      rw [List.map_map] at hperm
      rwa [valueNames, ← hspelled]

end EnumDescriptor

/-! ## Oneofs -/

namespace MessageDescriptor

/-- The names of the members of the oneof at a position. -/
def memberNames (message : MessageDescriptor) (position : Nat) : List String :=
  (message.fields.filter fun field => field.realOneof == some position).filterMap
    FieldDescriptor.name

end MessageDescriptor

/-- The names of the variants. -/
def ChoiceItem.memberNames (item : ChoiceItem) : List Ident :=
  item.variants.map ChoiceVariant.name

namespace MessageDescriptor

variable {scope : Scope} {file fullName : String} {depth : Nat} {message : MessageDescriptor}

theorem map_spelling_of_mapM_choiceVariant {members : List FieldDescriptor}
    {made : List ChoiceVariant}
    (h : members.mapM (choiceVariant scope file depth fullName) = .ok made)
    (hnamed : ∀ member ∈ members, member.name.isSome = true) :
    made.map (fun variant => variant.name.spelling) =
      (members.filterMap FieldDescriptor.name).map Naming.variantName := by
  have hall := mapM_eq_ok.mp h
  clear h
  induction hall with
  | nil => rfl
  | @cons member _ members _ hmember _ ih =>
    obtain ⟨name, hname⟩ := Option.isSome_iff_exists.mp (hnamed member (.head members))
    have hident := (rendersVariant_of_choiceVariant hmember).name
    rw [hname, Option.getD_some] at hident
    rw [List.filterMap_cons_some hname, List.map_cons, List.map_cons,
      ih fun other hother => hnamed other (.tail member hother),
      Ident.spelling_of_ofText? hident]

/-- The variants of a choice are named after the members of its oneof, in order. -/
theorem memberNames_of_choice {inside : Ident} {position : Nat}
    {rendered : ChoiceItem × RecordField}
    (h : message.choice scope file depth fullName inside position = .ok rendered)
    (hnamed : ∀ field ∈ message.fields, field.realOneof.isSome = true →
      field.name.isSome = true) :
    rendered.1.memberNames.map Ident.spelling =
      (message.memberNames position).map Naming.variantName := by
  rw [ChoiceItem.memberNames, List.map_map]
  refine map_spelling_of_mapM_choiceVariant (rendersChoice_of_choice h).variants
    fun member hmember => ?_
  obtain ⟨hfield, hposition⟩ := List.mem_filter.mp hmember
  exact hnamed member hfield (by rw [eq_of_beq hposition]; rfl)

end MessageDescriptor

/-! ## Members that are apart -/

namespace Naming

/-- Members are named after names, one by one, and are apart exactly when no two of the
names read alike. -/
structure NamedAfter (names : List String) (members : List Ident) : Prop where
  perm : (members.map Ident.spelling).Perm (names.map variantName)
  nodup_iff : (members.map Ident.spelling).Nodup ↔ names.Pairwise fun a b => ¬ ReadAlike a b

theorem NamedAfter.of_perm {names : List String} {members : List Ident}
    (h : (members.map Ident.spelling).Perm (names.map variantName))
    (hnames : ∀ name ∈ names, isIdentifier name = true) : NamedAfter names members :=
  ⟨h, h.nodup_iff.trans (nodup_map_variantName_iff hnames)⟩

/-- **Members are apart exactly when no two of their names read alike.**  These are the
variants and the second names of an enumeration, and the variants of each choice that is
rendered for a message. -/
theorem nodup_members_iff :
    (∀ (file : String) (enum : EnumDescriptor) (item : EnumItem), enum.item file = .ok item →
      (∀ name ∈ enum.valueNames, isIdentifier name = true) →
      NamedAfter enum.valueNames item.memberNames) ∧
    ∀ (scope : Scope) (file : String) (isProto3 : Bool) (depth : Nat) (outer : String)
      (message : MessageDescriptor) (items : List Item),
      message.items scope file isProto3 depth outer = .ok items →
      (∀ field ∈ message.fields, field.realOneof.isSome = true →
        ∃ name, field.name = some name ∧ isIdentifier name = true) →
      ∃ rendered : RenderedMessage, items = rendered.items outer ∧
        List.Forall₂ (fun position found => NamedAfter (message.memberNames position)
          found.1.memberNames) message.realOneofs rendered.choices := by
  constructor
  · intro file enum item h hnames
    exact .of_perm (EnumDescriptor.perm_memberNames_of_item h) hnames
  · intro scope file isProto3 depth outer message items h hnames
    obtain ⟨rendered, hrenders, rfl⟩ := MessageDescriptor.exists_renders h
    refine ⟨rendered, rfl, (mapM_eq_ok.mp hrenders.choices).imp fun position found hchoice => ?_⟩
    have hspelled := MessageDescriptor.memberNames_of_choice hchoice fun field hfield honeof => by
      obtain ⟨name, hname, -⟩ := hnames field hfield honeof
      exact Option.isSome_of_mem hname
    refine .of_perm (.of_eq hspelled) fun name hname => ?_
    obtain ⟨member, hmember, hnamed⟩ := List.mem_filterMap.mp hname
    obtain ⟨hfield, hposition⟩ := List.mem_filter.mp hmember
    obtain ⟨_, hfound, hidentifier⟩ :=
      hnames member hfield (by rw [eq_of_beq hposition]; rfl)
    rw [hfound] at hnamed
    cases hnamed
    exact hidentifier

/-- Names of values that are apart, although some differ in little, and two members of a
oneof that are not. -/
theorem nodup_members_iff_shape :
    let enum : EnumDescriptor :=
      ⟨some "Shape", [⟨some "SHAPE_ROUND", some 0⟩, ⟨some "SHAPEROUND", some 1⟩,
        ⟨some "_2D", some 1⟩, ⟨some "self", some 3⟩, ⟨some "__", some (-1)⟩]⟩
    let message : MessageDescriptor :=
      { name := some "Shape"
        fields := [
          { name := some "side1", number := some 1, type := some 9, oneofIndex := some 0 },
          { name := some "side_1", number := some 2, type := some 9, oneofIndex := some 0 },
          { name := some "other", number := some 3, type := some 9 }]
        oneofs := [{ name := some "side" }] }
    (∃ item, enum.item "shape.proto" = .ok item ∧
      (item.memberNames.map Ident.spelling).Nodup) ∧
    ∃ rendered : RenderedMessage,
      message.items (Scope.of {} {}) "shape.proto" false 1 "." = .ok (rendered.items ".") ∧
        rendered.choices.length = 1 ∧
        ∀ found ∈ rendered.choices, ¬ (found.1.memberNames.map Ident.spelling).Nodup := by
  intro enum message
  obtain ⟨hvalues, hmembers⟩ := nodup_members_iff
  constructor
  · obtain ⟨item, hitem⟩ := exists_eq_ok_of_isOk
      (by decide +kernel : (enum.item "shape.proto").isOk = true)
    have hnamed := hvalues "shape.proto" enum item hitem (by decide +kernel)
    exact ⟨item, hitem, hnamed.nodup_iff.mpr (by decide +kernel)⟩
  · obtain ⟨items, hitems⟩ := exists_eq_ok_of_isOk
      (by decide +kernel :
        (message.items (Scope.of {} {}) "shape.proto" false 1 ".").isOk = true)
    have hnames : ∀ field ∈ message.fields, field.realOneof.isSome = true →
        ∃ name, field.name = some name ∧ isIdentifier name = true := by
      intro field hfield _
      have hall : ∀ field ∈ message.fields, field.name.any isIdentifier = true := by
        decide +kernel
      exact (Option.any_eq_true ..).mp (hall field hfield)
    obtain ⟨rendered, rfl, hchoices⟩ := hmembers (Scope.of {} {}) "shape.proto" false 1 "."
      message items hitems hnames
    have honly : message.realOneofs = [0] := by decide +kernel
    rw [honly] at hchoices
    obtain ⟨choice, others, hnamed, hnone, heq⟩ := List.forall₂_cons_left_iff.mp hchoices
    rw [List.forall₂_nil_left_iff.mp hnone] at heq
    refine ⟨rendered, hitems, congrArg List.length heq, fun found hfound => ?_⟩
    rw [heq] at hfound
    rw [List.mem_singleton.mp hfound, hnamed.nodup_iff]
    decide +kernel

/-- Names that differ in case only, or in an underscore only. -/
theorem exists_members_alike :
    let enum : EnumDescriptor := ⟨some "E", [⟨some "foo", some 0⟩, ⟨some "FOO", some 1⟩]⟩
    let message : MessageDescriptor :=
      { name := some "M"
        fields := [
          { name := some "a1", number := some 1, type := some 9, oneofIndex := some 0 },
          { name := some "a_1", number := some 2, type := some 9, oneofIndex := some 0 }]
        oneofs := [{ name := some "o" }] }
    (enum.valueNames = ["foo", "FOO"] ∧ ∃ item, enum.item "e.proto" = .ok item ∧
      item.memberNames.map Ident.spelling = ["Foo", "Foo"]) ∧
    message.memberNames 0 = ["a1", "a_1"] ∧ ∃ choice holder,
      message.choice (Scope.of {} {}) "m.proto" 1 ".M" "m" 0 = .ok (choice, holder) ∧
        choice.memberNames.map Ident.spelling = ["A1", "A1"] :=
  ⟨⟨by decide, _, rfl, by decide⟩, by decide, _, _, rfl, by decide⟩

end Naming

end ProtoSchema
