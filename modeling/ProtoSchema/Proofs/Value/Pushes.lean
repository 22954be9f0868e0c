import ProtoSchema.Proofs.Value.Typed

/-!
# Appending items one by one

A repeated field is written in two ways: as a whole list, or by appending one item after
the other (`Message.pushAll`).  The two take each item in the same way.  A plain integer
becomes the number of an enum value where the field holds an enum, and an item that the
field does not accept is refused (`Content.coerceItem`, `FieldTable.firstRefused?`).

Appending leaves the items that are there untouched, while setting the list checks them
once more.  In a well typed message they pass.  So appending some items to a field that is
in no oneof is setting it to the list with the items at its end, and when an item is
refused both fail for the same item (`Message.IsSound.pushAll_eq_set`).
-/

namespace ProtoSchema

/-! ## Items -/

/-- A value as an item of a list in a field of this content. -/
def Content.coerceItem : Content → Value → Value
  | .enum _, value => value.asEnumItem
  | _, value => value

namespace Content

variable {content : Content} {value : Value}

/-- A list is taken item by item. -/
theorem coerce_list (content : Content) (items : List Value) :
    content.coerce (.list items) = .list (items.map content.coerceItem) := by
  cases content with
  | scalar kind => exact congrArg Value.list (List.map_id items).symm
  | message name => exact congrArg Value.list (List.map_id items).symm
  | enum table => rfl

/-- An item that is no list is taken alone as it is in a list. -/
theorem coerce_eq_coerceItem (content : Content) (h : ∀ items, value ≠ .list items) :
    content.coerce value = content.coerceItem value := by
  cases content with
  | scalar kind => rfl
  | message name => rfl
  | enum table =>
    cases value with
    | atom atom => rfl
    | message message => rfl
    | list items => exact absurd rfl (h items)

theorem coerceItem_list (content : Content) (items : List Value) :
    content.coerceItem (.list items) = .list items := by
  cases content with
  | scalar kind => rfl
  | message name => rfl
  | enum table => rfl

/-- What is accepted is taken as it is. -/
theorem coerceItem_of_accepts (h : content.accepts value = true) :
    content.coerceItem value = value := by
  cases content with
  | scalar kind => rfl
  | message name => rfl
  | enum table =>
    cases value with
    | atom atom =>
      cases atom with
      | enum number => rfl
      | _ => cases h
    | message message => cases h
    | list items => cases h

theorem map_coerceItem_of_accepts {items : List Value}
    (h : ∀ item ∈ items, content.accepts item = true) : items.map content.coerceItem = items :=
  (List.map_congr_left fun item hitem => coerceItem_of_accepts (h item hitem)).trans
    (List.map_id items)

/-- An item is accepted alone when it is in a list. -/
theorem accepts_coerce (content : Content) (value : Value) :
    content.accepts (content.coerce value) = content.accepts (content.coerceItem value) := by
  cases value with
  | atom atom => rw [content.coerce_eq_coerceItem (by rintro items ⟨⟩)]
  | message message => rw [content.coerce_eq_coerceItem (by rintro items ⟨⟩)]
  | list items => rw [coerce_list, coerceItem_list, accepts_list, accepts_list]

/-- An item that is accepted is the same alone and in a list. -/
theorem coerce_of_accepts_coerceItem (h : content.accepts (content.coerceItem value) = true) :
    content.coerce value = content.coerceItem value := by
  refine content.coerce_eq_coerceItem fun items hlist => ?_
  rw [hlist, coerceItem_list, accepts_list] at h
  cases h

/-- An item is of the same kind alone and in a list. -/
theorem kindName_coerce (content : Content) (value : Value) :
    (content.coerce value).kindName = (content.coerceItem value).kindName := by
  cases value with
  | atom atom => rw [content.coerce_eq_coerceItem (by rintro items ⟨⟩)]
  | message message => rw [content.coerce_eq_coerceItem (by rintro items ⟨⟩)]
  | list items => rw [coerce_list, coerceItem_list]; rfl

end Content

namespace FieldTable

/-- The first of several items that a field refuses. -/
def firstRefused? (field : FieldTable) (items : List Value) : Option Value :=
  items.find? fun item => !field.content.accepts item

variable {field : FieldTable}

theorem firstRefused?_cons (field : FieldTable) (item : Value) (items : List Value) :
    field.firstRefused? (item :: items) =
      if field.content.accepts item then field.firstRefused? items else some item := by
  unfold firstRefused?
  cases haccepts : field.content.accepts item with
  | true => rw [List.find?_cons_of_neg (by rw [haccepts]; decide), if_pos rfl]
  | false => rw [List.find?_cons_of_pos (by rw [haccepts]; decide), if_neg Bool.false_ne_true]

/-- Items that are accepted are passed over. -/
theorem firstRefused?_append {first : List Value} (second : List Value)
    (h : ∀ item ∈ first, field.content.accepts item = true) :
    field.firstRefused? (first ++ second) = field.firstRefused? second := by
  have hfirst : field.firstRefused? first = none := by
    refine List.find?_eq_none.mpr fun item hitem => ?_
    rw [h item hitem]
    decide
  rw [firstRefused?, List.find?_append, ← firstRefused?, hfirst, Option.none_or, firstRefused?]

theorem firstRefused?_eq_none_iff {items : List Value} :
    field.firstRefused? items = none ↔ items.all field.content.accepts = true := by
  rw [firstRefused?, List.find?_eq_none, List.all_eq_true]
  exact forall₂_congr fun item _ => by rw [Bool.not_eq_true', Bool.not_eq_false]

/-- The failure for a value goes by the kind of the value. -/
theorem mismatch_congr {found found' : Value} (h : found.kindName = found'.kindName)
    (expected : String) : field.mismatch expected found = field.mismatch expected found' := by
  rw [mismatch, mismatch, h]

/-- A list is checked item by item. -/
theorem check_list (h : field.isRepeated = true) (items : List Value) :
    field.check (.list items) =
      match field.firstRefused? items with
      | some refused => .error (field.mismatch field.content.describe refused)
      | none => .ok () :=
  if_pos h

end FieldTable

/-! ## Appending -/

namespace Message

/-- Puts items behind those that are stored under a number.  Without any nothing is
stored. -/
def append (message : Message) (number : Nat) : List Value → Message
  | [] => message
  | item :: items => message.store number (.list (message.itemsAt number ++ item :: items))

/-- Appends several items to a repeated field, one after the other. -/
def pushAll (message : Message) (field : String) (values : List Value) : Except Failure Message :=
  values.foldlM (fun current value => current.push field value) message

variable {message : Message}

theorem store_store (number : Nat) (first second : Value) :
    (message.store number first).store number second = message.store number second := by
  rw [store, store, store, Ascending.insert_insert]

theorem itemsAt_store (number : Nat) (items : List Value) :
    (message.store number (.list items)).itemsAt number = items := by
  rw [itemsAt, stored?_store, if_pos rfl]

/-- Items may be appended in two parts. -/
theorem append_append (number : Nat) (first second : List Value) :
    (message.append number first).append number second =
      message.append number (first ++ second) := by
  cases first with
  | nil => rfl
  | cons item first =>
    cases second with
    | nil => rw [List.append_nil]; rfl
    | cons item' second =>
      rw [append, append, itemsAt_store, store_store, List.append_assoc]
      rfl

@[simp]
theorem type_append (number : Nat) (items : List Value) :
    (message.append number items).type = message.type := by
  cases items with
  | nil => rfl
  | cons item items => rfl

section

variable {name : String} {field : FieldTable}

theorem push_eq (hfield : message.type.field? name = some field)
    (hrepeated : field.isRepeated = true) (value : Value) :
    message.push name value =
      if field.content.accepts (field.content.coerceItem value) then
        .ok (message.append field.number [field.content.coerceItem value])
      else .error (field.mismatch field.content.describe (field.content.coerceItem value)) := by
  unfold push
  rw [fieldTable_eq_ok.mpr hfield]
  simp only [hrepeated, field.content.accepts_coerce, Bool.not_true, Bool.false_eq_true, if_false]
  cases haccepts : field.content.accepts (field.content.coerceItem value) with
  | true =>
    rw [Content.coerce_of_accepts_coerceItem haccepts]
    rfl
  | false =>
    rw [FieldTable.mismatch_congr (field.content.kindName_coerce value)]
    rfl

/-- Items are appended until one is refused. -/
theorem pushAll_eq (hfield : message.type.field? name = some field)
    (hrepeated : field.isRepeated = true) (values : List Value) :
    message.pushAll name values =
      match field.firstRefused? (values.map field.content.coerceItem) with
      | some refused => .error (field.mismatch field.content.describe refused)
      | none => .ok (message.append field.number (values.map field.content.coerceItem)) := by
  induction values generalizing message with
  | nil => rfl
  | cons value values ih =>
    rw [pushAll, List.foldlM_cons, push_eq hfield hrepeated, List.map_cons,
      FieldTable.firstRefused?_cons]
    by_cases haccepts : field.content.accepts (field.content.coerceItem value) = true
    · rw [if_pos haccepts, if_pos haccepts]
      have happended : (message.append field.number
          [field.content.coerceItem value]).type.field? name = some field := by
        rw [type_append]
        exact hfield
      refine (ih happended).trans ?_
      rw [append_append]
      rfl
    · rw [if_neg haccepts, if_neg haccepts]
      rfl

theorem set_eq (hfield : message.type.field? name = some field) (value : Value) :
    message.set name value =
      (field.check (field.content.coerce value)).map fun _ =>
        message.assign field (field.content.coerce value) := by
  unfold set
  rw [fieldTable_eq_ok.mpr hfield]
  rfl

/-- A field that is in no oneof has no siblings that make room for it. -/
theorem assign_of_oneof_eq_none (h : field.oneof = none) (value : Value) :
    message.assign field value = message.store field.number value := by
  rw [assign, siblings, h]
  rfl

/-- Appending items is setting the list with the items at its end. -/
theorem IsSound.pushAll_eq_set (h : message.IsSound)
    (hfield : message.type.field? name = some field) (hrepeated : field.isRepeated = true)
    (honeof : field.oneof = none) {values : List Value} (hvalues : values ≠ []) :
    message.pushAll name values =
      message.set name (.list (message.itemsAt field.number ++ values)) := by
  have haccepts := h.accepts_of_mem_itemsAt (MessageTable.mem_of_field? hfield).1 hrepeated
  rw [pushAll_eq hfield hrepeated, set_eq hfield, Content.coerce_list, List.map_append,
    Content.map_coerceItem_of_accepts haccepts, FieldTable.check_list hrepeated,
    FieldTable.firstRefused?_append _ haccepts, assign_of_oneof_eq_none honeof]
  cases field.firstRefused? (values.map field.content.coerceItem) with
  | some refused => rfl
  | none =>
    cases values with
    | nil => exact absurd rfl hvalues
    | cons value values => rfl

/-- Appending items succeeds when each of them is accepted. -/
theorem isOk_pushAll (hfield : message.type.field? name = some field)
    (hrepeated : field.isRepeated = true) (values : List Value) :
    (message.pushAll name values).isOk =
      (values.map field.content.coerceItem).all field.content.accepts := by
  rw [pushAll_eq hfield hrepeated, Bool.eq_iff_iff, ← FieldTable.firstRefused?_eq_none_iff]
  cases field.firstRefused? (values.map field.content.coerceItem) with
  | some refused => exact iff_of_false Bool.false_ne_true (fun h => nomatch h)
  | none => exact iff_of_true rfl rfl

/-- What is read from a repeated field is its list, empty when it is not set. -/
theorem IsSound.getOrDefault_eq_list (h : message.IsSound)
    (hfield : message.type.field? name = some field) (hrepeated : field.isRepeated = true) :
    message.getOrDefault name = .ok (.list (message.itemsAt field.number)) := by
  rw [getOrDefault_eq_ok hfield, itemsAt]
  cases hstored : message.stored? field.number with
  | none => rw [Option.none_or, FieldTable.absentValue?, if_pos hrepeated]
  | some value =>
    obtain ⟨items, rfl, -⟩ := (FieldTable.fits_of_isRepeated hrepeated).mp
      (h.fits_of_stored (MessageTable.mem_of_field? hfield).1 hstored)
    rfl

/-- In a message of a type whose fields have different numbers, appending items to a repeated
field that is in no oneof is setting its list with the items at the end, in what comes of it
and in when and why it fails.  It succeeds when every item is accepted, where a field that
holds an enum takes a plain integer for the number of a value. -/
theorem pushAll_run_eq_set {type : MessageTable} (htype : type.NumbersFieldsOnce)
    (calls : List Call) (hfield : type.field? name = some field)
    (hrepeated : field.isRepeated = true) (honeof : field.oneof = none) :
    ∃ items, ((empty type).run calls).getOrDefault name = .ok (.list items) ∧
      ∀ values, values ≠ [] →
        ((empty type).run calls).pushAll name values =
            ((empty type).run calls).set name (.list (items ++ values)) ∧
          (((empty type).run calls).pushAll name values).isOk =
            (values.map field.content.coerceItem).all field.content.accepts := by
  have hsound : ((empty type).run calls).IsSound := (isSound_empty htype).run calls
  have hfound : ((empty type).run calls).type.field? name = some field := by
    rw [type_run]
    exact hfield
  exact ⟨_, hsound.getOrDefault_eq_list hfound hrepeated, fun values hvalues =>
    ⟨hsound.pushAll_eq_set hfound hrepeated honeof hvalues, isOk_pushAll hfound hrepeated values⟩⟩

/-- Numbers are appended to a list of enum values, and a list is no item. -/
theorem pushAll_run_eq_set_colors :
    let type : MessageTable :=
      { fullName := "demo.Palette", name := "Palette", package := "demo", file := "demo.proto"
        fields := [
          { name := "name", number := 3, content := .scalar .string, presence := .optional
            default := none, oneof := some 0, jsonName := none },
          { name := "colors", number := 2
            content := .enum ⟨"demo.Color", "Color", "demo", "demo.proto", [⟨"RED", 1⟩]⟩
            presence := .repeated, default := none, oneof := none, jsonName := none }]
        oneofs := ["title"], isMapEntry := false }
    let message := (empty type).run [.set "name" (.atom (.text "x")),
      .push "colors" (.atom (.int32 1)), .setEnumByName "colors" "RED"]
    (message.itemsAt 2).map Value.kindName = ["enum"] ∧
      (∃ items, message.getOrDefault "colors" = .ok (.list items) ∧ ∀ values, values ≠ [] →
        message.pushAll "colors" values = message.set "colors" (.list (items ++ values))) ∧
      (message.pushAll "colors" [.atom (.int32 2), .atom (.enum 1)]).isOk = true ∧
      (message.pushAll "colors" [.atom (.int32 2), .list []]).isOk = false := by
  intro type message
  have hnumbers : type.NumbersFieldsOnce := by decide +kernel
  have hfield : type.field? "colors" = some _ := rfl
  obtain ⟨items, hread, hwrites⟩ := pushAll_run_eq_set hnumbers
    [.set "name" (.atom (.text "x")), .push "colors" (.atom (.int32 1)),
      .setEnumByName "colors" "RED"] hfield rfl rfl
  refine ⟨by decide +kernel, ⟨items, hread, ?_⟩, ?_, ?_⟩
  · exact fun values hvalues => (hwrites values hvalues).1
  · exact (hwrites _ (List.cons_ne_nil _ _)).2
  · exact (hwrites _ (List.cons_ne_nil _ _)).2

end

end Message

end ProtoSchema
