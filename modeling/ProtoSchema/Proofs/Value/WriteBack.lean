import ProtoSchema.Proofs.Catalog.History
import ProtoSchema.Proofs.Table.Origin
import ProtoSchema.Proofs.Value.Oneofs
import ProtoSchema.Proofs.Value.Pushes

/-!
# Writing back what is read

What a reader sees of a field is the stored value, the declared default, or the zero of
the content.  All three fit the field.  A stored value does in a well typed message.  A
default was read from text as the content asks, for a scalar from its notation and for an
enum from the name of a value (`FieldDescriptor.Describes.defaultFits`).

A value that fits is taken as it is, so it can be written back.  The field shows it again,
and only the other members of its oneof are unset (`Message.IsSound.writesBack`).  A field
of the type that shows nothing is a message that is not set.
-/

namespace ProtoSchema

/-! ## Defaults -/

namespace Scalar

variable {kind : Scalar} {atom : Atom}

/-- A default is read into the representation of its scalar. -/
theorem accepts_of_readDefault? {text : String} (h : kind.readDefault? text = some atom) :
    kind.accepts atom = true := by
  unfold readDefault? at h
  refine beq_iff_eq.mpr ?_
  cases hrepresentation : kind.representation with
  | text =>
    rw [hrepresentation] at h
    cases h
    rfl
  | bytes =>
    rw [hrepresentation] at h
    cases h
    rfl
  | enum =>
    rw [hrepresentation] at h
    cases h
  | _ =>
    rw [hrepresentation] at h
    obtain ⟨read, -, rfl⟩ := Option.map_eq_some_iff.mp h
    rfl

theorem accepts_zero (kind : Scalar) : kind.accepts kind.zero = true := by
  cases kind <;> rfl

end Scalar

theorem Content.accepts_of_readDefault? {content : Content} {text : String} {atom : Atom}
    (h : content.readDefault? text = some atom) : content.accepts (.atom atom) = true := by
  cases content with
  | scalar kind => exact kind.accepts_of_readDefault? h
  | message name => cases h
  | enum table =>
    obtain ⟨number, -, rfl⟩ := Option.map_eq_some_iff.mp h
    rfl

/-- Whether the declared default of a field is one that the field accepts. -/
def FieldTable.DefaultFits (field : FieldTable) : Prop :=
  ∀ value, field.default = some value → field.content.accepts (.atom value) = true

/-- The table of a field has a default that the field accepts. -/
theorem FieldDescriptor.Describes.defaultFits {scope : Scope} {field : FieldDescriptor}
    {table : FieldTable} (h : field.Describes scope table) : table.DefaultFits := by
  intro value hvalue
  rw [h.default] at hvalue
  obtain ⟨text, -, hread⟩ := Option.bind_eq_some_iff.mp hvalue
  exact Content.accepts_of_readDefault? hread

namespace FieldTable

variable {field : FieldTable} {value : Value}

/-- What fits a field is taken as it is. -/
theorem coerce_of_fits (h : field.fits value = true) : field.content.coerce value = value := by
  cases hrepeated : field.isRepeated with
  | true =>
    obtain ⟨items, rfl, haccepts⟩ := (fits_of_isRepeated hrepeated).mp h
    rw [Content.coerce_list, Content.map_coerceItem_of_accepts haccepts]
  | false =>
    rw [fits_of_not_isRepeated hrepeated] at h
    have hitem := Content.coerceItem_of_accepts h
    rw [Content.coerce_of_accepts_coerceItem (by rw [hitem]; exact h), hitem]

namespace DefaultFits

/-- What a reader sees of a field that is not set fits it. -/
theorem fits_of_absentValue? (h : field.DefaultFits) (hvalue : field.absentValue? = some value) :
    field.fits value = true := by
  unfold absentValue? at hvalue
  cases hrepeated : field.isRepeated with
  | true =>
    rw [if_pos hrepeated] at hvalue
    cases hvalue
    exact (fits_of_isRepeated hrepeated).mpr ⟨[], rfl, fun item hitem => nomatch hitem⟩
  | false =>
    rw [if_neg (by rw [hrepeated]; exact Bool.false_ne_true)] at hvalue
    rw [fits_of_not_isRepeated hrepeated]
    split at hvalue
    · next declared hdeclared =>
      cases hvalue
      exact h _ hdeclared
    · next kind _ hcontent =>
      cases hvalue
      rw [hcontent]
      exact kind.accepts_zero
    · next table _ hcontent =>
      cases hvalue
      rw [hcontent]
      rfl
    · cases hvalue

/-- A reader sees nothing of a single message that is not set, and of no other field. -/
theorem absentValue?_eq_none_iff (h : field.DefaultFits) :
    field.absentValue? = none ↔
      field.isRepeated = false ∧ ∃ target, field.content = .message target := by
  unfold absentValue?
  cases hrepeated : field.isRepeated with
  | true => exact iff_of_false (fun hnone => nomatch hnone) (fun hsingle => nomatch hsingle.1)
  | false =>
    rw [if_neg Bool.false_ne_true]
    split
    · next declared hdeclared =>
      -- A message accepts no default.
      refine iff_of_false (fun hnone => nomatch hnone) ?_
      rintro ⟨-, target, hcontent⟩
      have haccepts := h _ hdeclared
      rw [hcontent] at haccepts
      cases haccepts
    · next hcontent =>
      refine iff_of_false (fun hnone => nomatch hnone) ?_
      rintro ⟨-, target, hmessage⟩
      cases hcontent.symm.trans hmessage
    · next hcontent =>
      refine iff_of_false (fun hnone => nomatch hnone) ?_
      rintro ⟨-, target, hmessage⟩
      cases hcontent.symm.trans hmessage
    · next target _ hcontent => exact iff_of_true rfl ⟨rfl, target, hcontent⟩

end DefaultFits

end FieldTable

/-! ## Writing back -/

namespace Message

variable {message : Message}

theorem getOrDefault_eq_error_iff {name : String} {field : FieldTable}
    (hfield : message.type.field? name = some field) :
    (∃ failure, message.getOrDefault name = .error failure) ↔
      message.stored? field.number = none ∧ field.absentValue? = none := by
  rw [getOrDefault_eq hfield, ← Option.or_eq_none_iff]
  cases (message.stored? field.number).or field.absentValue? with
  | none => exact iff_of_true ⟨_, rfl⟩ rfl
  | some value => exact iff_of_false (fun h => nomatch h) (fun h => nomatch h)

/-- What a message has when whatever is read from it can be written back. -/
structure WritesBack (message : Message) : Prop where
  /-- A field that is set to what it shows goes on to show it.  No field changes apart from
  it and the members of its oneof. -/
  set : ∀ {name : String} {field : FieldTable} {value : Value},
    message.type.field? name = some field → message.getOrDefault name = .ok value →
      ∃ changed, message.set name value = .ok changed ∧ changed.type = message.type ∧
        changed.getOrDefault name = .ok value ∧
        ∀ other ∈ message.type.fields, other ≠ field → ¬ field.SharesOneof other →
          changed.stored? other.number = message.stored? other.number
  /-- A field that shows nothing is a single message that is not set. -/
  absent : ∀ {name : String} {field : FieldTable}, message.type.field? name = some field →
    ((∃ failure, message.getOrDefault name = .error failure) ↔
      message.stored? field.number = none ∧ field.isRepeated = false ∧
        ∃ target, field.content = .message target)

/-- What is read from a well typed message fits the field that it is read from. -/
theorem IsSound.fits_of_getOrDefault (h : message.IsSound) {name : String} {field : FieldTable}
    {value : Value} (hfield : message.type.field? name = some field) (hdefault : field.DefaultFits)
    (hvalue : message.getOrDefault name = .ok value) : field.fits value = true := by
  rcases Option.or_eq_some_iff.mp ((getOrDefault_eq_ok hfield).mp hvalue) with
    hstored | ⟨-, habsent⟩
  · exact h.fits_of_stored (MessageTable.mem_of_field? hfield).1 hstored
  · exact hdefault.fits_of_absentValue? habsent

/-- In a well typed message what is read from a field can be written back to it, when the
defaults of its type fit their fields. -/
theorem IsSound.writesBack (h : message.IsSound) (hordered : message.IsOrdered)
    (hdefaults : ∀ field ∈ message.type.fields, field.DefaultFits) : message.WritesBack := by
  constructor
  · intro name field value hfield hvalue
    -- The value fits, so it is stored as it is.
    have hmem := (MessageTable.mem_of_field? hfield).1
    have hfits := h.fits_of_getOrDefault hfield (hdefaults field hmem) hvalue
    have hset : message.set name value = .ok (message.assign field value) := by
      rw [set_eq hfield, FieldTable.coerce_of_fits hfits, FieldTable.check_eq_ok.mpr hfits]
      rfl
    refine ⟨_, hset, message.type_assign field value, ?_, fun other hother hne hshares => ?_⟩
    · rw [getOrDefault_eq_ok (by rw [type_assign]; exact hfield),
        hordered.stored?_assign h.numbers hmem hmem, if_pos rfl, Option.some_or]
    · rw [hordered.stored?_assign h.numbers hmem hother, if_neg hne, if_neg hshares]
  · intro name field hfield
    rw [getOrDefault_eq_error_iff hfield,
      (hdefaults field (MessageTable.mem_of_field? hfield).1).absentValue?_eq_none_iff]

end Message

/-! ## Messages of loaded types -/

namespace Scope

/-- The defaults of the tables of a set are ones that their fields accept. -/
theorem defaultFits_of_tables {scope : Scope} {files : List FileTable}
    (h : scope.tables = .ok files) {table : MessageTable}
    (htable : table ∈ files.flatMap FileTable.messages) {field : FieldTable}
    (hfield : field ∈ table.fields) : field.DefaultFits := by
  obtain ⟨_, -, _, -, -, hfields⟩ := exists_named_of_tables h htable
  obtain ⟨_, -, hdescribes⟩ := Checked.exists_of_forall₂_right hfields hfield
  exact hdescribes.defaultFits

end Scope

namespace Catalog

/-- The declared defaults of a loaded type are ones that their fields accept.  When its
fields have different numbers, what is read from a field of a message of the type, after any
calls, can be written back. -/
theorem writesBack_run {sets : List FileSet} {name : String} {type : MessageTable}
    (htype : (({} : Catalog).afterLoads sets).message? name = some type) :
    (∀ field ∈ type.fields, field.DefaultFits) ∧
      (type.NumbersFieldsOnce → ∀ calls, ((Message.empty type).run calls).WritesBack) := by
  obtain ⟨load, -, hlast⟩ := message?_afterLoads.mp htype
  have hdefaults : ∀ field ∈ type.fields, field.DefaultFits := fun field hfield =>
    Scope.defaultFits_of_tables load.built hlast.mem hfield
  refine ⟨hdefaults, fun hnumbers calls => ?_⟩
  refine ((Message.isSound_empty hnumbers).run calls).writesBack
    ((Message.IsOrdered.empty type).run calls) ?_
  rw [Message.type_run]
  exact hdefaults

/-- A member of a oneof that shows its default is set to it, in the place of another one. -/
theorem writesBack_run_defaults :
    let set : FileSet := ⟨[
      { name := some "m.proto"
        messages := [
          { name := some "M"
            fields := [
              { name := some "label", number := some 1, label := some 1, type := some 9
                oneofIndex := some 0, defaultText := some "none" },
              { name := some "color", number := some 2, label := some 1, type := some 14
                typeName := some ".E", oneofIndex := some 0, defaultText := some "B" },
              { name := some "colors", number := some 3, label := some 3, type := some 14
                typeName := some ".E" },
              { name := some "inner", number := some 4, label := some 1, type := some 11
                typeName := some ".M" }]
            oneofs := [{ name := some "o" }] }]
        enums := [
          { name := some "E"
            values := [⟨some "A", some 1⟩, ⟨some "B", some 3⟩] }] }]⟩
    let calls : List Call := [.set "color" (.atom (.int32 1)), .push "colors" (.atom (.int32 3))]
    ∃ type, (({} : Catalog).afterLoads [set]).message? "M" = some type ∧ type.NumbersFieldsOnce ∧
      (∀ field ∈ type.fields, field.DefaultFits) ∧
      (type.fields.map fun field => (field.name, field.default)) =
        [("label", some (.text "none")), ("color", some (.enum 3)), ("colors", none),
          ("inner", none)] ∧
      ((Message.empty type).run calls).WritesBack ∧
      (((Message.empty type).run calls).getOrDefault "label").isOk = true ∧
      (((Message.empty type).run calls).getOrDefault "inner").isOk = false := by
  intro set calls
  have hstored : ∃ type ∈ (({} : Catalog).afterLoads [set]).message? "M",
      type.NumbersFieldsOnce ∧
      (type.fields.map fun field => (field.name, field.default)) =
        [("label", some (.text "none")), ("color", some (.enum 3)), ("colors", none),
          ("inner", none)] ∧
      (((Message.empty type).run calls).getOrDefault "label").isOk = true ∧
      (((Message.empty type).run calls).getOrDefault "inner").isOk = false := by decide +kernel
  obtain ⟨type, htype, hnumbers, hfields, hlabel, hinner⟩ := hstored
  obtain ⟨hdefaults, hwrites⟩ := writesBack_run htype
  exact ⟨type, htype, hnumbers, hdefaults, hfields, hwrites hnumbers calls, hlabel, hinner⟩

end Catalog

end ProtoSchema
