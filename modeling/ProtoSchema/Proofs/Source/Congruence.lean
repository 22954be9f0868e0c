import ProtoSchema.Proofs.Source.Messages
import ProtoSchema.Proofs.Table.Congruence

/-!
# What source depends on

Rendering consults a scope in two places: for where a type is declared that a field
refers to, and for whether a field is cyclic.  Names, numbers and oneofs come from the
descriptors alone.  So two scopes that know the same homes for the references of a file
and the same cyclic fields of its messages give the same items, and the same fault if
there is one (`FileDescriptor.items_congr`).

Source is generated from tables and items, so where the tables are the same as well
the source is the same in either style (`FileDescriptor.generate_congr`).
-/

namespace ProtoSchema

open Checked

variable {a b : Scope}

/-! ## Fields -/

/-- Whether two scopes know the same home for what a field refers to. -/
def Scope.SameHome (a b : Scope) (field : FieldDescriptor) : Prop :=
  ∀ name, field.typeName = some name → a.home? name = b.home? name

namespace FieldDescriptor

theorem sourceItemType_congr {field : FieldDescriptor} (h : a.SameHome b field) (file : String)
    (depth : Nat) : field.sourceItemType a file depth = field.sourceItemType b file depth := by
  refine bind_congr_ok fun type _ => ?_
  cases type.scalar? with
  | some scalar => rfl
  | none =>
    by_cases henum : (type == .enum) = true
    · simp only [if_pos henum]
    · simp only [if_neg henum]
      refine bind_congr_ok fun name hname => ?_
      unfold Scope.typePath
      rw [h name (checkedReference_eq_ok.mp hname)]

theorem held_congr {field : FieldDescriptor} {message : String}
    (h : a.isCyclic message (field.name.getD "") = b.isCyclic message (field.name.getD ""))
    (type : SourceType) : field.held a message type = field.held b message type := by
  unfold held
  rw [h]

theorem sourceType_congr {field : FieldDescriptor} {message : String} (h : a.SameHome b field)
    (hcyclic : a.isCyclic message (field.name.getD "") = b.isCyclic message (field.name.getD ""))
    (file : String) (isProto3 : Bool) (depth : Nat) :
    field.sourceType a file isProto3 depth message =
      field.sourceType b file isProto3 depth message := by
  unfold sourceType
  simp only [sourceItemType_congr h, held_congr hcyclic]

end FieldDescriptor

/-! ## Messages -/

/-- Whether two scopes have the same cyclic fields of a message. -/
def Scope.SameCycles (a b : Scope) (message : String) : Prop :=
  ∀ field, a.isCyclic message field = b.isCyclic message field

namespace MessageDescriptor

theorem mapType_congr {entry : MessageDescriptor} (h : ∀ field ∈ entry.fields, a.SameHome b field)
    (file : String) (depth : Nat) : entry.mapType a file depth = entry.mapType b file depth := by
  unfold mapType
  split
  · next key value hkey hvalue =>
    rw [FieldDescriptor.sourceItemType_congr (h key (List.mem_of_find?_eq_some hkey)),
      FieldDescriptor.sourceItemType_congr (h value (List.mem_of_find?_eq_some hvalue))]
  · rfl

variable {message : MessageDescriptor} {fullName : String}

theorem recordFields_congr (hfields : ∀ field ∈ message.fields, a.SameHome b field)
    (hentries : ∀ entry ∈ message.nested, ∀ field ∈ entry.fields, a.SameHome b field)
    (hcycles : a.SameCycles b fullName) (file : String) (isProto3 : Bool) (depth : Nat) :
    message.recordFields a file isProto3 depth fullName =
      message.recordFields b file isProto3 depth fullName := by
  refine mapM_congr_mem fun field hfield => bind_congr_ok fun name _ => ?_
  cases hentry : message.mapEntry? (FullName.asOuter fullName) field with
  | none =>
    simp only [FieldDescriptor.sourceType_congr (hfields field (List.mem_of_mem_filter hfield))
      (hcycles _)]
  | some entry =>
    obtain ⟨target, -, hfound⟩ := Option.bind_eq_some_iff.mp hentry
    have hmem := List.mem_reverse.mp (List.mem_of_find?_eq_some hfound)
    simp only [mapType_congr (hentries entry hmem)]

theorem choices_congr (hfields : ∀ field ∈ message.fields, a.SameHome b field)
    (hcycles : a.SameCycles b fullName) (file : String) (depth : Nat) (inside : Ident) :
    message.choices a file depth fullName inside =
      message.choices b file depth fullName inside := by
  refine mapM_congr_mem fun position _ => bind_congr_ok fun name _ => bind_congr_ok fun _ _ => ?_
  have hvariants : ∀ field ∈ message.fields.filter fun field => field.realOneof == some position,
      choiceVariant a file (depth + 1) fullName field =
        choiceVariant b file (depth + 1) fullName field := by
    intro field hfield
    refine bind_congr_ok fun name _ => ?_
    simp only [FieldDescriptor.sourceItemType_congr (hfields field (List.mem_of_mem_filter hfield)),
      FieldDescriptor.held_congr (hcycles _)]
  simp only [mapM_congr_mem hvariants]

/-- The items of a message depend on the homes of what the message and those inside it
refer to, and on the cyclic fields of those that are rendered. -/
theorem items_congr {outer : String}
    (hhomes : ∀ inner ∈ message.preorder, ∀ field ∈ inner.fields, a.SameHome b field)
    (hcycles : ∀ found ∈ message.withoutEntries outer, a.SameCycles b found.name)
    (file : String) (isProto3 : Bool) (depth : Nat) :
    message.items a file isProto3 depth outer = message.items b file isProto3 depth outer := by
  induction message using nesting generalizing outer depth with
  | step message ih =>
    cases hname : message.name with
    | none => rw [items_of_name_eq_none hname, items_of_name_eq_none hname]
    | some ownName =>
      rw [withoutEntries_of_name_eq_some hname] at hcycles
      have hfields := hhomes message (mem_preorder_self message)
      have hentries : ∀ entry ∈ message.nested, ∀ field ∈ entry.fields, a.SameHome b field :=
        fun entry hentry => hhomes entry (mem_preorder_of_nested hentry (mem_preorder_self entry))
      have hown := hcycles _ (.head _)
      have hinside : (message.nested.filter fun inner => !inner.isMapEntry).mapM
            (items a file isProto3 (depth + 1)
              (FullName.asOuter (FullName.inside outer ownName))) =
          (message.nested.filter fun inner => !inner.isMapEntry).mapM
            (items b file isProto3 (depth + 1)
              (FullName.asOuter (FullName.inside outer ownName))) := by
        refine mapM_congr_mem fun inner hinner => ?_
        have hmem := List.mem_of_mem_filter hinner
        refine ih inner hmem ?_ ?_ (depth + 1)
        · exact fun found hfound => hhomes found (mem_preorder_of_nested hmem hfound)
        · exact fun found hfound =>
            hcycles found (.tail _ (List.mem_flatMap.mpr ⟨inner, hinner, hfound⟩))
      rw [items_of_name_eq_some hname, items_of_name_eq_some hname,
        recordFields_congr hfields hentries hown, itemsInside_eq, itemsInside_eq, hinside]
      simp only [choices_congr hfields hown]

end MessageDescriptor

/-! ## Files -/

namespace FileDescriptor

variable {file : FileDescriptor}

theorem items_congr
    (hhomes : ∀ message ∈ file.allMessages, ∀ field ∈ message.fields, a.SameHome b field)
    (hcycles : ∀ found ∈ file.withoutEntries, a.SameCycles b found.name) (name : String) :
    file.items a name = file.items b name := by
  refine bind_congr_ok fun enums _ => ?_
  have hmessages : file.messages.mapM
        (MessageDescriptor.items a name file.isProto3 1 file.typePrefix) =
      file.messages.mapM (MessageDescriptor.items b name file.isProto3 1 file.typePrefix) := by
    refine mapM_congr_mem fun message hmessage => MessageDescriptor.items_congr ?_ ?_ ..
    · exact fun inner hinner => hhomes inner (mem_allMessages.mpr ⟨message, hmessage, hinner⟩)
    · exact fun found hfound => hcycles found (List.mem_flatMap.mpr ⟨message, hmessage, hfound⟩)
  rw [hmessages]

/-- Source is the same where the tables are the same, the homes of what the file refers
to, and the cyclic fields of its messages. -/
theorem generate_congr (htables : file.tables a = file.tables b)
    (hhomes : ∀ message ∈ file.allMessages, ∀ field ∈ message.fields, a.SameHome b field)
    (hcycles : ∀ found ∈ file.withoutEntries, a.SameCycles b found.name) (style : SourceStyle) :
    file.generate a style = file.generate b style := by
  unfold generate
  rw [htables]
  refine bind_congr_ok fun tables _ => ?_
  rw [items_congr hhomes hcycles]

end FileDescriptor

end ProtoSchema
