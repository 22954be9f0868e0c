import Mathlib.Data.List.Destutter
import Mathlib.Data.List.Sort
import ProtoSchema.Proofs.Table.Build
import ProtoSchema.Proofs.Table.Fields

/-!
# Oneofs in tables

The table of a message lists the oneofs that some field really belongs to, in the order of
their declaration.  The fields of the table name a oneof by its place in that list
(`FieldDescriptor.IsNumbered.oneof_eq_some_iff`).  That list is what is left of the
positions that the fields name when those that are not declared are dropped, the others are
sorted, and each is kept once (`MessageDescriptor.realOneofs_eq_destutter`).

A field may name a oneof that its message does not declare.  In the table it then belongs
to no oneof, just like a field that names none
(`FieldDescriptor.IsNumbered.oneof_eq_none_iff`).

So the new numbers group the fields as the declared positions do, under the same names, and
no group is empty (`MessageDescriptor.HasTable.regroupsOneofs`).
-/

namespace ProtoSchema

open Checked

/-! ## Runs of equal items -/

section

variable {α : Type} [LinearOrder α]

/-- Of a run of equal items one is left, so every item stays. -/
theorem mem_destutter_ne {a : α} {items : List α} :
    a ∈ items.destutter (· ≠ ·) ↔ a ∈ items := by
  have hrun : ∀ (first : α) (rest : List α),
      a ∈ rest.destutter' (· ≠ ·) first ↔ a ∈ first :: rest := by
    intro first rest
    induction rest generalizing first with
    | nil => rfl
    | cons next rest ih =>
      by_cases hne : first ≠ next
      · rw [List.destutter'_cons_pos _ hne, List.mem_cons, ih, ← List.mem_cons]
      · rw [List.destutter'_cons_neg _ hne, ih, not_not.mp hne]
        simp
  cases items with
  | nil => rfl
  | cons first rest => exact hrun first rest

/-- In a sorted list equal items stand together, so each is left once. -/
theorem sortedLT_destutter_ne {items : List α} (h : items.SortedLE) :
    (items.destutter (· ≠ ·)).SortedLT := by
  have hle := (h.pairwise.sublist (items.destutter_sublist (· ≠ ·))).isChain
  have hne := items.isChain_destutter (· ≠ ·)
  rw [List.isChain_iff_getElem] at hle hne
  have hlt : (items.destutter (· ≠ ·)).IsChain (· < ·) :=
    List.isChain_iff_getElem.mpr fun i hi => lt_of_le_of_ne (hle i hi) (hne i hi)
  exact hlt.pairwise.sortedLT

end

/-! ## The oneofs that count -/

namespace MessageDescriptor

/-- Whether a message declares every oneof that its fields name. -/
def DeclaresOneofs (message : MessageDescriptor) : Prop :=
  ∀ field ∈ message.fields, ∀ position, field.realOneof = some position →
    position < message.oneofs.length

theorem mem_realOneofs {message : MessageDescriptor} {position : Nat} :
    position ∈ message.realOneofs ↔ position < message.oneofs.length ∧
      ∃ field ∈ message.fields, field.realOneof = some position := by
  simp only [realOneofs, List.mem_filter, List.mem_range, List.any_eq_true, beq_iff_eq]

theorem nodup_realOneofs (message : MessageDescriptor) : message.realOneofs.Nodup :=
  List.nodup_range.filter _

/-- The oneofs that count are the declared ones among those that the fields name, sorted
and each once. -/
theorem realOneofs_eq_destutter (message : MessageDescriptor) :
    message.realOneofs =
      (((message.fields.filterMap FieldDescriptor.realOneof).filter
        (· < message.oneofs.length)).mergeSort (· ≤ ·)).destutter (· ≠ ·) := by
  have hsorted : message.realOneofs.SortedLT :=
    ((List.sortedLT_range _).pairwise.sublist List.filter_sublist).sortedLT
  refine hsorted.eq_of_mem_iff (sortedLT_destutter_ne List.sortedLE_mergeSort) fun position => ?_
  rw [mem_realOneofs, mem_destutter_ne, List.mem_mergeSort, List.mem_filter,
    List.mem_filterMap, decide_eq_true_iff, and_comm]

/-- Whether some names are those of the oneofs of a message that count, in order. -/
def NamesOneofs (message : MessageDescriptor) (names : List String) : Prop :=
  List.Forall₂ (fun position name =>
    (message.oneofs[position]?).bind OneofDescriptor.name = some name) message.realOneofs names

theorem namesOneofs_of_oneofNames {fullName : String} {message : MessageDescriptor}
    {names : List String} (h : message.oneofNames fullName = .ok names) :
    message.NamesOneofs names := by
  refine (mapM_eq_ok.mp h).imp fun position name hname => ?_
  split at hname
  · next found hfound =>
    cases hname
    exact hfound
  · cases hname

/-- The name of a oneof by its place among those that count. -/
theorem NamesOneofs.exists_name {message : MessageDescriptor} {names : List String}
    (h : message.NamesOneofs names) {index position : Nat}
    (hindex : message.realOneofs[index]? = some position) :
    ∃ name, names[index]? = some name ∧
      (message.oneofs[position]?).bind OneofDescriptor.name = some name := by
  obtain ⟨hbound, rfl⟩ := List.getElem?_eq_some_iff.mp hindex
  have hbound' : index < names.length := h.length_eq ▸ hbound
  exact ⟨_, List.getElem?_eq_getElem hbound', h.get hbound hbound'⟩

/-- The declared oneofs that a field really belongs to, with their positions. -/
def countedOneofs (message : MessageDescriptor) : List (OneofDescriptor × Nat) :=
  message.oneofs.zipIdx.filter fun declared =>
    message.fields.any fun field => field.realOneof == some declared.2

theorem realOneofs_eq (message : MessageDescriptor) :
    message.realOneofs = message.countedOneofs.map Prod.snd := by
  rw [realOneofs, List.range_eq_range', ← List.zipIdx_map_snd, List.filter_map]
  rfl

theorem NamesOneofs.map_some_eq {message : MessageDescriptor} {names : List String}
    (h : message.NamesOneofs names) :
    names.map some = message.countedOneofs.map fun declared => declared.1.name := by
  rw [NamesOneofs, realOneofs_eq, List.forall₂_map_left_iff] at h
  symm
  rw [← List.forall₂_eq_eq_eq, List.forall₂_map_left_iff, List.forall₂_map_right_iff]
  refine (forall₂_mem_and h).imp fun declared name hboth => ?_
  obtain ⟨hmem, hname⟩ := hboth
  rwa [List.mem_zipIdx_iff_getElem?.mp (List.mem_of_mem_filter hmem)] at hname

end MessageDescriptor

/-- What a field and its table have in common by which either is told from others: the
name, the number, and the oneof, which is numbered anew in the table. -/
structure FieldDescriptor.IsNumbered (message : MessageDescriptor) (field : FieldDescriptor)
    (table : FieldTable) : Prop where
  mem : field ∈ message.fields
  name : field.name = some table.name
  number : ∃ n, field.number = some n ∧ table.number = n.toInt.toNat
  oneof : table.oneof = field.realOneof.bind fun position =>
    message.realOneofs.findIdx? fun other => other == position

/-- The fields of a message are numbered anew in its table. -/
theorem MessageDescriptor.HasTable.isNumbered {scope : Scope} {file package : String}
    {isProto3 : Bool} {outer name : String} {message : MessageDescriptor} {table : MessageTable}
    (h : message.HasTable scope file package isProto3 outer name table) :
    List.Forall₂ (FieldDescriptor.IsNumbered message) message.fields table.fields := by
  refine (forall₂_mem_and (mapM_eq_ok.mp h.fields)).imp fun field built hbuilt => ?_
  obtain ⟨hfield, hbuilt⟩ := hbuilt
  obtain ⟨declared, hdeclared, hbuilt⟩ := bind_eq_ok.mp hbuilt
  have htable := FieldDescriptor.hasTable_of_table hdeclared
  obtain ⟨n, hn, -, hnumber⟩ := htable.number
  cases hbuilt
  refine ⟨hfield, htable.name, ⟨n, hn, hnumber⟩, ?_⟩
  rw [← htable.oneof]

namespace FieldDescriptor.IsNumbered

variable {message : MessageDescriptor} {field : FieldDescriptor} {table : FieldTable}

/-- A member of a oneof names it by its place among the oneofs that count. -/
theorem oneof_eq_some_iff (h : field.IsNumbered message table) {index : Nat} :
    table.oneof = some index ↔
      ∃ position, field.realOneof = some position ∧ message.realOneofs[index]? = some position := by
  rw [h.oneof, Option.bind_eq_some_iff]
  exact exists_congr fun position =>
    and_congr_right fun _ => findIdx?_beq_eq_some_iff message.nodup_realOneofs

/-- A field belongs to no oneof when it names none, or one that is not declared. -/
theorem oneof_eq_none_iff (h : field.IsNumbered message table) :
    table.oneof = none ↔
      ∀ position, field.realOneof = some position → message.oneofs.length ≤ position := by
  rw [h.oneof, Option.bind_eq_none_iff]
  refine forall_congr' fun position => forall_congr' fun hposition => ?_
  rw [List.findIdx?_eq_none_iff]
  constructor
  · intro hnone
    by_contra hlt
    have hmem := MessageDescriptor.mem_realOneofs.mpr
      ⟨Nat.lt_of_not_le hlt, field, h.mem, hposition⟩
    exact absurd (hnone position hmem) (by simp)
  · intro hle other hother
    have hlt := (MessageDescriptor.mem_realOneofs.mp hother).1
    exact beq_false_of_ne (Nat.ne_of_lt (Nat.lt_of_lt_of_le hlt hle))

/-- Members of oneofs belong to one oneof when they name one. -/
theorem oneof_eq_iff (h : field.IsNumbered message table) {field' : FieldDescriptor}
    {table' : FieldTable} (h' : field'.IsNumbered message table')
    (hsome : table.oneof.isSome = true) (hsome' : table'.oneof.isSome = true) :
    table.oneof = table'.oneof ↔ field.realOneof = field'.realOneof := by
  obtain ⟨index, hindex⟩ := Option.isSome_iff_exists.mp hsome
  obtain ⟨index', hindex'⟩ := Option.isSome_iff_exists.mp hsome'
  obtain ⟨position, hposition, hplace⟩ := h.oneof_eq_some_iff.mp hindex
  obtain ⟨position', hposition', hplace'⟩ := h'.oneof_eq_some_iff.mp hindex'
  constructor
  · intro hsame
    rw [hindex, hindex', Option.some.injEq] at hsame
    rw [hsame, hplace'] at hplace
    rw [hposition, hposition', hplace]
  · intro hsame
    rw [hposition] at hsame
    rw [hindex, h'.oneof_eq_some_iff.mpr ⟨position, hsame.symm, hplace⟩]

end FieldDescriptor.IsNumbered

/-! ## The partition of the fields -/

namespace MessageDescriptor

/-- What a table has when it groups the fields of a message by its oneofs as the message
does. -/
structure RegroupsOneofs (message : MessageDescriptor) (table : MessageTable) : Prop where
  /-- The oneofs of the table are the declared ones that a field really belongs to. -/
  oneofs : table.oneofs.map some = message.countedOneofs.map fun declared => declared.1.name
  /-- The fields of the table are those of the message, one by one. -/
  fields : List.Forall₂ (fun field built => field.name = some built.name) message.fields
    table.fields
  /-- A field belongs to a oneof when the one that it names is declared. -/
  isSome_iff : ∀ pair ∈ message.fields.zip table.fields,
    (pair.2.oneof.isSome = true ↔
      ∃ position, pair.1.realOneof = some position ∧ position < message.oneofs.length)
  /-- It belongs to the oneof of the same name. -/
  named : ∀ pair ∈ message.fields.zip table.fields, ∀ index, pair.2.oneof = some index →
    ∃ position declared name, pair.1.realOneof = some position ∧
      message.oneofs[position]? = some declared ∧ declared.name = some name ∧
      table.oneofs[index]? = some name
  /-- Fields belong to one oneof when they name one. -/
  together_iff : ∀ first ∈ message.fields.zip table.fields,
    ∀ second ∈ message.fields.zip table.fields,
      first.2.oneof.isSome = true → second.2.oneof.isSome = true →
        (first.2.oneof = second.2.oneof ↔ first.1.realOneof = second.1.realOneof)
  /-- Every oneof of the table has a member. -/
  exists_member : ∀ index < table.oneofs.length, ∃ field ∈ table.fields, field.oneof = some index

/-- The table of a message groups its fields as the message does. -/
theorem HasTable.regroupsOneofs {scope : Scope} {file package : String} {isProto3 : Bool}
    {outer name : String} {message : MessageDescriptor} {table : MessageTable}
    (h : message.HasTable scope file package isProto3 outer name table) :
    message.RegroupsOneofs table := by
  have hnumbered := h.isNumbered
  have hpair : ∀ pair ∈ message.fields.zip table.fields, pair.1.IsNumbered message pair.2 :=
    fun pair hpair => (List.forall₂_iff_zip.mp hnumbered).2 hpair
  have hnames := namesOneofs_of_oneofNames h.oneofs
  exact
    { oneofs := hnames.map_some_eq
      fields := hnumbered.imp fun field built hbuilt => hbuilt.name
      isSome_iff := by
        intro pair hmem
        rw [← Option.ne_none_iff_isSome, Ne, (hpair pair hmem).oneof_eq_none_iff]
        simp only [not_forall, Nat.not_le, exists_prop]
      named := by
        intro pair hmem index hindex
        obtain ⟨position, hposition, hplace⟩ := (hpair pair hmem).oneof_eq_some_iff.mp hindex
        obtain ⟨name, hname, hbound⟩ := hnames.exists_name hplace
        obtain ⟨declared, hdeclared, hown⟩ := Option.bind_eq_some_iff.mp hbound
        exact ⟨position, declared, name, hposition, hdeclared, hown, hname⟩
      together_iff := fun first hfirst second hsecond hsome hsome' =>
        (hpair first hfirst).oneof_eq_iff (hpair second hsecond) hsome hsome'
      exists_member := by
        intro index hindex
        rw [← hnames.length_eq] at hindex
        have hplace := List.getElem?_eq_getElem hindex
        obtain ⟨-, field, hfield, hposition⟩ :=
          mem_realOneofs.mp (List.mem_of_getElem? hplace)
        obtain ⟨built, hbuilt, hof⟩ := exists_of_forall₂_left hnumbered hfield
        exact ⟨built, hbuilt, hof.oneof_eq_some_iff.mpr ⟨_, hposition, hplace⟩⟩ }

/-- The last table that is built for a message is its own, and it groups the fields of the
message as the message does. -/
theorem regroupsOneofs_of_tables {scope : Scope} {file package : String} {isProto3 : Bool}
    {outer : String} {message : MessageDescriptor} {found : List MessageTable × List EnumTable}
    (h : message.tables scope file package isProto3 outer = .ok found) :
    ∃ inside own, found.1 = inside ++ [own] ∧ message.RegroupsOneofs own := by
  obtain ⟨name, own, parts, -, hown, -, rfl⟩ := tables_eq_ok h
  exact ⟨_, own, rfl, hown.regroupsOneofs⟩

/-- Of five oneofs one has no member, and another one only a member that is marked
`optional`.  Two fields name oneofs that there are not. -/
theorem regroupsOneofs_of_tables_mixed :
    let field : String → Int32 → Option Int32 → FieldDescriptor := fun name number oneof =>
      { name := some name, number := some number, type := some 9, oneofIndex := oneof }
    let message : MessageDescriptor :=
      { name := some "M"
        fields := [field "a" 1 (some 4), { field "b" 2 (some 0) with proto3Optional := some true },
          field "c" 3 (some 2), field "d" 4 (some 7), field "e" 5 (some 4),
          field "f" 6 (some (-1)), field "g" 7 (some 3), field "h" 8 none]
        nested := [
          { name := some "N", fields := [field "a" 1 (some 0)], oneofs := [⟨some "inner"⟩] }]
        oneofs := [⟨some "_b"⟩, ⟨some "empty"⟩, ⟨some "two"⟩, ⟨some "three"⟩, ⟨some "four"⟩] }
    ∃ found own, message.tables (Scope.of ⟨[]⟩ {}) "m.proto" "" true "." = .ok found ∧
      found.1.getLast? = some own ∧ own.oneofs = ["two", "three", "four"] ∧
      own.fields.map FieldTable.oneof =
        [some 2, none, some 0, none, some 2, none, some 1, none] ∧
      message.RegroupsOneofs own := by
  intro field message
  have hbuilt : ((message.tables (Scope.of ⟨[]⟩ {}) "m.proto" "" true ".").toOption.bind
      fun found => found.1.getLast?.map fun own => (own.oneofs, own.fields.map FieldTable.oneof)) =
        some (["two", "three", "four"],
          [some 2, none, some 0, none, some 2, none, some 1, none]) := by
    decide +kernel
  cases hfound : message.tables (Scope.of ⟨[]⟩ {}) "m.proto" "" true "." with
  | error failure =>
    rw [hfound] at hbuilt
    cases hbuilt
  | ok found =>
    obtain ⟨inside, own, hinside, hregroups⟩ := regroupsOneofs_of_tables hfound
    have hlast : found.1.getLast? = some own := by rw [hinside, List.getLast?_concat]
    simp only [hfound, Except.toOption, Option.bind_some, hlast, Option.map_some, Option.some.injEq,
      Prod.mk.injEq] at hbuilt
    exact ⟨found, own, rfl, hlast, hbuilt.1, hbuilt.2, hregroups⟩

end MessageDescriptor

end ProtoSchema
