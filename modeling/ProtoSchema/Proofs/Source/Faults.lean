import ProtoSchema.Proofs.Source.MapEntries
import ProtoSchema.Proofs.Source.TypeSites

/-!
# How rendering may fail

Rendering takes names, types and enums from the descriptors of a file, and each of
them may be at fault.  `EnumDescriptor.MayFailBy` and `MessageDescriptor.MayFailBy` say
of the parts of a single enum or message by which faults they may fail.  When they hold
of all enums, and of the messages at any depth, rendering the file fails by the same
faults only (`FileDescriptor.yields_items`), and so does generating its source
(`FileDescriptor.yields_generate`).

The two faults of writing are treated like the others.  Where one of them is not
allowed, nothing may come up that leads to it: a name that may not be declared, or a
type that has no layout in lines (`Item.WritesUnless`).

The faults are a parameter.  Which ones are left depends on what is known of the
descriptors.  If none are, rendering succeeds.
-/

namespace ProtoSchema

open Checked

variable {P : Failure → Prop}

/-! ## Writing -/

/-- A name may be declared, unless the fault that follows is allowed. -/
def Ident.DeclaredUnless (P : Failure → Prop) (ident : Ident) : Prop :=
  ¬ P .reservedName → ident.mayBeDeclared = true

/-- A type has a layout in lines, unless the fault that follows is allowed. -/
def SourceType.HasLinesUnless (P : Failure → Prop) (type : SourceType) : Prop :=
  ¬ P .noLayout → type.hasLines = true

/-- So it is for a field of a record. -/
structure RecordField.WritesUnless (P : Failure → Prop) (field : RecordField) : Prop where
  name : field.name.DeclaredUnless P
  type : field.type.HasLinesUnless P

/-- So it is for a variant of a choice. -/
structure ChoiceVariant.WritesUnless (P : Failure → Prop) (variant : ChoiceVariant) : Prop where
  name : variant.name.DeclaredUnless P
  type : variant.type.HasLinesUnless P

/-- A name that may be declared may stand where none is needed, too. -/
theorem Ident.mayBeOpen_of_mayBeDeclared {ident : Ident} (h : ident.mayBeDeclared = true) :
    ident.mayBeOpen = true := by
  rw [mayBeOpen, h, Bool.true_or]

namespace EnumItem

theorem isWritable_iff {item : EnumItem} :
    item.isWritable = true ↔ item.name.mayBeDeclared = true ∧
      (∀ variant ∈ item.variants, variant.name.mayBeDeclared = true) ∧
      ∀ second ∈ item.aliases, second.isWritable = true := by
  rw [isWritable, Bool.and_eq_true, Bool.and_eq_true, List.all_eq_true, List.all_eq_true,
    and_assoc]

/-- One further value can be written when its name may be declared.  A second name stands
for a variant that was there. -/
theorem isWritable_add {item : EnumItem} {value : EnumVariant} (h : item.isWritable = true)
    (hvalue : value.name.mayBeDeclared = true) : (item.add value).isWritable = true := by
  obtain ⟨hname, hvariants, haliases⟩ := isWritable_iff.mp h
  unfold add
  cases hfound : item.variantOf? value.number with
  | some variant =>
    refine isWritable_iff.mpr ⟨hname, hvariants, fun second hsecond => ?_⟩
    rcases List.mem_append.mp hsecond with hsecond | hsecond
    · exact haliases second hsecond
    · rw [List.mem_singleton.mp hsecond]
      exact Bool.and_eq_true_iff.mpr ⟨Ident.mayBeOpen_of_mayBeDeclared hvalue,
        hvariants variant (List.mem_of_find?_eq_some hfound)⟩
  | none =>
    refine isWritable_iff.mpr ⟨hname, fun variant hvariant => ?_, haliases⟩
    have hvariant : variant ∈ item.variants ++ [value] := hvariant
    rcases List.mem_append.mp hvariant with hvariant | hvariant
    · exact hvariants variant hvariant
    · rw [List.mem_singleton.mp hvariant]
      exact hvalue

theorem isWritable_foldl_add {item : EnumItem} {values : List EnumVariant}
    (h : item.isWritable = true)
    (hvalues : ∀ value ∈ values, value.name.mayBeDeclared = true) :
    (values.foldl add item).isWritable = true := by
  induction values generalizing item with
  | nil => exact h
  | cons value values ih =>
    have hadded : (item.add value).isWritable = true :=
      isWritable_add h (hvalues value (.head values))
    exact ih hadded fun other hother => hvalues other (.tail value hother)

/-- So the names of an enumeration may stand there when those of its values may be
declared. -/
theorem isWritable_ofValues {name : Ident} {first : EnumVariant} {rest : List EnumVariant}
    (hname : name.mayBeDeclared = true)
    (h : ∀ value ∈ first :: rest, value.name.mayBeDeclared = true) :
    (ofValues name first rest).isWritable = true := by
  refine isWritable_foldl_add (isWritable_iff.mpr ⟨hname, fun variant hvariant => ?_,
    fun _ hnone => nomatch hnone⟩) fun value hvalue => h value (.tail first hvalue)
  rw [List.mem_singleton.mp hvariant]
  exact h first (.head rest)

end EnumItem

namespace Item

/-- Items can be written, unless the fault that follows is allowed. -/
structure WritesUnless (P : Failure → Prop) (items : List Item) : Prop where
  names : ¬ P .reservedName → areWritable items = true
  lines : ¬ P .noLayout → haveLines items = true

theorem haveLines_append (first second : List Item) :
    haveLines (first ++ second) = (haveLines first && haveLines second) := by
  induction first with
  | nil => rfl
  | cons item items ih => rw [List.cons_append, haveLines, haveLines, ih, Bool.and_assoc]

theorem haveLines_moduleOf (name : Ident) (items : List Item) :
    haveLines (moduleOf name items) = haveLines items := by
  cases items with
  | nil => rfl
  | cons item items => simp [moduleOf, haveLines, hasLines]

namespace WritesUnless

theorem nil : WritesUnless P [] := ⟨fun _ => rfl, fun _ => rfl⟩

theorem append {first second : List Item} (hfirst : WritesUnless P first)
    (hsecond : WritesUnless P second) : WritesUnless P (first ++ second) := by
  constructor
  · intro h
    rw [areWritable_append, hfirst.names h, hsecond.names h]
    rfl
  · intro h
    rw [haveLines_append, hfirst.lines h, hsecond.lines h]
    rfl

theorem cons {item : Item} {items : List Item} (hitem : WritesUnless P [item])
    (hitems : WritesUnless P items) : WritesUnless P (item :: items) :=
  hitem.append hitems

theorem flatten {lists : List (List Item)} (h : ∀ items ∈ lists, WritesUnless P items) :
    WritesUnless P lists.flatten := by
  induction lists with
  | nil => exact nil
  | cons items lists ih =>
    rw [List.flatten_cons]
    exact (h items (.head lists)).append (ih fun other hother => h other (.tail items hother))

theorem map {α : Type} {f : α → Item} {parts : List α} (h : ∀ a ∈ parts, WritesUnless P [f a]) :
    WritesUnless P (parts.map f) := by
  induction parts with
  | nil => exact nil
  | cons a parts ih =>
    rw [List.map_cons]
    exact (h a (.head parts)).cons (ih fun b hb => h b (.tail a hb))

theorem moduleOf {name : Ident} {items : List Item} (hname : name.DeclaredUnless P)
    (h : WritesUnless P items) : WritesUnless P (Item.moduleOf name items) := by
  constructor
  · exact fun hP => areWritable_moduleOf.mpr ⟨fun _ => hname hP, h.names hP⟩
  · rw [haveLines_moduleOf]
    exact h.lines

theorem record {item : RecordItem} (hname : item.name.DeclaredUnless P)
    (hfields : ∀ field ∈ item.fields, field.WritesUnless P) :
    WritesUnless P [.record item] := by
  constructor
  · intro h
    have hall : (item.fields.all fun field => field.name.mayBeOpen) = true :=
      List.all_eq_true.mpr fun field hfield =>
        Ident.mayBeOpen_of_mayBeDeclared ((hfields field hfield).name h)
    rw [areWritable, isWritable, RecordItem.isWritable, hname h, hall]
    rfl
  · intro h
    simpa [haveLines, hasLines] using fun field hfield => (hfields field hfield).type h

theorem choice {item : ChoiceItem} (hname : item.name.DeclaredUnless P)
    (hvariants : ∀ variant ∈ item.variants, variant.WritesUnless P) :
    WritesUnless P [.choice item] := by
  constructor
  · intro h
    have hall : (item.variants.all fun variant => variant.name.mayBeDeclared) = true :=
      List.all_eq_true.mpr fun variant hvariant => (hvariants variant hvariant).name h
    rw [areWritable, isWritable, ChoiceItem.isWritable, hname h, hall]
    rfl
  · intro h
    simpa [haveLines, hasLines] using fun variant hvariant => (hvariants variant hvariant).type h

theorem enumeration {item : EnumItem} (h : ¬ P .reservedName → item.isWritable = true) :
    WritesUnless P [.enumeration item] := by
  constructor
  · intro hP
    rw [areWritable, isWritable, h hP]
    rfl
  · exact fun _ => rfl

end WritesUnless

end Item

/-- Writing has none but the faults that are allowed. -/
theorem SourceStyle.yields_write (style : SourceStyle) {items : List Item}
    (h : Item.WritesUnless P items) : Yields P (fun _ => True) (style.write items) := by
  unfold write
  split
  · next hnames =>
    by_contra hP
    rw [h.names hP] at hnames
    cases hnames
  · cases style with
    | flat => exact trivial
    | formatted =>
      by_cases hlines : Item.haveLines items = true
      · simp only [if_pos hlines]
        exact trivial
      · simp only [if_neg hlines]
        by_contra hP
        exact hlines (h.lines hP)

/-! ## What a message is made of -/

/-- The names that are made from a name fail only as allowed. -/
structure Naming.MayFailBy (P : Failure → Prop) (name : String) : Prop where
  type : Yields P (Ident.DeclaredUnless P) (Ident.check (typeName name))
  field : Yields P (Ident.DeclaredUnless P) (Ident.check (fieldName name))
  variant : Yields P (Ident.DeclaredUnless P) (Ident.check (variantName name))

/-- What an enum is made of fails only as allowed. -/
structure EnumDescriptor.MayFailBy (P : Failure → Prop) (file : String) (enum : EnumDescriptor) :
    Prop where
  unnamed : enum.name = none → P (.descriptor (.unnamedEnum file))
  name : ∀ name ∈ enum.name, Naming.MayFailBy P name
  nonempty : enum.values = [] → P (.descriptor (.emptyEnum (enum.name.getD "") file))
  values : ∀ value ∈ enum.values, ∀ name ∈ value.name, Naming.MayFailBy P name
  complete : ∀ value ∈ enum.values, value.name.isSome = true ∧ value.number.isSome = true ∨
    P (.descriptor (.incompleteValue (enum.name.getD "") file))

/-- The type of an occurrence of a field fails only as allowed, wherever it is written. -/
def FieldDescriptor.TypeMayFailBy (P : Failure → Prop) (scope : Scope) (file : String)
    (field : FieldDescriptor) : Prop :=
  ∀ depth, Yields P (SourceType.HasLinesUnless P) (field.sourceItemType scope file depth)

namespace MessageDescriptor

/-- What a message is made of fails only as allowed. -/
structure MayFailBy (P : Failure → Prop) (scope : Scope) (file : String)
    (message : MessageDescriptor) : Prop where
  unnamed : message.name = none → P (.descriptor (.unnamedMessage file))
  name : ∀ name ∈ message.name, Naming.MayFailBy P name
  fields : ∀ field ∈ message.fields, Naming.MayFailBy P (field.name.getD "") ∧
    field.TypeMayFailBy P scope file
  oneofs : ∀ position ∈ message.realOneofs,
    Naming.MayFailBy P ((message.oneofName? position).getD "")
  mapEntry : message.isMapEntry = true →
    (message.fieldNumbered? 1).isSome = true ∧ (message.fieldNumbered? 2).isSome = true ∨
      P (.descriptor (.incompleteMapEntry (message.name.getD "") file))
  enums : ∀ enum ∈ message.enums, enum.MayFailBy P file

end MessageDescriptor

/-! ## Enums -/

namespace EnumDescriptor.MayFailBy

variable {file name : String} {enum : EnumDescriptor}

theorem yields_variant (h : enum.MayFailBy P file) (hname : enum.name = some name)
    {value : EnumValueDescriptor} (hvalue : value ∈ enum.values) :
    Yields P (fun made => made.name.DeclaredUnless P) (variant file name value) := by
  unfold variant
  split
  · next valueName number hvalueName _ =>
    exact (h.values value hvalue valueName hvalueName).variant.bind fun _ hnamed => hnamed
  · next hmissing =>
    rcases h.complete value hvalue with ⟨hvalueName, hnumber⟩ | hfault
    · obtain ⟨valueName, hvalueName⟩ := Option.isSome_iff_exists.mp hvalueName
      obtain ⟨number, hnumber⟩ := Option.isSome_iff_exists.mp hnumber
      exact absurd hnumber (hmissing valueName number hvalueName)
    · rw [hname] at hfault
      exact hfault

theorem yields_item (h : enum.MayFailBy P file) :
    Yields P (fun item => ¬ P .reservedName → item.isWritable = true) (enum.item file) := by
  unfold item
  cases hname : enum.name with
  | none => exact h.unnamed hname
  | some name =>
    refine (h.name name hname).type.bind fun ident hident => ?_
    cases hvalues : enum.values with
    | nil =>
      have hfault := h.nonempty hvalues
      rw [hname] at hfault
      exact hfault
    | cons first rest =>
      have hvariant : ∀ value ∈ first :: rest,
          Yields P (fun made => made.name.DeclaredUnless P) (variant file name value) :=
        fun value hvalue => h.yields_variant hname (hvalues ▸ hvalue)
      rw [List.mapM_cons]
      refine Yields.bind (Q := fun values => values ≠ [] ∧
        ∀ value ∈ values, value.name.DeclaredUnless P) ?_ fun values hmade => ?_
      · refine (hvariant first (.head rest)).bind fun made hmade => ?_
        exact (Yields.mapM fun value hvalue => hvariant value (.tail first hvalue)).bind
          fun others hothers => ⟨List.cons_ne_nil _ _, List.forall_mem_cons.mpr ⟨hmade, hothers⟩⟩
      · obtain ⟨hne, hnamed⟩ := hmade
        cases values with
        | nil => exact absurd rfl hne
        | cons first rest =>
          exact fun hP => EnumItem.isWritable_ofValues (hident hP)
            fun value hvalue => hnamed value hvalue hP

end EnumDescriptor.MayFailBy

/-! ## Types -/

theorem Scalar.hasLines_sourceType (scalar : Scalar) : scalar.sourceType.hasLines = true := by
  unfold sourceType
  cases scalar.representation with
  | _ => rfl

/-- When the content of a field was found, only the way to a message can be at fault. -/
theorem FieldDescriptor.Holds.typeMayFailBy {scope : Scope} {file : String}
    {field : FieldDescriptor} {content : Content} (h : field.Holds scope content)
    (hpath : ∀ name, field.typeName = some name → scope.kind? name = some .message → ∀ depth,
      Yields P (fun path => ¬ P .noLayout → path.hasLines = true)
        (scope.typePath file depth name)) :
    field.TypeMayFailBy P scope file := by
  intro depth
  unfold sourceItemType
  cases h with
  | @scalar type scalar htype hscalar =>
    rw [checkedType_eq_ok.mpr htype]
    simp only [bind, Except.bind, hscalar]
    exact fun _ => scalar.hasLines_sourceType
  | enum htype =>
    rw [checkedType_eq_ok.mpr htype]
    exact fun _ => rfl
  | message htype hmessage hname hkind =>
    rw [checkedType_eq_ok.mpr htype, checkedReference_eq_ok.mpr hname]
    have hway := hpath _ hname hkind depth
    rcases hmessage with rfl | rfl
    · exact hway.bind fun path hlines => hlines
    · exact hway.bind fun path hlines => hlines

theorem FieldDescriptor.hasLinesUnless_held (scope : Scope) (message : String)
    (field : FieldDescriptor) {type : SourceType} (h : type.HasLinesUnless P) :
    (field.held scope message type).HasLinesUnless P := by
  unfold held
  split
  · exact h
  · exact h

theorem FieldDescriptor.yields_sourceType {scope : Scope} {file : String}
    {field : FieldDescriptor} (h : field.TypeMayFailBy P scope file) (isProto3 : Bool)
    (depth : Nat) (message : String) :
    Yields P (SourceType.HasLinesUnless P)
      (field.sourceType scope file isProto3 depth message) := by
  refine (h depth).bind fun type htype => ?_
  have hheld := field.hasLinesUnless_held scope message htype
  cases field.presence isProto3 with
  | _ => exact hheld

namespace MessageDescriptor

variable {scope : Scope} {file : String}

/-- The field with a number is one of the fields. -/
theorem mem_of_fieldNumbered? {message : MessageDescriptor} {number : Int32}
    {field : FieldDescriptor} (h : message.fieldNumbered? number = some field) :
    field ∈ message.fields :=
  List.mem_of_find?_eq_some h

theorem MayFailBy.yields_mapType {entry : MessageDescriptor} (h : entry.MayFailBy P scope file)
    (hentry : entry.isMapEntry = true) (depth : Nat) :
    Yields P (SourceType.HasLinesUnless P) (entry.mapType scope file depth) := by
  unfold mapType
  split
  · next key value hkey hvalue =>
    refine ((h.fields key (mem_of_fieldNumbered? hkey)).2 depth).bind fun keyType hkeyType => ?_
    refine ((h.fields value (mem_of_fieldNumbered? hvalue)).2 depth).bind
      fun valueType hvalueType => ?_
    intro hP
    rw [SourceType.hasLines, hkeyType hP, hvalueType hP]
    rfl
  · next hmissing =>
    rcases h.mapEntry hentry with ⟨hkey, hvalue⟩ | hP
    · obtain ⟨key, hkey⟩ := Option.isSome_iff_exists.mp hkey
      obtain ⟨value, hvalue⟩ := Option.isSome_iff_exists.mp hvalue
      exact absurd hvalue (hmissing key value hkey)
    · exact hP

/-! ## Messages -/

variable {message : MessageDescriptor}

theorem MayFailBy.yields_recordField (h : message.MayFailBy P scope file)
    (hentries : ∀ entry ∈ message.nested, entry.MayFailBy P scope file) {field : FieldDescriptor}
    (hfield : field ∈ message.fields) (isProto3 : Bool) (depth : Nat) (fullName : String) :
    Yields P (RecordField.WritesUnless P)
      (message.recordField scope file isProto3 depth fullName field) := by
  obtain ⟨hname, htype⟩ := h.fields field hfield
  refine hname.field.bind fun name hnamed => ?_
  cases hentry : message.mapEntry? (FullName.asOuter fullName) field with
  | some entry =>
    obtain ⟨hmem, hmarked, -⟩ := mapEntry?_eq_some hentry
    exact ((hentries entry hmem).yields_mapType hmarked depth).bind
      fun type htype => ⟨hnamed, htype⟩
  | none =>
    exact (field.yields_sourceType htype isProto3 depth fullName).bind
      fun type htype => ⟨hnamed, htype⟩

theorem MayFailBy.yields_choiceVariant (h : message.MayFailBy P scope file)
    {member : FieldDescriptor} (hmember : member ∈ message.fields) (depth : Nat)
    (fullName : String) :
    Yields P (ChoiceVariant.WritesUnless P) (choiceVariant scope file depth fullName member) := by
  obtain ⟨hname, htype⟩ := h.fields member hmember
  refine hname.variant.bind fun name hnamed => (htype depth).bind fun type htype => ?_
  exact ⟨hnamed, member.hasLinesUnless_held _ _ htype⟩

theorem MayFailBy.yields_choice (h : message.MayFailBy P scope file) {position : Nat}
    (hposition : position ∈ message.realOneofs) (depth : Nat) (fullName : String)
    (inside : Ident) :
    Yields P
      (fun found => Item.WritesUnless P [.choice found.1] ∧ found.2.WritesUnless P)
      (message.choice scope file depth fullName inside position) := by
  have hname := h.oneofs position hposition
  refine hname.variant.bind fun name hnamed => hname.field.bind fun holder hheld => ?_
  refine Yields.bind (Yields.mapM fun member hmember =>
    h.yields_choiceVariant (List.mem_of_mem_filter hmember) (depth + 1) fullName) ?_
  intro variants hvariants
  exact ⟨.choice hnamed hvariants, hheld, fun _ => rfl⟩

/-- **Rendering a message fails only as what it and the messages inside it are made of
may fail.** -/
theorem yields_items (h : ∀ found ∈ message.preorder, found.MayFailBy P scope file)
    (isProto3 : Bool) (depth : Nat) (outer : String) :
    Yields P (Item.WritesUnless P) (message.items scope file isProto3 depth outer) := by
  induction message using nesting generalizing depth outer with
  | step message ih =>
    have hown := h message (mem_preorder_self message)
    have hentries : ∀ entry ∈ message.nested, entry.MayFailBy P scope file := fun entry hentry =>
      h entry (mem_preorder_of_nested hentry (mem_preorder_self entry))
    cases hname : message.name with
    | none =>
      rw [items_of_name_eq_none hname]
      exact hown.unnamed hname
    | some ownName =>
      have hnames := hown.name ownName hname
      rw [items_of_name_eq_some hname, itemsInside_eq]
      refine hnames.type.bind fun name hnamed => hnames.field.bind fun inside hmodule => ?_
      refine Yields.bind (Yields.mapM fun field hfield =>
        hown.yields_recordField hentries (List.mem_of_mem_filter hfield) isProto3 depth _) ?_
      intro fields hfields
      refine Yields.bind (Yields.mapM fun position hposition =>
        hown.yields_choice hposition depth _ inside) ?_
      intro choices hchoices
      refine Yields.bind (Yields.mapM fun enum henum => (hown.enums enum henum).yields_item) ?_
      intro enums henums
      have hinside : Yields P (fun parts => ∀ items ∈ parts, Item.WritesUnless P items)
          ((message.nested.filter fun inner => !inner.isMapEntry).mapM
            (items scope file isProto3 (depth + 1)
              (FullName.asOuter (FullName.inside outer ownName)))) := by
        refine Yields.mapM fun inner hinner => ?_
        have hmem := List.mem_of_mem_filter hinner
        exact ih inner hmem (fun found hfound => h found (mem_preorder_of_nested hmem hfound)) _ _
      refine Yields.bind (hinside.bind (R := Item.WritesUnless P) fun parts hparts =>
        Item.WritesUnless.flatten hparts) ?_
      intro messages hmessages
      refine Item.WritesUnless.cons (.record hnamed ?_) (.moduleOf hmodule ?_)
      · intro field hfield
        rcases List.mem_append.mp hfield with hfield | hfield
        · exact hfields field hfield
        · obtain ⟨found, hfound, rfl⟩ := List.mem_map.mp hfield
          exact (hchoices found hfound).2
      · exact ((Item.WritesUnless.map fun found hfound => (hchoices found hfound).1).append
          (.map fun enum henum => .enumeration (henums enum henum))).append hmessages

end MessageDescriptor

/-! ## Files -/

namespace FileDescriptor

variable {scope : Scope} {file : FileDescriptor}

theorem yields_items {name : String}
    (hmessages : ∀ message ∈ file.allMessages, message.MayFailBy P scope name)
    (henums : ∀ enum ∈ file.enums, enum.MayFailBy P name) :
    Yields P (Item.WritesUnless P) (file.items scope name) := by
  refine Yields.bind (Yields.mapM fun enum henum => (henums enum henum).yields_item) ?_
  intro enums henums
  refine Yields.bind (Yields.mapM fun message hmessage =>
    MessageDescriptor.yields_items
      (fun found hfound => hmessages found (mem_allMessages.mpr ⟨message, hmessage, hfound⟩))
      file.isProto3 1 file.typePrefix) ?_
  intro messages hmessages
  exact (Item.WritesUnless.map fun enum henum => .enumeration (henums enum henum)).append
    (.flatten hmessages)

/-- **Generating source fails only as what the file is made of may fail**, once the
tables of the file were built. -/
theorem yields_generate {tables : FileTable} (htables : file.tables scope = .ok tables)
    (hmessages : ∀ message ∈ file.allMessages, message.MayFailBy P scope tables.file)
    (henums : ∀ enum ∈ file.enums, enum.MayFailBy P tables.file)
    (style : SourceStyle) :
    Yields P (fun generated => generated.module = Naming.fileModule file.packageName tables.file)
      (file.generate scope style) := by
  unfold generate
  rw [htables]
  refine (yields_items hmessages henums).bind fun items hitems => ?_
  exact (style.yields_write hitems).bind fun source _ => rfl

end FileDescriptor

end ProtoSchema
