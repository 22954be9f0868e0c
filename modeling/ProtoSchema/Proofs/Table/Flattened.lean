import Mathlib.Data.List.Perm.Basic
import ProtoSchema.Proofs.Resolve.Named
import ProtoSchema.Proofs.Table.Build

/-!
# Types inside types, in a flat list

The tables of a file lie side by side, while its descriptor has messages inside messages
and enums inside them.  A table tells where its type was by the full name, which is the
package, the names of the messages around the type and its own name, joined by dots
(`FullName.joined`).

`MessageDescriptor.insideOut` lists a message behind those inside it, and
`MessageDescriptor.outsideIn` lists it in front of them.  Both have the same messages,
those at any depth (`FileDescriptor.perm_insideOut`).  The message tables of a file are in
the first order and its enum tables in the second one (`MessageDescriptor.flattens`).

Enum tables are not made from the enums that are come across, but looked up by full
names.  So they are those of the enums only when no full name is declared twice.
-/

namespace ProtoSchema

open Checked

/-! ## Full names -/

namespace FullName

/-- A package and further names behind it, joined by dots. -/
def joined (package : String) (names : List String) : String :=
  ".".intercalate (if package = "" then names else package :: names)

theorem joined_concat {package name : String} {names : List String} (h : names ≠ []) :
    joined package (names ++ [name]) = joined package names ++ "." ++ name := by
  unfold joined
  split
  · rw [String.intercalate_append_of_ne_nil h (List.cons_ne_nil _ _), String.intercalate_singleton]
  · rw [← List.cons_append, String.intercalate_append_of_ne_nil (List.cons_ne_nil _ _)
      (List.cons_ne_nil _ _), String.intercalate_singleton]

/-- What stands in front of the names that are declared inside certain messages of a
package. -/
structure Encloses (package : String) (around : List String) (outer : String) : Prop where
  dotted : Dotted outer
  joined_eq : ∀ name, bare outer ++ name = joined package (around ++ [name])

theorem encloses_typePrefix {file : FileDescriptor}
    (h : SchemaName.isPackage file.packageName = true) :
    Encloses file.packageName [] file.typePrefix := by
  refine ⟨FileDescriptor.dotted_typePrefix h, fun name => ?_⟩
  unfold joined
  by_cases hempty : file.packageName = ""
  · rw [if_pos hempty, FileDescriptor.typePrefix_of_empty hempty]
    exact String.empty_append
  · rw [if_neg hempty, FileDescriptor.typePrefix_of_ne hempty,
      bare_dot_append (FileDescriptor.head?_package_ne h hempty)]
    rfl

namespace Encloses

variable {package outer name : String} {around : List String}

/-- The full name of a type is joined from the names around it and its own. -/
theorem bare_inside (h : Encloses package around outer)
    (hname : SchemaName.isIdentifier name = true) :
    bare (inside outer name) = joined package (around ++ [name]) := by
  rw [inside, h.dotted.bare_append (SchemaName.head?_ne_of_isIdentifier hname), h.joined_eq]

theorem asOuter_inside (h : Encloses package around outer)
    (hname : SchemaName.isIdentifier name = true) :
    Encloses package (around ++ [name]) (asOuter (inside outer name)) := by
  have hhead := SchemaName.head?_ne_of_isIdentifier hname
  have hnil := SchemaName.toList_ne_nil_of_isIdentifier hname
  refine ⟨h.dotted.asOuter_inside hhead hnil, fun inner => ?_⟩
  rw [h.dotted.bare_asOuter_inside hhead hnil, h.bare_inside hname,
    joined_concat (List.append_ne_nil_of_right_ne_nil _ (List.cons_ne_nil _ _))]

end Encloses

end FullName

/-! ## Types in their places -/

/-- A message, and the names of the messages around it, the outermost first. -/
structure EnclosedMessage where
  /-- The names around the message. -/
  around : List String
  /-- The message. -/
  message : MessageDescriptor

/-- An enum, and the names of the messages around it, the outermost first. -/
structure EnclosedEnum where
  /-- The names around the enum. -/
  around : List String
  /-- The enum. -/
  enum : EnumDescriptor

mutual

/-- A message and those inside it, each behind those inside itself. -/
def MessageDescriptor.insideOut (around : List String) : MessageDescriptor → List EnclosedMessage
  | message@{ name, nested, .. } =>
    insideOutList (around ++ [name.getD ""]) nested ++ [⟨around, message⟩]
termination_by structural message => message

/-- The messages of a list and those inside them. -/
def MessageDescriptor.insideOutList (around : List String) :
    List MessageDescriptor → List EnclosedMessage
  | [] => []
  | message :: rest => message.insideOut around ++ insideOutList around rest
termination_by structural messages => messages

end

mutual

/-- A message and those inside it, each in front of those inside itself. -/
def MessageDescriptor.outsideIn (around : List String) : MessageDescriptor → List EnclosedMessage
  | message@{ name, nested, .. } =>
    ⟨around, message⟩ :: outsideInList (around ++ [name.getD ""]) nested
termination_by structural message => message

/-- The messages of a list and those inside them. -/
def MessageDescriptor.outsideInList (around : List String) :
    List MessageDescriptor → List EnclosedMessage
  | [] => []
  | message :: rest => message.outsideIn around ++ outsideInList around rest
termination_by structural messages => messages

end

/-- The enums that have names, in one place. -/
def EnumDescriptor.enclosed (around : List String) (enums : List EnumDescriptor) :
    List EnclosedEnum :=
  (enums.filter fun enum => enum.name.isSome).map (EnclosedEnum.mk around)

/-- The enums of a message itself. -/
def EnclosedMessage.enums (found : EnclosedMessage) : List EnclosedEnum :=
  EnumDescriptor.enclosed (found.around ++ [found.message.name.getD ""]) found.message.enums

namespace FileDescriptor

/-- The messages of a file, those inside a message before it. -/
def insideOut (file : FileDescriptor) : List EnclosedMessage :=
  file.messages.flatMap (MessageDescriptor.insideOut [])

/-- The messages of a file, those inside a message after it. -/
def outsideIn (file : FileDescriptor) : List EnclosedMessage :=
  file.messages.flatMap (MessageDescriptor.outsideIn [])

/-- The enums of a file that have names, those beside the messages first and then those of
each message. -/
def enclosedEnums (file : FileDescriptor) : List EnclosedEnum :=
  EnumDescriptor.enclosed [] file.enums ++ file.outsideIn.flatMap EnclosedMessage.enums

end FileDescriptor

namespace MessageDescriptor

theorem insideOut_eq (around : List String) (message : MessageDescriptor) :
    message.insideOut around =
      message.nested.flatMap (insideOut (around ++ [message.name.getD ""])) ++
        [⟨around, message⟩] := by
  have hlist : ∀ around messages, insideOutList around messages =
      messages.flatMap (insideOut around) := by
    intro around messages
    induction messages with
    | nil => rfl
    | cons message messages ih => rw [insideOutList, ih, List.flatMap_cons]
  cases message
  rw [insideOut, hlist]

theorem outsideIn_eq (around : List String) (message : MessageDescriptor) :
    message.outsideIn around =
      ⟨around, message⟩ ::
        message.nested.flatMap (outsideIn (around ++ [message.name.getD ""])) := by
  have hlist : ∀ around messages, outsideInList around messages =
      messages.flatMap (outsideIn around) := by
    intro around messages
    induction messages with
    | nil => rfl
    | cons message messages ih => rw [outsideInList, ih, List.flatMap_cons]
  cases message
  rw [outsideIn, hlist]

theorem map_message_outsideIn (around : List String) (message : MessageDescriptor) :
    (message.outsideIn around).map EnclosedMessage.message = message.preorder := by
  induction message using nesting generalizing around with
  | step message ih =>
    rw [outsideIn_eq, preorder_eq, List.map_cons, List.map_flatMap]
    exact congrArg _ (List.flatMap_congr fun inner hinner => ih inner hinner _)

theorem perm_insideOut (around : List String) (message : MessageDescriptor) :
    (message.insideOut around).Perm (message.outsideIn around) := by
  induction message using nesting generalizing around with
  | step message ih =>
    rw [insideOut_eq, outsideIn_eq]
    refine List.perm_append_singleton _ _ |>.trans (.cons _ ?_)
    exact List.Perm.flatMap_left _ fun inner hinner => ih inner hinner _

end MessageDescriptor

/-- The messages of a file at any depth, in another order. -/
theorem FileDescriptor.perm_insideOut (file : FileDescriptor) :
    (file.insideOut.map EnclosedMessage.message).Perm file.allMessages := by
  have hmessages : file.outsideIn.map EnclosedMessage.message = file.allMessages := by
    rw [outsideIn, allMessages, MessageDescriptor.preorderList_eq_flatMap, List.map_flatMap]
    exact List.flatMap_congr fun message _ => message.map_message_outsideIn []
  rw [← hmessages]
  exact (List.Perm.flatMap_left _ fun message _ => message.perm_insideOut []).map _

/-! ## Types and their tables -/

/-- What the table of a field keeps of the field. -/
structure FieldDescriptor.KeptIn (field : FieldDescriptor) (table : FieldTable) : Prop where
  name : field.name = some table.name
  number : field.number.map Int32.toInt = some (table.number : Int)
  jsonName : field.jsonName = table.jsonName

/-- What the table of a message keeps of the message and its place. -/
structure EnclosedMessage.KeptIn (file : FileDescriptor) (found : EnclosedMessage)
    (table : MessageTable) : Prop where
  name : found.message.name = some table.name
  fullName : table.fullName = FullName.joined file.packageName (found.around ++ [table.name])
  package : file.packageName = table.package
  file : file.name = some table.file
  isMapEntry : found.message.isMapEntry = table.isMapEntry
  fields : List.Forall₂ FieldDescriptor.KeptIn found.message.fields table.fields

/-- Whether a value of an enum has a name and a number. -/
def EnumValueDescriptor.isComplete (value : EnumValueDescriptor) : Bool :=
  value.name.isSome && value.number.isSome

/-- The value of an enum that is kept in an entry. -/
def EnumEntry.descriptor (entry : EnumEntry) : EnumValueDescriptor :=
  ⟨some entry.name, some entry.number⟩

/-- What the table of an enum keeps of the enum and its place. -/
structure EnclosedEnum.KeptIn (file : FileDescriptor) (found : EnclosedEnum)
    (table : EnumTable) : Prop where
  name : found.enum.name = some table.name
  fullName : table.fullName = FullName.joined file.packageName (found.around ++ [table.name])
  package : file.packageName = table.package
  file : file.name = some table.file
  values : found.enum.values.filter EnumValueDescriptor.isComplete =
    table.values.map EnumEntry.descriptor

/-- What the tables of a file keep of the file. -/
structure FileDescriptor.KeptIn (file : FileDescriptor) (found : FileTable) : Prop where
  name : file.name = some found.file
  package : file.packageName = found.package
  dependencies : file.dependencies = found.dependencies
  messages : List.Forall₂ (EnclosedMessage.KeptIn file) file.insideOut found.messages
  enums : List.Forall₂ (EnclosedEnum.KeptIn file) file.enclosedEnums found.enums

/-- Whether packages and types have names of the usual form, and no full name is declared
twice. -/
structure FileSet.WellDeclared (set : FileSet) : Prop where
  packages : ∀ file ∈ set.files, SchemaName.isPackage file.packageName = true
  messages : ∀ file ∈ set.files, ∀ message ∈ file.allMessages, ∀ name ∈ message.name,
    SchemaName.isIdentifier name = true
  enums : ∀ file ∈ set.files, ∀ enum ∈ file.allEnums, ∀ name ∈ enum.name,
    SchemaName.isIdentifier name = true
  once : set.DeclaresOnce

/-! ## Fields and messages -/

theorem FieldDescriptor.keptIn_of_table {scope : Scope} {file : String} {isProto3 : Bool}
    {field : FieldDescriptor} {table : FieldTable}
    (h : field.table scope file isProto3 = .ok table) : field.KeptIn table := by
  have htable := hasTable_of_table h
  obtain ⟨n, hn, hpositive, hnumber⟩ := htable.number
  refine ⟨htable.name, ?_, htable.jsonName.symm⟩
  rw [hn, hnumber, Option.map_some, Int.toNat_of_nonneg]
  exact Int.le_of_lt (Int32.lt_iff_toInt_lt.mp hpositive)

theorem MessageDescriptor.HasTable.keptIn {scope : Scope} {file : FileDescriptor}
    {fileName outer name : String} {around : List String} {message : MessageDescriptor}
    {table : MessageTable} (hfile : file.name = some fileName)
    (houter : FullName.Encloses file.packageName around outer) (hname : message.name = some name)
    (hidentifier : SchemaName.isIdentifier name = true)
    (h : message.HasTable scope fileName file.packageName file.isProto3 outer name table) :
    EnclosedMessage.KeptIn file ⟨around, message⟩ table where
  name := by rw [hname, h.name]
  fullName := by rw [h.fullName, h.name, houter.bare_inside hidentifier]
  package := h.package.symm
  file := by rw [hfile, h.file]
  isMapEntry := h.isMapEntry.symm
  fields := by
    refine (mapM_eq_ok.mp h.fields).imp fun field built hbuilt => ?_
    obtain ⟨declared, hdeclared, hbuilt⟩ := bind_eq_ok.mp hbuilt
    cases hbuilt
    have hkept := FieldDescriptor.keptIn_of_table hdeclared
    exact ⟨hkept.name, hkept.number, hkept.jsonName⟩

/-! ## Enums -/

theorem EnumDescriptor.filter_isComplete_eq (enum : EnumDescriptor) :
    enum.values.filter EnumValueDescriptor.isComplete = enum.entries.map EnumEntry.descriptor := by
  unfold entries
  induction enum.values with
  | nil => rfl
  | cons value values ih =>
    obtain ⟨name, number⟩ := value
    cases name with
    | none => exact ih
    | some name =>
      cases number with
      | none => exact ih
      | some number => exact congrArg (List.cons _) ih

/-- The tables of some enums that are declared in one place keep the enums. -/
theorem EnumDescriptor.forall₂_keptIn {set : FileSet} (catalog : Catalog) {file : FileDescriptor}
    {fileName outer : String} {around : List String} {enums : List EnumDescriptor}
    (honce : set.DeclaresOnce) (hfile : file.name = some fileName)
    (houter : FullName.Encloses file.packageName around outer)
    (hidentifiers : ∀ enum ∈ enums, ∀ name ∈ enum.name, SchemaName.isIdentifier name = true)
    (hdeclared : ∀ enum ∈ enums, ∀ d ∈ enum.declarations file.packageName fileName outer,
      d ∈ set.declarations) :
    List.Forall₂ (EnclosedEnum.KeptIn file) (enclosed around enums)
      (enums.flatMap (EnumDescriptor.tables (Scope.of set catalog) outer)) := by
  induction enums with
  | nil => exact .nil
  | cons enum enums ih =>
    have hrest := ih (fun other hother => hidentifiers other (.tail _ hother))
      (fun other hother => hdeclared other (.tail _ hother))
    unfold enclosed at hrest ⊢
    rw [List.flatMap_cons]
    cases hname : enum.name with
    | none =>
      -- It has no table, and is left out of the list.
      rw [List.filter_cons_of_neg (by rw [hname]; decide), tables, hname]
      exact hrest
    | some name =>
      have hidentifier := hidentifiers enum (.head _) name hname
      have hmem := hdeclared enum (.head _)
      rw [declarations, hname] at hmem
      have hfound := honce.find?_enumTables (hmem _ (.head _)) rfl
      have htables : enum.tables (Scope.of set catalog) outer =
          [⟨FullName.bare (FullName.inside outer name), name, file.packageName, fileName,
            enum.entries⟩] := by
        rw [tables, hname]
        exact congrArg Option.toList hfound
      rw [List.filter_cons_of_pos (by rw [hname]; rfl), htables]
      exact .cons ⟨hname, houter.bare_inside hidentifier, rfl, hfile, enum.filter_isComplete_eq⟩
        hrest

/-! ## Messages with everything inside -/

namespace MessageDescriptor

/-- The tables of a message keep everything inside it, the messages in one order and the
enums in the other one. -/
theorem flattens {set : FileSet} {catalog : Catalog} {file : FileDescriptor}
    {fileName outer : String} {around : List String} {message : MessageDescriptor}
    {found : List MessageTable × List EnumTable} (honce : set.DeclaresOnce)
    (hfile : file.name = some fileName) (houter : FullName.Encloses file.packageName around outer)
    (hmessages : ∀ inner ∈ message.preorder, ∀ name ∈ inner.name,
      SchemaName.isIdentifier name = true)
    (henums : ∀ inner ∈ message.preorder, ∀ enum ∈ inner.enums, ∀ name ∈ enum.name,
      SchemaName.isIdentifier name = true)
    (hdeclared : ∀ d ∈ message.declarations file.packageName fileName outer,
      d ∈ set.declarations)
    (h : message.tables (Scope.of set catalog) fileName file.packageName file.isProto3 outer =
      .ok found) :
    List.Forall₂ (EnclosedMessage.KeptIn file) (message.insideOut around) found.1 ∧
      List.Forall₂ (EnclosedEnum.KeptIn file)
        ((message.outsideIn around).flatMap EnclosedMessage.enums) found.2 := by
  induction message using nesting generalizing around outer found with
  | step message ih =>
    obtain ⟨name, own, parts, hname, hown, hparts, rfl⟩ := tables_eq_ok h
    have hidentifier := hmessages message message.mem_preorder_self name hname
    have hinner := houter.asOuter_inside hidentifier
    rw [declarations_of_name_eq_some hname] at hdeclared
    -- By induction what is inside is kept, with one more name around it.
    have hinside : List.Forall₂ (fun inner part =>
        List.Forall₂ (EnclosedMessage.KeptIn file) (inner.insideOut (around ++ [name])) part.1 ∧
          List.Forall₂ (EnclosedEnum.KeptIn file)
            ((inner.outsideIn (around ++ [name])).flatMap EnclosedMessage.enums) part.2)
        message.nested parts := by
      refine (forall₂_mem_and (mapM_eq_ok.mp hparts)).imp fun inner part hpart => ?_
      obtain ⟨hnested, hpart⟩ := hpart
      refine ih inner hnested hinner ?_ ?_ ?_ hpart
      · exact fun other hother => hmessages other (mem_preorder_of_nested hnested hother)
      · exact fun other hother => henums other (mem_preorder_of_nested hnested hother)
      · intro d hd
        exact hdeclared d (.tail _ (List.mem_append_left _
          (List.mem_flatMap.mpr ⟨inner, hnested, hd⟩)))
    have hownEnums := EnumDescriptor.forall₂_keptIn catalog honce hfile hinner
      (henums message message.mem_preorder_self) fun enum henum d hd =>
        hdeclared d (.tail _ (List.mem_append_right _ (List.mem_flatMap.mpr ⟨enum, henum, hd⟩)))
    rw [insideOut_eq, outsideIn_eq, hname, List.flatMap_cons, List.flatMap_assoc]
    constructor
    · refine List.rel_append (List.rel_flatMap hinside fun _ _ hpart => hpart.1) ?_
      exact .cons (hown.keptIn hfile houter hname hidentifier) .nil
    · refine List.rel_append ?_ (List.rel_flatMap hinside fun _ _ hpart => hpart.2)
      rw [EnclosedMessage.enums, hname]
      exact hownEnums

end MessageDescriptor

/-! ## Files and sets -/

/-- The tables of a file keep everything in the file. -/
theorem FileDescriptor.flattens {set : FileSet} {catalog : Catalog} {file : FileDescriptor}
    {found : FileTable} (hset : set.WellDeclared) (hfile : file ∈ set.files)
    (h : file.tables (Scope.of set catalog) = .ok found) : file.KeptIn found := by
  obtain ⟨name, parts, hname, -, hparts, rfl⟩ := tables_eq_ok h
  have houter := FullName.encloses_typePrefix (hset.packages file hfile)
  have hdeclared : ∀ d ∈ file.declarations, d ∈ set.declarations := fun d hd =>
    List.mem_flatMap.mpr ⟨file, hfile, hd⟩
  rw [declarations, hname, Option.getD_some] at hdeclared
  have hmessages : List.Forall₂ (fun message part =>
      List.Forall₂ (EnclosedMessage.KeptIn file) (message.insideOut []) part.1 ∧
        List.Forall₂ (EnclosedEnum.KeptIn file)
          ((message.outsideIn []).flatMap EnclosedMessage.enums) part.2) file.messages parts := by
    refine (forall₂_mem_and (mapM_eq_ok.mp hparts)).imp fun message part hpart => ?_
    obtain ⟨hmessage, hpart⟩ := hpart
    have hinside : ∀ inner ∈ message.preorder, inner ∈ file.allMessages := fun inner hinner =>
      mem_allMessages.mpr ⟨message, hmessage, hinner⟩
    refine message.flattens hset.once hname houter ?_ ?_ ?_ hpart
    · exact fun inner hinner => hset.messages file hfile inner (hinside inner hinner)
    · exact fun inner hinner enum henum => hset.enums file hfile enum
        (List.mem_append_right _ (List.mem_flatMap.mpr ⟨inner, hinside inner hinner, henum⟩))
    · exact fun d hd => hdeclared d
        (List.mem_append_left _ (List.mem_flatMap.mpr ⟨message, hmessage, hd⟩))
  have henums := EnumDescriptor.forall₂_keptIn catalog hset.once hname houter
    (fun enum henum => hset.enums file hfile enum (List.mem_append_left _ henum))
    fun enum henum d hd => hdeclared d
      (List.mem_append_right _ (List.mem_flatMap.mpr ⟨enum, henum, hd⟩))
  exact
    { name := hname
      package := rfl
      dependencies := rfl
      messages := List.rel_flatMap hmessages fun _ _ hpart => hpart.1
      enums := by
        rw [enclosedEnums, outsideIn, List.flatMap_assoc]
        exact List.rel_append henums (List.rel_flatMap hmessages fun _ _ hpart => hpart.2) }

namespace Scope

/-- When the types of a set have names of the usual form and no full name is declared
twice, the tables of the set are those of its files, one by one.  Those of a file are the
tables of its messages, each behind those inside it, and of its enums. -/
theorem flattens_of_tables {set : FileSet} {catalog : Catalog} {files : List FileTable}
    (hset : set.WellDeclared) (h : (of set catalog).tables = .ok files) :
    List.Forall₂ FileDescriptor.KeptIn set.files files :=
  (forall₂_mem_and (mapM_eq_ok.mp h)).imp fun _ _ hfile =>
    FileDescriptor.flattens hset hfile.1 hfile.2

/-- A message holds one that holds a map entry and an enum, an enum, and further on another
message.  One enum has no name, and one value no number. -/
theorem flattens_of_tables_nested :
    let set : FileSet := ⟨[
      { name := some "m.proto", package := some "a.b"
        messages := [
          { name := some "M"
            fields := [
              { name := some "x", number := some 7, type := some 14, typeName := some ".a.b.M.N.E"
                jsonName := some "X" },
              { name := some "y", number := some 2, type := some 11, typeName := some ".a.b.M.N" }]
            nested := [
              { name := some "N"
                nested := [{ name := some "YEntry", options := some ⟨some true⟩ }]
                enums := [{ name := some "E", values := [⟨some "A", some 4⟩, ⟨some "B", none⟩] }] },
              { name := some "O" }]
            enums := [{ name := some "F" }, {}] },
          { name := some "P" }]
        enums := [{ name := some "E", values := [⟨some "C", some (-1)⟩] }] },
      { name := some "n.proto", dependencies := ["m.proto"], messages := [{ name := some "M" }] }]⟩
    set.WellDeclared ∧
      ∃ files, (of set {}).tables = .ok files ∧
        files.map (fun file => file.messages.map MessageTable.fullName) =
          [["a.b.M.N.YEntry", "a.b.M.N", "a.b.M.O", "a.b.M", "a.b.P"], ["M"]] ∧
        files.map (fun file => file.enums.map fun enum => (enum.fullName, enum.values)) =
          [[("a.b.E", [⟨"C", -1⟩]), ("a.b.M.F", []), ("a.b.M.N.E", [⟨"A", 4⟩])], []] ∧
        List.Forall₂ FileDescriptor.KeptIn set.files files := by
  intro set
  have hset : set.WellDeclared :=
    { packages := by decide +kernel
      messages := by decide +kernel
      enums := by decide +kernel
      once := by unfold FileSet.DeclaresOnce; decide +kernel }
  have hruns : (of set {}).tables.isOk = true := by decide +kernel
  obtain ⟨files, h⟩ := exists_eq_ok_of_isOk hruns
  have hmessages : (of set {}).tables.toOption.map (List.map fun file =>
      file.messages.map MessageTable.fullName) =
        some [["a.b.M.N.YEntry", "a.b.M.N", "a.b.M.O", "a.b.M", "a.b.P"], ["M"]] := by
    decide +kernel
  have henums : (of set {}).tables.toOption.map (List.map fun file =>
      file.enums.map fun enum => (enum.fullName, enum.values)) =
        some [[("a.b.E", [⟨"C", -1⟩]), ("a.b.M.F", []), ("a.b.M.N.E", [⟨"A", 4⟩])], []] := by
    decide +kernel
  rw [h] at hmessages henums
  exact ⟨hset, files, h, Option.some.inj hmessages, Option.some.inj henums,
    flattens_of_tables hset h⟩

end Scope

end ProtoSchema
