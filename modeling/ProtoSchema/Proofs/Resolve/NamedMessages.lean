import Mathlib.Data.List.Perm.Basic
import ProtoSchema.Proofs.Resolve.Named

/-!
# Messages and their full names

A set declares messages under full names.  `FileSet.named` lists each message with
its full name, a message before those inside it.  These are the declarations of
messages (`FileSet.messageDeclarations_eq`), so in a set that declares no name
twice a full name is that of one message (`FileSet.DeclaresOnce.message_eq`).

Up to the order, the names that a file declares are those of its enums and then, for
each message, the name of the message and those of the enums inside it
(`FileDescriptor.perm_typeNames`).
-/

namespace ProtoSchema

/-- A message, and the full name that it is declared under. -/
structure NamedMessage where
  /-- The full name. -/
  name : String
  /-- The message. -/
  message : MessageDescriptor

/-- How a message is declared by a file. -/
def NamedMessage.declaration (package file : String) (found : NamedMessage) : Declaration where
  name := found.name
  home := ⟨.message, package, file⟩

namespace Declaration

/-- Whether it is a message that is declared. -/
def isMessage (d : Declaration) : Bool := d.home.kind == .message

theorem isMessage_iff {d : Declaration} : d.isMessage = true ↔ d.home.kind = .message := beq_iff_eq

end Declaration

mutual

/-- A message and those inside it, with their full names. -/
def MessageDescriptor.named (outer : String) : MessageDescriptor → List NamedMessage
  | { name := none, .. } => []
  | message@{ name := some ownName, nested, .. } =>
    ⟨FullName.inside outer ownName, message⟩ ::
      namedInside (FullName.asOuter (FullName.inside outer ownName)) nested
termination_by structural message => message

/-- Several messages and those inside them, with their full names. -/
def MessageDescriptor.namedInside (outer : String) : List MessageDescriptor → List NamedMessage
  | [] => []
  | message :: rest => message.named outer ++ namedInside outer rest
termination_by structural messages => messages

end

/-- The messages of a file with their full names. -/
def FileDescriptor.named (file : FileDescriptor) : List NamedMessage :=
  file.messages.flatMap (MessageDescriptor.named file.typePrefix)

/-- The messages of a set with their full names. -/
def FileSet.named (set : FileSet) : List NamedMessage := set.files.flatMap FileDescriptor.named

namespace MessageDescriptor

theorem namedInside_eq_flatMap (outer : String) (messages : List MessageDescriptor) :
    namedInside outer messages = messages.flatMap (named outer) := by
  induction messages with
  | nil => rfl
  | cons message messages ih => rw [namedInside, ih, List.flatMap_cons]

theorem named_of_name_eq_none {outer : String} {message : MessageDescriptor}
    (h : message.name = none) : message.named outer = [] := by
  cases message
  cases h
  rfl

theorem named_of_name_eq_some {outer ownName : String} {message : MessageDescriptor}
    (h : message.name = some ownName) :
    message.named outer =
      ⟨FullName.inside outer ownName, message⟩ ::
        message.nested.flatMap
          (named (FullName.asOuter (FullName.inside outer ownName))) := by
  cases message
  cases h
  rw [named, namedInside_eq_flatMap]

/-- A message inside of one with a full name has a full name too. -/
theorem mem_named_of_nested {outer ownName : String} {message inner : MessageDescriptor}
    {found : NamedMessage} (hfound : found ∈ message.named outer)
    (hinner : inner ∈ found.message.nested) (hname : inner.name = some ownName) :
    ⟨FullName.inside (FullName.asOuter found.name) ownName, inner⟩ ∈ message.named outer := by
  induction message using nesting generalizing outer with
  | step message ih =>
    cases hown : message.name with
    | none =>
      rw [named_of_name_eq_none hown] at hfound
      cases hfound
    | some name =>
      rw [named_of_name_eq_some hown] at hfound ⊢
      refine .tail _ ?_
      rcases List.mem_cons.mp hfound with rfl | hfound
      · refine List.mem_flatMap.mpr ⟨inner, hinner, ?_⟩
        rw [named_of_name_eq_some hname]
        exact .head _
      · obtain ⟨middle, hmiddle, hfound⟩ := List.mem_flatMap.mp hfound
        exact List.mem_flatMap.mpr ⟨middle, hmiddle, ih middle hmiddle hfound⟩

theorem mem_preorder_of_mem_named {outer : String} {message : MessageDescriptor}
    {found : NamedMessage} (h : found ∈ message.named outer) :
    found.message ∈ message.preorder := by
  induction message using nesting generalizing outer with
  | step message ih =>
    cases hname : message.name with
    | none =>
      rw [named_of_name_eq_none hname] at h
      cases h
    | some ownName =>
      rw [named_of_name_eq_some hname] at h
      rcases List.mem_cons.mp h with rfl | h
      · exact mem_preorder_self message
      · obtain ⟨inner, hinner, h⟩ := List.mem_flatMap.mp h
        exact mem_preorder_of_nested hinner (ih inner hinner h)

/-- The full names of messages are dotted. -/
theorem dotted_of_mem_named {outer : String} {message : MessageDescriptor}
    (houter : FullName.Dotted outer)
    (hidentifiers : ∀ inner ∈ message.preorder, ∀ name ∈ inner.name,
      SchemaName.isIdentifier name = true)
    {found : NamedMessage} (h : found ∈ message.named outer) : FullName.Dotted found.name := by
  induction message using nesting generalizing outer with
  | step message ih =>
    cases hname : message.name with
    | none =>
      rw [named_of_name_eq_none hname] at h
      cases h
    | some ownName =>
      have hidentifier := hidentifiers message (mem_preorder_self message) ownName hname
      have hhead := SchemaName.head?_ne_of_isIdentifier hidentifier
      rw [named_of_name_eq_some hname] at h
      rcases List.mem_cons.mp h with rfl | h
      · exact houter.append hhead
      · obtain ⟨inner, hinner, h⟩ := List.mem_flatMap.mp h
        exact ih inner hinner
          (houter.asOuter_inside hhead (SchemaName.toList_ne_nil_of_isIdentifier hidentifier))
          (fun other hother => hidentifiers other (mem_preorder_of_nested hinner hother)) h

end MessageDescriptor

/-- The full names of the messages of a file are dotted. -/
theorem FileDescriptor.dotted_of_mem_named {file : FileDescriptor}
    (hpackage : SchemaName.isPackage file.packageName = true)
    (hidentifiers : ∀ message ∈ file.allMessages, ∀ name ∈ message.name,
      SchemaName.isIdentifier name = true)
    {found : NamedMessage} (h : found ∈ file.named) : FullName.Dotted found.name := by
  obtain ⟨message, hmessage, h⟩ := List.mem_flatMap.mp h
  exact message.dotted_of_mem_named (dotted_typePrefix hpackage)
    (fun inner hinner => hidentifiers inner (mem_allMessages.mpr ⟨message, hmessage, hinner⟩)) h

theorem FileDescriptor.mem_allMessages_of_mem_named {file : FileDescriptor} {found : NamedMessage}
    (h : found ∈ file.named) : found.message ∈ file.allMessages := by
  obtain ⟨message, hmessage, h⟩ := List.mem_flatMap.mp h
  exact mem_allMessages.mpr ⟨message, hmessage, MessageDescriptor.mem_preorder_of_mem_named h⟩

/-! ## Declarations of messages -/

/-- An enum declares no message. -/
theorem EnumDescriptor.messageDeclarations_eq (package file outer : String)
    (enums : List EnumDescriptor) :
    (enums.flatMap (declarations package file outer)).filter Declaration.isMessage = [] := by
  rw [List.filter_eq_nil_iff]
  intro d hd
  obtain ⟨enum, -, hd⟩ := List.mem_flatMap.mp hd
  unfold declarations at hd
  split at hd
  · cases hd
  · rw [List.mem_singleton.mp hd]
    exact Bool.false_ne_true

/-- What a message declares, enums left out. -/
theorem MessageDescriptor.messageDeclarations_eq (package file outer : String)
    (message : MessageDescriptor) :
    (message.declarations package file outer).filter Declaration.isMessage =
      (message.named outer).map (NamedMessage.declaration package file) := by
  induction message using nesting generalizing outer with
  | step message ih =>
    cases hname : message.name with
    | none =>
      rw [declarations_of_name_eq_none hname, named_of_name_eq_none hname]
      rfl
    | some name =>
      rw [declarations_of_name_eq_some hname, named_of_name_eq_some hname,
        List.filter_cons_of_pos (by rfl), List.map_cons, List.filter_append, List.filter_flatMap,
        EnumDescriptor.messageDeclarations_eq, List.append_nil, List.map_flatMap]
      congr 1
      exact List.flatMap_congr fun inner hinner => ih inner hinner _

/-- What a file declares, enums left out. -/
theorem FileDescriptor.messageDeclarations_eq (file : FileDescriptor) :
    file.declarations.filter Declaration.isMessage =
      file.named.map (NamedMessage.declaration file.packageName (file.name.getD "")) := by
  rw [declarations, List.filter_append, EnumDescriptor.messageDeclarations_eq, List.append_nil,
    List.filter_flatMap, named, List.map_flatMap]
  exact List.flatMap_congr fun message _ => message.messageDeclarations_eq ..

namespace FileSet

/-- What a set declares, enums left out. -/
theorem messageDeclarations_eq (set : FileSet) :
    set.declarations.filter Declaration.isMessage =
      set.files.flatMap fun file =>
        file.named.map (NamedMessage.declaration file.packageName (file.name.getD "")) := by
  rw [declarations, List.filter_flatMap]
  exact List.flatMap_congr fun file _ => file.messageDeclarations_eq

theorem mem_named {set : FileSet} {found : NamedMessage} :
    found ∈ set.named ↔ ∃ file ∈ set.files, found ∈ file.named :=
  List.mem_flatMap

/-- A message with a full name is declared in its file. -/
theorem declaration_mem {set : FileSet} {file : FileDescriptor} (hfile : file ∈ set.files)
    {found : NamedMessage} (hfound : found ∈ file.named) :
    found.declaration file.packageName (file.name.getD "") ∈ set.declarations := by
  refine List.mem_of_mem_filter (p := Declaration.isMessage) ?_
  rw [messageDeclarations_eq]
  exact List.mem_flatMap.mpr ⟨file, hfile, List.mem_map_of_mem hfound⟩

/-- A declared message has its full name in some file. -/
theorem exists_named_of_declaration {set : FileSet} {d : Declaration} (hd : d ∈ set.declarations)
    (hkind : d.home.kind = .message) :
    ∃ file ∈ set.files, ∃ found ∈ file.named,
      d = found.declaration file.packageName (file.name.getD "") := by
  have hmessage := List.mem_filter.mpr ⟨hd, Declaration.isMessage_iff.mpr hkind⟩
  rw [messageDeclarations_eq] at hmessage
  obtain ⟨file, hfile, hmessage⟩ := List.mem_flatMap.mp hmessage
  obtain ⟨found, hfound, heq⟩ := List.mem_map.mp hmessage
  exact ⟨file, hfile, found, hfound, heq.symm⟩

/-- No two messages have one full name. -/
theorem DeclaresOnce.nodup_names {set : FileSet} (h : set.DeclaresOnce) :
    (set.named.map NamedMessage.name).Nodup := by
  have hnames : (set.declarations.filter Declaration.isMessage).map Declaration.name =
      set.named.map NamedMessage.name := by
    rw [messageDeclarations_eq, named, List.map_flatMap, List.map_flatMap]
    refine List.flatMap_congr fun file _ => ?_
    rw [List.map_map]
    rfl
  rw [← hnames]
  exact h.sublist (List.filter_sublist.map Declaration.name)

/-- A full name is that of one message. -/
theorem DeclaresOnce.message_eq {set : FileSet} (h : set.DeclaresOnce) {first second : NamedMessage}
    (hfirst : first ∈ set.named) (hsecond : second ∈ set.named)
    (hname : first.name = second.name) : first.message = second.message := by
  rw [List.inj_on_of_nodup_map h.nodup_names hfirst hsecond hname]

end FileSet

/-! ## Types, message by message -/

/-- The full name of an enum. -/
def EnumDescriptor.fullName? (outer : String) (enum : EnumDescriptor) : Option String :=
  enum.name.map (FullName.inside outer)

/-- The full names of a message and of the enums inside it. -/
def NamedMessage.typeNames (found : NamedMessage) : List String :=
  found.name :: found.message.enums.filterMap
    (EnumDescriptor.fullName? (FullName.asOuter found.name))

theorem EnumDescriptor.map_name_declarations (package file outer : String)
    (enums : List EnumDescriptor) :
    (enums.flatMap (declarations package file outer)).map Declaration.name =
      enums.filterMap (fullName? outer) := by
  induction enums with
  | nil => rfl
  | cons enum enums ih =>
    rw [List.flatMap_cons, List.map_append, ih]
    unfold declarations
    cases hname : enum.name with
    | none => rw [List.filterMap_cons_none (by rw [fullName?, hname]; rfl)]; rfl
    | some name => rw [List.filterMap_cons_some (by rw [fullName?, hname]; rfl)]; rfl

/-- The messages inside a message are declared before its enums. -/
theorem MessageDescriptor.perm_typeNames (package file outer : String)
    (message : MessageDescriptor) :
    ((message.declarations package file outer).map Declaration.name).Perm
      ((message.named outer).flatMap NamedMessage.typeNames) := by
  induction message using nesting generalizing outer with
  | step message ih =>
    cases hname : message.name with
    | none =>
      rw [declarations_of_name_eq_none hname, named_of_name_eq_none hname]
      exact .refl _
    | some name =>
      rw [declarations_of_name_eq_some hname, named_of_name_eq_some hname, List.map_cons,
        List.map_append, List.map_flatMap, EnumDescriptor.map_name_declarations,
        List.flatMap_cons, List.flatMap_assoc]
      refine .cons _ (List.perm_append_comm.trans (List.Perm.append_left _ ?_))
      exact List.Perm.flatMap_left _ fun inner hinner => ih inner hinner _

/-- The messages of a file are declared before its enums. -/
theorem FileDescriptor.perm_typeNames (file : FileDescriptor) :
    (file.declarations.map Declaration.name).Perm
      (file.enums.filterMap (EnumDescriptor.fullName? file.typePrefix) ++
        file.named.flatMap NamedMessage.typeNames) := by
  rw [declarations, List.map_append, List.map_flatMap, EnumDescriptor.map_name_declarations,
    named, List.flatMap_assoc]
  refine List.perm_append_comm.trans (List.Perm.append_left _ ?_)
  exact List.Perm.flatMap_left _ fun message _ => message.perm_typeNames ..

/-- No two types of a set have one full name. -/
theorem FileSet.DeclaresOnce.nodup_typeNames {set : FileSet} (h : set.DeclaresOnce) :
    (set.files.flatMap fun file =>
      file.enums.filterMap (EnumDescriptor.fullName? file.typePrefix) ++
        file.named.flatMap NamedMessage.typeNames).Nodup := by
  refine (List.Perm.nodup_iff ?_).mp h
  rw [declarations, List.map_flatMap]
  exact List.Perm.flatMap_left _ fun file _ => file.perm_typeNames

end ProtoSchema
