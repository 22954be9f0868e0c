import Mathlib.Data.List.Nodup
import ProtoSchema.Proofs.Resolve.Declarations
import ProtoSchema.Proofs.Text.FullName
import ProtoSchema.Proofs.Text.SchemaName

/-!
# Well-named sets

A compiler writes sets in which packages and types have names of the usual form
and every reference has one dot in front (`FileSet.WellNamed`).  The full names
that such a set declares are dotted, so none of them is lost when the dot is taken
off (`FileSet.WellNamed.dotted`).

No name is declared twice in a set that `DeclaresOnce`.
-/

namespace ProtoSchema

namespace FileSet

/-- Whether packages and messages have names of the usual form, and references
have one dot in front. -/
structure WellReferenced (set : FileSet) : Prop where
  packages : ∀ file ∈ set.files, SchemaName.isPackage file.packageName = true
  messages : ∀ file ∈ set.files, ∀ message ∈ file.allMessages, ∀ name ∈ message.name,
    SchemaName.isIdentifier name = true
  references : ∀ file ∈ set.files, ∀ name ∈ file.typeNames, FullName.Dotted name

/-- Whether enums have names of the usual form as well. -/
structure WellNamed (set : FileSet) : Prop extends set.WellReferenced where
  enums : ∀ file ∈ set.files, ∀ enum ∈ file.allEnums, ∀ name ∈ enum.name,
    SchemaName.isIdentifier name = true

/-- Whether no name is declared twice. -/
def DeclaresOnce (set : FileSet) : Prop := (set.declarations.map Declaration.name).Nodup

theorem DeclaresOnce.eq_of_name_eq {set : FileSet} (h : set.DeclaresOnce) {d d' : Declaration}
    (hd : d ∈ set.declarations) (hd' : d' ∈ set.declarations) (hname : d.name = d'.name) :
    d = d' :=
  List.inj_on_of_nodup_map h hd hd' hname

/-- The name of a declaration means its home. -/
theorem DeclaresOnce.find?_homes {set : FileSet} (h : set.DeclaresOnce) {d : Declaration}
    (hd : d ∈ set.declarations) : set.homes.find? d.name = some d.home := by
  obtain ⟨home, hhome⟩ := Option.isSome_iff_exists.mp (isSome_homes hd)
  obtain ⟨d', hd', hname, rfl⟩ := exists_of_homes hhome
  rw [hhome, h.eq_of_name_eq hd' hd hname]

/-- The name of a declared enum means this enum. -/
theorem DeclaresOnce.find?_enumTables {set : FileSet} (h : set.DeclaresOnce) {d : Declaration}
    (hd : d ∈ set.declarations) {table : EnumTable} (htable : d.enum? = some table) :
    set.enumTables.find? d.name = some table := by
  obtain ⟨found, hfound⟩ := Option.isSome_iff_exists.mp (isSome_enumTables hd htable)
  obtain ⟨d', hd', hname, hfound'⟩ := exists_of_enumTables hfound
  rw [h.eq_of_name_eq hd' hd hname, htable] at hfound'
  rw [hfound, ← hfound']

end FileSet

/-! ## Declared names are dotted -/

theorem FileDescriptor.typePrefix_of_empty {file : FileDescriptor}
    (h : file.packageName = "") : file.typePrefix = "." := by
  unfold typePrefix
  rw [h]
  rfl

theorem FileDescriptor.typePrefix_of_ne {file : FileDescriptor} (h : file.packageName ≠ "") :
    file.typePrefix = "." ++ (file.packageName ++ ".") := by
  unfold typePrefix
  split
  · next hempty => exact absurd hempty h
  · exact String.append_assoc ..

/-- The prefix of a file without its dot does not start with a dot. -/
theorem FileDescriptor.head?_package_ne {file : FileDescriptor}
    (h : SchemaName.isPackage file.packageName = true) (hne : file.packageName ≠ "") :
    (file.packageName ++ ".").toList.head? ≠ some '.' := by
  have hnil : file.packageName.toList ≠ [] := fun hnil => hne (String.toList_inj.mp hnil)
  rw [String.toList_append, List.head?_append_of_ne_nil _ hnil]
  exact SchemaName.head?_ne_of_isPackage h

theorem FileDescriptor.dotted_typePrefix {file : FileDescriptor}
    (h : SchemaName.isPackage file.packageName = true) : FullName.Dotted file.typePrefix := by
  by_cases hempty : file.packageName = ""
  · rw [typePrefix_of_empty hempty]
    decide
  · rw [typePrefix_of_ne hempty]
    exact FullName.dotted_iff.mpr ⟨_, rfl, head?_package_ne h hempty⟩

theorem EnumDescriptor.dotted_of_mem_declarations {package file outer : String}
    {enum : EnumDescriptor} (houter : FullName.Dotted outer)
    (henum : ∀ name ∈ enum.name, SchemaName.isIdentifier name = true)
    {d : Declaration} (hd : d ∈ enum.declarations package file outer) :
    FullName.Dotted d.name := by
  unfold declarations at hd
  split at hd
  · cases hd
  · next name hname =>
    rw [List.mem_singleton.mp hd]
    exact houter.append (SchemaName.head?_ne_of_isIdentifier (henum name hname))

theorem MessageDescriptor.dotted_of_mem_declarations {package file outer : String}
    {message : MessageDescriptor} (houter : FullName.Dotted outer)
    (hmessages : ∀ inner ∈ message.preorder, ∀ name ∈ inner.name,
      SchemaName.isIdentifier name = true)
    (henums : ∀ inner ∈ message.preorder, ∀ enum ∈ inner.enums, ∀ name ∈ enum.name,
      SchemaName.isIdentifier name = true)
    {d : Declaration} (hd : d ∈ message.declarations package file outer) :
    FullName.Dotted d.name := by
  induction message using nesting generalizing outer with
  | step message ih =>
    cases hname : message.name with
    | none =>
      rw [declarations_of_name_eq_none hname] at hd
      cases hd
    | some name =>
      have hidentifier := hmessages message (mem_preorder_self message) name hname
      have hhead := SchemaName.head?_ne_of_isIdentifier hidentifier
      have hinside := houter.asOuter_inside hhead
        (SchemaName.toList_ne_nil_of_isIdentifier hidentifier)
      rw [declarations_of_name_eq_some hname] at hd
      rcases List.mem_cons.mp hd with rfl | hd
      · exact houter.append hhead
      · rcases List.mem_append.mp hd with hd | hd
        · obtain ⟨inner, hinner, hd⟩ := List.mem_flatMap.mp hd
          exact ih inner hinner hinside
            (fun found hfound => hmessages found (mem_preorder_of_nested hinner hfound))
            (fun found hfound => henums found (mem_preorder_of_nested hinner hfound)) hd
        · obtain ⟨enum, henum, hd⟩ := List.mem_flatMap.mp hd
          exact enum.dotted_of_mem_declarations hinside
            (henums message (mem_preorder_self message) enum henum) hd

/-- The names that a well-named set declares are dotted. -/
theorem FileSet.WellNamed.dotted {set : FileSet} (h : set.WellNamed) {d : Declaration}
    (hd : d ∈ set.declarations) : FullName.Dotted d.name := by
  obtain ⟨file, hfile, hd⟩ := List.mem_flatMap.mp hd
  have houter := FileDescriptor.dotted_typePrefix (h.packages file hfile)
  rcases List.mem_append.mp hd with hd | hd
  · obtain ⟨message, hmessage, hd⟩ := List.mem_flatMap.mp hd
    have hinside : ∀ inner ∈ message.preorder, inner ∈ file.allMessages := fun inner hinner =>
      FileDescriptor.mem_allMessages.mpr ⟨message, hmessage, hinner⟩
    refine message.dotted_of_mem_declarations houter ?_ ?_ hd
    · intro inner hinner
      exact h.messages file hfile inner (hinside inner hinner)
    · intro inner hinner enum henum
      exact h.enums file hfile enum
        (List.mem_append_right _ (List.mem_flatMap.mpr ⟨inner, hinside inner hinner, henum⟩))
  · obtain ⟨enum, henum, hd⟩ := List.mem_flatMap.mp hd
    exact enum.dotted_of_mem_declarations houter
      (h.enums file hfile enum (List.mem_append_left _ henum)) hd

end ProtoSchema
