import ProtoSchema.Source.Naming
import ProtoSchema.Proofs.Resolve.Named
import ProtoSchema.Proofs.Source.Ident
import ProtoSchema.Proofs.Text.SnakeCase
import ProtoSchema.Proofs.Text.Split

/-!
# The way to a type, from its full name

The way from the module of a file to a type is found by splitting the full name
of the type.  The names of the package are dropped, the last name is that of the
type, and the others are the messages around it.  This is the inverse of how the
full name was put together (`Surrounds.pathInFile_inside`).

A name that was escaped can be read as a part of a path, unless it is a single
underscore (`isSome_plain?_escape`).  Escaping keeps names apart, up to four words that
are never written raw (`reserved_of_escape_eq`).
-/

namespace ProtoSchema

namespace Naming

/-! ## Full names -/

/-- What stands in front of a name that is declared inside certain messages of a
package. -/
structure Surrounds (package : String) (around : List String) (outer : String) : Prop where
  dotted : FullName.Dotted outer
  /-- It consists of the package and the names of the messages. -/
  pieces : ∃ front, front.length = packageDepth package ∧
    Text.pieces '.' (FullName.bare outer) = front ++ around ++ [""]

theorem surrounds_typePrefix {file : FileDescriptor}
    (h : SchemaName.isPackage file.packageName = true) :
    Surrounds file.packageName [] file.typePrefix := by
  refine ⟨FileDescriptor.dotted_typePrefix h, ?_⟩
  by_cases hempty : file.packageName = ""
  · rw [FileDescriptor.typePrefix_of_empty hempty, hempty]
    exact ⟨[], rfl, by decide⟩
  · refine ⟨Text.pieces '.' file.packageName, ?_, ?_⟩
    · rw [packageDepth, if_neg (fun heq => hempty (eq_of_beq heq))]
    · rw [FileDescriptor.typePrefix_of_ne hempty,
        FullName.bare_dot_append (FileDescriptor.head?_package_ne h hempty), List.append_nil]
      exact Text.pieces_concat '.' file.packageName

namespace Surrounds

variable {package outer name : String} {around : List String}

/-- A name behind what stands in front of it has the names around it in order. -/
theorem pieces_inside (h : Surrounds package around outer)
    (hname : SchemaName.isIdentifier name = true) :
    ∃ front, front.length = packageDepth package ∧
      Text.pieces '.' (FullName.bare (FullName.inside outer name)) = front ++ around ++ [name] := by
  obtain ⟨front, hlength, hpieces⟩ := h.pieces
  refine ⟨front, hlength, ?_⟩
  rw [FullName.inside, h.dotted.bare_append (SchemaName.head?_ne_of_isIdentifier hname),
    Text.pieces_append_of_not_mem hpieces (SchemaName.dot_not_mem_of_isIdentifier hname),
    String.empty_append]

/-- One more message stands around what is inside of it. -/
theorem asOuter_inside (h : Surrounds package around outer)
    (hname : SchemaName.isIdentifier name = true) :
    Surrounds package (around ++ [name]) (FullName.asOuter (FullName.inside outer name)) := by
  have hhead := SchemaName.head?_ne_of_isIdentifier hname
  have hdotted : FullName.Dotted (FullName.inside outer name) := h.dotted.append hhead
  obtain ⟨front, hlength, hpieces⟩ := h.pieces_inside hname
  have hnil := SchemaName.toList_ne_nil_of_isIdentifier hname
  refine ⟨h.dotted.asOuter_inside hhead hnil, front, hlength, ?_⟩
  rw [h.dotted.bare_asOuter_inside hhead hnil]
  refine (Text.pieces_concat '.' _).trans ?_
  rw [hpieces, List.append_assoc front around [name]]

/-- The way to a type names the modules of the messages around it, however many dots
stand in front of the full name. -/
theorem pathInFile_of_bare_eq (h : Surrounds package around outer)
    (hname : SchemaName.isIdentifier name = true) {fullName : String}
    (hbare : FullName.bare fullName = FullName.bare (FullName.inside outer name)) :
    pathInFile fullName package = around.map fieldName ++ [typeName name] := by
  obtain ⟨front, hlength, hpieces⟩ := h.pieces_inside hname
  unfold pathInFile
  rw [hbare, hpieces, ← hlength, List.append_assoc, List.drop_left, List.reverse_append]
  simp only [List.reverse_singleton, List.singleton_append, List.reverse_reverse]

/-- The way to a type names the modules of the messages around it. -/
theorem pathInFile_inside (h : Surrounds package around outer)
    (hname : SchemaName.isIdentifier name = true) :
    pathInFile (FullName.inside outer name) package = around.map fieldName ++ [typeName name] :=
  h.pathInFile_of_bare_eq hname rfl

end Surrounds

/-! ## Escaped names -/

/-- What becomes of a name that is escaped. -/
inductive Escaped (name : String) : String → Prop where
  | suffixed : name ∈ Ident.neverRaw → Escaped name (name ++ "_")
  | raw : name ∉ Ident.neverRaw → name ∈ Ident.reservedWords → Escaped name ("r#" ++ name)
  | same : name ∉ Ident.neverRaw → name ∉ Ident.reservedWords → Escaped name name

theorem escaped (name : String) : Escaped name (escape name) := by
  unfold escape
  by_cases hnever : name ∈ Ident.neverRaw
  · rw [if_pos (List.contains_iff_mem.mpr hnever)]
    exact .suffixed hnever
  · rw [if_neg (fun h => hnever (List.contains_iff_mem.mp h))]
    by_cases hreserved : name ∈ Ident.reservedWords
    · rw [if_pos (List.contains_iff_mem.mpr hreserved)]
      exact .raw hnever hreserved
    · rw [if_neg (fun h => hreserved (List.contains_iff_mem.mp h))]
      exact .same hnever hreserved

/-- An escaped name does not lead up. -/
theorem escape_ne_super (name : String) : escape name ≠ "super" := by
  have h := escaped name
  generalize escape name = text at h
  cases h with
  | suffixed hnever =>
    have hall : ∀ word ∈ Ident.neverRaw, word ++ "_" ≠ "super" := by decide
    exact hall name hnever
  | raw =>
    intro hsuper
    have hchars := congrArg String.toList hsuper
    rw [String.toList_append] at hchars
    cases hchars
  | same hnever =>
    rintro rfl
    exact hnever (by decide)

/-- An escaped name that is an identifier may stand in a path. -/
theorem mayStandInPath_of_escape {name : String} {ident : Ident}
    (hident : Ident.ofText? (escape name) = some ident) (hne : escape name ≠ "_") :
    ident.mayStandInPath = true := by
  have h := escaped name
  generalize escape name = text at h hident hne
  cases h with
  | suffixed hnever =>
    have hall : ∀ word ∈ Ident.neverRaw, ∀ ident ∈ Ident.ofText? (word ++ "_"),
        ident.mayStandInPath = true := by
      decide +kernel
    exact hall name hnever ident hident
  | raw => exact Ident.mayStandInPath_of_raw (Ident.raw_of_ofText? hident)
  | same hnever hreserved =>
    rcases Ident.ofText?_cases hident with ⟨hraw, -⟩ | ⟨rfl, -⟩
    · exact Ident.mayStandInPath_of_raw hraw
    · rw [Ident.mayStandInPath, Ident.isFree, Bool.or_eq_true, Bool.or_eq_true,
        Bool.and_eq_true]
      refine Or.inr (Or.inr ⟨?_, bne_iff_ne.mpr hne⟩)
      rw [Bool.not_eq_true', ← Bool.not_eq_true, List.contains_iff_mem]
      exact hreserved

/-- An escaped name that is an identifier can be read as a part of a path. -/
theorem isSome_plain?_escape {name : String}
    (hident : (Ident.ofText? (escape name)).isSome = true) (hne : escape name ≠ "_") :
    (TypePath.plain? (escape name)).isSome = true := by
  obtain ⟨ident, hident⟩ := Option.isSome_iff_exists.mp hident
  rw [TypePath.plain?, hident, Option.isSome_map,
    Option.filter_some_pos (mayStandInPath_of_escape hident hne)]
  rfl

/-- Only a single underscore is escaped to one. -/
theorem eq_of_escape_eq {name : String} (h : escape name = "_") : name = "_" := by
  have hcases := escaped name
  generalize escape name = text at h hcases
  cases hcases with
  | suffixed hnever =>
    have hall : ∀ word ∈ Ident.neverRaw, word ++ "_" ≠ "_" := by decide
    exact absurd h (hall name hnever)
  | raw =>
    have hchars := congrArg String.toList h
    rw [String.toList_append] at hchars
    cases hchars
  | same => exact h

/-- What is written raw is no name of a schema. -/
theorem raw_ne_of_isIdentifier {name other : String} (h : SchemaName.isIdentifier other = true) :
    "r#" ++ name ≠ other := by
  rintro rfl
  have hmark : '#' ∈ ("r#" ++ name).toList := by
    rw [String.toList_append]
    exact List.mem_append_left _ (by decide)
  exact absurd (SchemaName.isInner_of_mem h hmark) (by decide)

/-- Two names of a schema that are escaped alike are a word that is never written raw
and the same word with an underscore behind it. -/
theorem reserved_of_escape_eq {first second : String}
    (hfirst : SchemaName.isIdentifier first = true)
    (hsecond : SchemaName.isIdentifier second = true) (h : escape first = escape second)
    (hne : first ≠ second) :
    (first ∈ Ident.neverRaw ∧ second = first ++ "_") ∨
      (second ∈ Ident.neverRaw ∧ first = second ++ "_") := by
  have hsuffixed : ∀ word ∈ Ident.neverRaw, SchemaName.isIdentifier (word ++ "_") = true := by
    decide
  have hescaped := escaped first
  have hescaped' := escaped second
  generalize escape first = text at h hescaped
  generalize escape second = text' at h hescaped'
  cases hescaped with
  | suffixed hnever =>
    cases hescaped' with
    | suffixed => exact absurd ((String.append_left_inj _).mp h) hne
    | raw => exact absurd h.symm (raw_ne_of_isIdentifier (hsuffixed first hnever))
    | same => exact Or.inl ⟨hnever, h.symm⟩
  | raw =>
    cases hescaped' with
    | suffixed hnever => exact absurd h (raw_ne_of_isIdentifier (hsuffixed second hnever))
    | raw => exact absurd ((String.append_right_inj _).mp h) hne
    | same => exact absurd h (raw_ne_of_isIdentifier hsecond)
  | same =>
    cases hescaped' with
    | suffixed hnever => exact Or.inr ⟨hnever, h⟩
    | raw => exact absurd h.symm (raw_ne_of_isIdentifier hfirst)
    | same => exact absurd h hne

/-- The module of a message is a single underscore only when the message is. -/
theorem typeName_eq_of_fieldName_eq {name : String} (h : fieldName name = "_") :
    typeName name = "_" := by
  have hsnake : Words.snake name.toList = ['_'] := by
    have hname := congrArg String.toList (eq_of_escape_eq h)
    rw [String.toList_ofList] at hname
    exact hname
  have hchars : name.toList = ['_'] := by
    cases hname : name.toList with
    | nil =>
      rw [hname] at hsnake
      cases hsnake
    | cons c rest =>
      rw [hname, Words.snake, List.cons.injEq] at hsnake
      obtain ⟨hc, hrest⟩ := hsnake
      cases rest with
      | nil => rw [Words.toLower_eq_iff.mp hc]
      | cons d more =>
        rw [Words.snakeAfter] at hrest
        split at hrest
        · cases hrest
        · cases hrest
  have hname : name = "_" := String.toList_inj.mp hchars
  rw [hname]
  decide

end Naming

end ProtoSchema
