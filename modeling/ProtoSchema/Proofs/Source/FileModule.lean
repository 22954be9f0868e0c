import ProtoSchema.Proofs.Source.Naming

/-!
# The module of a file

The module of a file is named after its package, with underscores for the dots.
Such a name is an identifier (`Naming.isIdentifier_fileModule`).  It can be read as
a part of a path, unless the package is a reserved word or a single underscore
(`Naming.isSome_plain?_fileModule`).

A file without a package has a module named after the file, and files may have any
name.
-/

namespace ProtoSchema

/-- Identifiers of schemas are made of ASCII characters. -/
theorem SchemaName.toNat_lt_of_isInner {c : Char} (h : isInner c = true) : c.toNat < 128 := by
  have h : (((c.isUpper || c.isLower) || c.isDigit) || c == '_') = true := h
  rw [Bool.or_eq_true, Bool.or_eq_true, Bool.or_eq_true, beq_iff_eq] at h
  rcases h with ((hupper | hlower) | hdigit) | rfl
  · have hle : c.val ≤ 'Z'.val := (of_decide_eq_true hupper).2
    exact Nat.lt_of_le_of_lt (UInt32.le_iff_toNat_le.mp hle) (by decide)
  · have hle : c.val ≤ 'z'.val := of_decide_eq_true (Bool.and_eq_true_iff.mp hlower).2
    exact Nat.lt_of_le_of_lt (UInt32.le_iff_toNat_le.mp hle) (by decide)
  · have hle : c.val ≤ '9'.val := of_decide_eq_true (Bool.and_eq_true_iff.mp hdigit).2
    exact Nat.lt_of_le_of_lt (UInt32.le_iff_toNat_le.mp hle) (by decide)
  · decide

/-- What stands inside identifiers of schemas may continue an identifier. -/
theorem Identifier.isContinue_of_isInner {c : Char} (h : SchemaName.isInner c = true) :
    isContinue c = true := by
  rw [isContinue, if_pos (SchemaName.toNat_lt_of_isInner h)]
  exact h

/-- What starts identifiers of schemas may start an identifier. -/
theorem Identifier.isStart_of_isStart {c : Char} (h : SchemaName.isStart c = true) :
    isStart c = true := by
  rw [isStart, if_pos (SchemaName.toNat_lt_of_isInner (SchemaName.isInner_of_isStart h))]
  exact h

namespace Naming

variable {package : String}

theorem toList_fileModule (hne : package ≠ "") (file : String) :
    (fileModule package file).toList = package.toList.map fun c => if c == '.' then '_' else c := by
  rw [fileModule, if_pos (bne_iff_ne.mpr hne), Text.replace, String.toList_ofList]

/-- The module of a file in a package is an identifier. -/
theorem isIdentifier_fileModule (h : SchemaName.isPackage package = true) (hne : package ≠ "")
    (file : String) : Identifier.isIdentifier (fileModule package file).toList = true := by
  rw [toList_fileModule hne]
  cases hchars : package.toList with
  | nil => exact absurd (String.toList_inj.mp hchars) hne
  | cons c rest =>
    have hstart := SchemaName.isStart_of_isPackage h hchars
    have hdot : ¬ (c == '.') = true := by
      intro hdot
      rw [eq_of_beq hdot] at hstart
      cases hstart
    rw [List.map_cons, if_neg hdot, Identifier.isIdentifier, Bool.and_eq_true, List.all_eq_true]
    refine ⟨Identifier.isStart_of_isStart hstart, ?_⟩
    intro d hd
    obtain ⟨c', hc', rfl⟩ := List.mem_map.mp hd
    rcases SchemaName.eq_or_isInner_of_mem h (hchars ▸ List.mem_cons_of_mem c hc') with rfl | hinner
    · rfl
    · split
      · rfl
      · exact Identifier.isContinue_of_isInner hinner

/-- The module of a file is not named by a reserved word when the package is not. -/
theorem fileModule_not_mem_reservedWords (hne : package ≠ "")
    (hreserved : package ∉ Ident.reservedWords) (file : String) :
    fileModule package file ∉ Ident.reservedWords := by
  by_cases hdot : '.' ∈ package.toList
  · have hunderscore : '_' ∈ (fileModule package file).toList := by
      rw [toList_fileModule hne]
      exact List.mem_map.mpr ⟨'.', hdot, rfl⟩
    have hall : ∀ word ∈ Ident.reservedWords, '_' ∉ word.toList := by decide
    exact fun hmem => hall _ hmem hunderscore
  · have hsame : fileModule package file = package := by
      refine String.toList_inj.mp ?_
      rw [toList_fileModule hne]
      refine (List.map_congr_left fun c hc => ?_).trans (List.map_id _)
      rw [if_neg]
      · rfl
      · intro heq
        exact hdot (eq_of_beq heq ▸ hc)
    rw [hsame]
    exact hreserved

/-- The module of a file is a single underscore only when the package is. -/
theorem fileModule_ne_underscore (h : SchemaName.isPackage package = true) (hne : package ≠ "")
    (hunderscore : package ≠ "_") (file : String) : fileModule package file ≠ "_" := by
  intro hmodule
  have hchars := congrArg String.toList hmodule
  rw [toList_fileModule hne] at hchars
  cases hpackage : package.toList with
  | nil => exact hne (String.toList_inj.mp hpackage)
  | cons c rest =>
    rw [hpackage, List.map_cons] at hchars
    have hstart := SchemaName.isStart_of_isPackage h hpackage
    have hdot : ¬ (c == '.') = true := by
      intro hdot
      rw [eq_of_beq hdot] at hstart
      cases hstart
    rw [if_neg hdot] at hchars
    obtain ⟨rfl, hrest⟩ := List.cons.inj hchars
    rw [List.map_eq_nil_iff] at hrest
    rw [hrest] at hpackage
    exact hunderscore (String.toList_inj.mp hpackage)

/-- The module of a file in a package can be read as a part of a path. -/
theorem isSome_plain?_fileModule (h : SchemaName.isPackage package = true) (hne : package ≠ "")
    (hreserved : package ∉ Ident.reservedWords) (hunderscore : package ≠ "_") (file : String) :
    (TypePath.plain? (fileModule package file)).isSome = true := by
  have hread := Ident.ofText?_of_isIdentifier (isIdentifier_fileModule h hne file)
  have hpath : Ident.mayStandInPath ⟨false, fileModule package file⟩ = true := by
    rw [Ident.mayStandInPath, Ident.isFree, Bool.or_eq_true, Bool.or_eq_true, Bool.and_eq_true]
    refine Or.inr (Or.inr ⟨?_, bne_iff_ne.mpr (fileModule_ne_underscore h hne hunderscore file)⟩)
    rw [Bool.not_eq_true', ← Bool.not_eq_true, List.contains_iff_mem]
    exact fileModule_not_mem_reservedWords hne hreserved file
  rw [TypePath.plain?, hread, Option.filter_some_pos hpath]
  rfl

/-- The module of a file does not lead up. -/
theorem fileModule_ne_super (hreserved : package ∉ Ident.reservedWords) (file : String) :
    fileModule package file ≠ "super" := by
  by_cases hempty : package = ""
  · rw [fileModule, if_neg (fun hne => bne_iff_ne.mp hne hempty)]
    exact escape_ne_super _
  · intro hsuper
    refine fileModule_not_mem_reservedWords hempty hreserved file ?_
    rw [hsuper]
    decide

end Naming

end ProtoSchema
