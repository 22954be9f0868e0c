import Mathlib.Data.List.DropRight
import ProtoSchema.Text.FullName

/-!
# Bare and dotted names

A bare name stays as it is when dots are taken off again.  A *dotted* name has
one dot in front of the bare one.  Dotted names are told apart by their bare
names.
-/

namespace ProtoSchema.FullName

/-- Taking dots off twice is the same as taking them off once. -/
theorem bare_bare (name : String) : bare (bare name) = bare name := by
  unfold bare
  rw [String.toList_ofList, List.dropWhile_idempotent]

/-- A name with exactly one dot in front. -/
def Dotted (name : String) : Prop := name = "." ++ bare name

instance (name : String) : Decidable (Dotted name) := inferInstanceAs (Decidable (_ = _))

/-- What follows the dot of a dotted name is the bare name. -/
theorem bare_dot_append {rest : String} (h : rest.toList.head? ≠ some '.') :
    bare ("." ++ rest) = rest := by
  have hbare : bare ("." ++ rest) = bare rest := by
    unfold bare
    rw [String.toList_append]
    rfl
  have hrest : rest.toList.dropWhile (fun c => c == '.') = rest.toList := by
    cases hchars : rest.toList with
    | nil => rfl
    | cons c chars =>
      rw [hchars] at h
      exact List.dropWhile_cons_of_neg fun hc => h (congrArg some (eq_of_beq hc))
  rw [hbare, bare, hrest, String.ofList_toList]

theorem dotted_iff {name : String} :
    Dotted name ↔ ∃ rest, name = "." ++ rest ∧ rest.toList.head? ≠ some '.' := by
  constructor
  · intro h
    refine ⟨bare name, h, ?_⟩
    have hhead := List.head?_dropWhile_not (fun c => c == '.') name.toList
    unfold bare
    rw [String.toList_ofList]
    intro hdot
    rw [hdot] at hhead
    cases hhead
  · rintro ⟨rest, rfl, hrest⟩
    rw [Dotted, bare_dot_append hrest]

/-- Dotted names stay dotted when something that does not start with a dot is
added to them. -/
theorem Dotted.append {outer name : String} (h : Dotted outer)
    (hname : name.toList.head? ≠ some '.') : Dotted (outer ++ name) := by
  obtain ⟨rest, rfl, hrest⟩ := dotted_iff.mp h
  refine dotted_iff.mpr ⟨rest ++ name, String.append_assoc .., ?_⟩
  rw [String.toList_append, List.head?_append]
  cases hfirst : rest.toList.head? with
  | none => exact hname
  | some c =>
    rw [hfirst] at hrest
    exact hrest

/-- What is added to a dotted name is added to the bare one. -/
theorem Dotted.bare_append {outer name : String} (h : Dotted outer)
    (hname : name.toList.head? ≠ some '.') : bare (outer ++ name) = bare outer ++ name := by
  have hwhole : outer ++ name = "." ++ (bare outer ++ name) := by
    rw [← String.append_assoc]
    exact congrArg (· ++ name) h
  have hhead : (bare outer ++ name).toList.head? ≠ some '.' := by
    have hdotted := h.append hname
    obtain ⟨rest, hrest, hhead⟩ := dotted_iff.mp hdotted
    rw [hwhole] at hrest
    rw [(String.append_right_inj _).mp hrest]
    exact hhead
  rw [hwhole, bare_dot_append hhead]

/-- What stands in front of a name inside a message is dotted. -/
theorem Dotted.asOuter_inside {outer name : String} (h : Dotted outer)
    (hname : name.toList.head? ≠ some '.') (hnonempty : name.toList ≠ []) :
    Dotted (asOuter (inside outer name)) := by
  have hwhole : asOuter (inside outer name) = outer ++ (name ++ ".") := String.append_assoc ..
  rw [hwhole]
  refine h.append ?_
  rw [String.toList_append, List.head?_append_of_ne_nil _ hnonempty]
  exact hname

/-- Only a dot is added to what stands in front of a name inside a message. -/
theorem Dotted.bare_asOuter_inside {outer name : String} (h : Dotted outer)
    (hname : name.toList.head? ≠ some '.') (hnonempty : name.toList ≠ []) :
    bare (asOuter (inside outer name)) = bare (inside outer name) ++ "." := by
  have hwhole : asOuter (inside outer name) = outer ++ (name ++ ".") := String.append_assoc ..
  have hhead : (name ++ ".").toList.head? ≠ some '.' := by
    rw [String.toList_append, List.head?_append_of_ne_nil _ hnonempty]
    exact hname
  rw [hwhole, h.bare_append hhead, inside, h.bare_append hname, String.append_assoc]

/-- Dotted names are told apart by their bare names. -/
theorem Dotted.eq_of_bare_eq {first second : String} (hfirst : Dotted first)
    (hsecond : Dotted second) (h : bare first = bare second) : first = second := by
  rw [hfirst, hsecond, h]

end ProtoSchema.FullName
