import Mathlib.Data.List.Perm.Basic

/-! Lists that are dealt out to two others, each element to one of them and in order. Nothing here refers to a
particular program. -/

namespace GdbMcp

/-- The elements of a list, each put behind one of two lists: `P` holds of what goes to the left and `Q` of what goes to
the right. -/
inductive Dealt {α : Type} (P Q : α → Prop) : List α → List α → List α → Prop
  | nil : Dealt P Q [] [] []
  | left {a : α} {all ls rs : List α} (h : Dealt P Q all ls rs) (ha : P a) : Dealt P Q (all ++ [a]) (ls ++ [a]) rs
  | right {a : α} {all ls rs : List α} (h : Dealt P Q all ls rs) (ha : Q a) : Dealt P Q (all ++ [a]) ls (rs ++ [a])

namespace Dealt

variable {α : Type} {P Q : α → Prop} {all ls rs : List α}

/-- Nothing is lost, and nothing is dealt twice. -/
theorem perm (h : Dealt P Q all ls rs) : (ls ++ rs).Perm all := by
  induction h with
  | nil => exact .refl _
  | @left a all ls rs _ _ ih =>
      have hbehind : (ls ++ [a] ++ rs).Perm (ls ++ rs ++ [a]) := by
        rw [List.append_assoc, List.append_assoc]
        exact List.perm_append_comm.append_left _
      exact hbehind.trans (ih.append_right [a])
  | @right a all ls rs _ _ ih =>
      rw [← List.append_assoc]
      exact ih.append_right [a]

theorem forall_left (h : Dealt P Q all ls rs) : ∀ a ∈ ls, P a := by
  induction h with
  | nil => exact fun _ ha => nomatch ha
  | left _ hP ih => exact List.forall_mem_append.mpr ⟨ih, List.forall_mem_singleton.mpr hP⟩
  | right _ _ ih => exact ih

theorem forall_right (h : Dealt P Q all ls rs) : ∀ a ∈ rs, Q a := by
  induction h with
  | nil => exact fun _ ha => nomatch ha
  | left _ _ ih => exact ih
  | right _ hQ ih => exact List.forall_mem_append.mpr ⟨ih, List.forall_mem_singleton.mpr hQ⟩

/-- What may not go to the right goes to the left. -/
theorem mem_left (h : Dealt P Q all ls rs) {a : α} (ha : a ∈ all) (hQ : ¬Q a) : a ∈ ls := by
  rcases List.mem_append.mp (h.perm.mem_iff.mpr ha) with hl | hr
  · exact hl
  · exact absurd (h.forall_right a hr) hQ

theorem mem_right (h : Dealt P Q all ls rs) {a : α} (ha : a ∈ all) (hP : ¬P a) : a ∈ rs := by
  rcases List.mem_append.mp (h.perm.mem_iff.mpr ha) with hl | hr
  · exact absurd (h.forall_left a hl) hP
  · exact hr

end Dealt
end GdbMcp
