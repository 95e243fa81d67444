import Mathlib.Algebra.Ring.Parity
import Mathlib.Data.List.DropRight
import Mathlib.Data.List.Induction

/-! Scans from the left in which an element of a kind takes the element behind it, whatever that one is. Nothing here
refers to a particular kind. -/

namespace GdbMcp

section Scan

variable {α : Type} (takes : α → Bool)

/-- Each element of a list with whether it is taken; the flag says whether the first one is. -/
def scan : Bool → List α → List (α × Bool)
  | _, [] => []
  | taken, x :: rest => (x, taken) :: scan (!taken && takes x) rest

/-- Whether the element behind a list is taken. -/
def takenBehind (taken : Bool) (xs : List α) : Bool := xs.foldl (fun taken x => !taken && takes x) taken

variable {takes}

theorem takenBehind_concat (taken : Bool) (xs : List α) (x : α) :
    takenBehind takes taken (xs ++ [x]) = (!takenBehind takes taken xs && takes x) := by
  simp [takenBehind]

theorem scan_append (taken : Bool) (xs ys : List α) :
    scan takes taken (xs ++ ys) = scan takes taken xs ++ scan takes (takenBehind takes taken xs) ys := by
  induction xs generalizing taken with
  | nil => rfl
  | cons x xs ih => rw [List.cons_append, scan, ih, scan, List.cons_append]; rfl

/-- What the scan says of an element depends on the elements in front of it. -/
theorem getElem?_scan (taken : Bool) (xs : List α) (i : Nat) :
    (scan takes taken xs)[i]? = xs[i]?.map fun x => (x, takenBehind takes taken (xs.take i)) := by
  induction xs generalizing taken i with
  | nil => rfl
  | cons x xs ih =>
      cases i with
      | zero => rfl
      | succ i => rw [scan, List.getElem?_cons_succ, List.getElem?_cons_succ, ih]; rfl

theorem mem_scan_iff {taken : Bool} {xs : List α} {x : α} {b : Bool} :
    (x, b) ∈ scan takes taken xs ↔
      ∃ i, ∃ hi : i < xs.length, xs[i] = x ∧ takenBehind takes taken (xs.take i) = b := by
  rw [List.mem_iff_getElem?]
  refine exists_congr fun i => ?_
  rw [getElem?_scan]
  by_cases hi : i < xs.length
  · rw [List.getElem?_eq_getElem hi]; simp [hi]
  · rw [List.getElem?_eq_none (by omega)]; simp [hi]

/-- An element is taken when the elements of the kind directly in front of it are odd in number. -/
theorem takenBehind_iff_odd (xs : List α) : takenBehind takes false xs = true ↔ Odd (xs.rtakeWhile takes).length := by
  induction xs using List.reverseRecOn with
  | nil => simp [takenBehind, List.rtakeWhile_nil]
  | append_singleton xs x ih =>
      rw [takenBehind_concat, List.rtakeWhile_concat]
      by_cases hx : takes x = true
      · rw [if_pos hx, List.length_append, List.length_singleton, Nat.odd_add_one, hx, Bool.and_true, ← ih,
          Bool.not_eq_true', Bool.not_eq_true]
      · simp [hx]

end Scan

end GdbMcp
