import Mathlib.Tactic.Common

/-! The lines of a text under different notions of a line break. A carriage return in front of a newline always ends the
line with it. Nothing here refers to a particular program. -/

namespace GdbMcp
namespace Lines

/-- The lines of a text, of which the first one has begun with some characters, the last of them first. -/
def cutFrom (isBreak : Char → Bool) : List Char → List Char → List (List Char)
  | [], [] => []
  | [], line => [line.reverse]
  | '\r' :: '\n' :: rest, line => line.reverse :: cutFrom isBreak rest []
  | c :: rest, line =>
    if isBreak c then line.reverse :: cutFrom isBreak rest [] else cutFrom isBreak rest (c :: line)

/-- The lines of a text. -/
def cut (isBreak : Char → Bool) (text : List Char) : List (List Char) := cutFrom isBreak text []

/-- A text file as it is read: every notion of a newline becomes one. -/
def translate : List Char → List Char
  | [] => []
  | '\r' :: '\n' :: rest => '\n' :: translate rest
  | '\r' :: rest => '\n' :: translate rest
  | c :: rest => c :: translate rest

/-- A break by the one notion that is none by the other. -/
def hasStray (isBreak isPlain : Char → Bool) : List Char → Bool
  | [] => false
  | '\r' :: '\n' :: rest => hasStray isBreak isPlain rest
  | c :: rest => (isBreak c && !isPlain c) || hasStray isBreak isPlain rest

section Cut

variable {isBreak isPlain : Char → Bool}

theorem cutFrom_cons {c : Char} {rest : List Char} (h : ∀ rest', c = '\r' → rest = '\n' :: rest' → False) (line : List Char) :
    cutFrom isBreak (c :: rest) line =
      if isBreak c then line.reverse :: cutFrom isBreak rest [] else cutFrom isBreak rest (c :: line) := by
  rw [cutFrom.eq_def]
  split
  · contradiction
  · contradiction
  · rename_i heq
    obtain ⟨rfl, rfl⟩ := List.cons.inj heq
    exact (h _ rfl rfl).elim
  · rename_i heq
    obtain ⟨rfl, rfl⟩ := List.cons.inj heq
    rfl

theorem hasStray_cons {c : Char} {rest : List Char} (h : ∀ rest', c = '\r' → rest = '\n' :: rest' → False) :
    hasStray isBreak isPlain (c :: rest) = ((isBreak c && !isPlain c) || hasStray isBreak isPlain rest) := by
  rw [hasStray.eq_def]
  split
  · contradiction
  · rename_i heq
    obtain ⟨rfl, rfl⟩ := List.cons.inj heq
    exact (h _ rfl rfl).elim
  · rename_i heq
    obtain ⟨rfl, rfl⟩ := List.cons.inj heq
    rfl

/-- The translation does not change the lines, where both characters break a line. -/
theorem cutFrom_translate (hreturn : isBreak '\r' = true) (hnewline : isBreak '\n' = true) (text line : List Char) :
    cutFrom isBreak (translate text) line = cutFrom isBreak text line := by
  fun_induction translate text generalizing line with
  | case1 => rfl
  | case2 rest ih => rw [cutFrom_cons (by simp), if_pos hnewline, ih, cutFrom]
  | case3 rest hrest ih =>
      rw [cutFrom_cons (by simp), if_pos hnewline, ih, cutFrom_cons fun rest' _ heq => hrest rest' heq, if_pos hreturn]
  | case4 c rest hcrlf hcr ih =>
      have hc : c ≠ '\r' := fun heq => hcr heq
      rw [cutFrom_cons fun _ heq => absurd heq hc, cutFrom_cons fun _ heq => absurd heq hc, ih, ih]

/-- The line that has begun is the first one, and begins so. -/
theorem cutFrom_head (text : List Char) {line : List Char} (hne : line ≠ []) :
    ∃ behind rest, cutFrom isBreak text line = (line.reverse ++ behind) :: rest := by
  fun_induction cutFrom isBreak text line with
  | case1 => exact absurd rfl hne
  | case2 line _ => exact ⟨[], [], by rw [List.append_nil]⟩
  | case3 rest line ih => exact ⟨[], _, by rw [List.append_nil]⟩
  | case4 c rest line _ _ ih => exact ⟨[], _, by rw [List.append_nil]⟩
  | case5 c rest line _ _ ih =>
      obtain ⟨behind, others, heq⟩ := ih (List.cons_ne_nil _ _)
      refine ⟨c :: behind, others, ?_⟩
      rw [heq, List.reverse_cons, List.append_assoc, List.singleton_append]

section Plain

variable (hle : ∀ c, isPlain c = true → isBreak c = true)
include hle

/-- Without a stray break both notions cut the same lines. -/
theorem cutFrom_eq {text : List Char} (h : hasStray isBreak isPlain text = false) (line : List Char) :
    cutFrom isBreak text line = cutFrom isPlain text line := by
  fun_induction cutFrom isBreak text line with
  | case1 => rfl
  | case2 line hne =>
      cases line with
      | nil => exact (hne rfl).elim
      | cons c rest => rfl
  | case3 rest line ih => rw [cutFrom, ih h]
  | case4 c rest line hcrlf hbreak ih =>
      rw [hasStray_cons hcrlf, Bool.or_eq_false_iff, hbreak, Bool.true_and, Bool.not_eq_false'] at h
      rw [cutFrom_cons hcrlf, if_pos h.1, ih h.2]
  | case5 c rest line hcrlf hbreak ih =>
      rw [hasStray_cons hcrlf, Bool.or_eq_false_iff] at h
      rw [cutFrom_cons hcrlf, if_neg fun hplain => hbreak (hle c hplain), ih h.2]

/-- At the first stray break a line ends too early. -/
theorem cutFrom_ne {text : List Char} (h : hasStray isBreak isPlain text = true) (line : List Char) :
    ∃ (i : Nat) (l : List Char), (cutFrom isBreak text line)[i]? = some l ∧ (cutFrom isPlain text line)[i]? ≠ some l := by
  fun_induction cutFrom isBreak text line with
  | case1 => exact nomatch h
  | case2 line hne => exact nomatch h
  | case3 rest line ih =>
      obtain ⟨i, l, hl, hne⟩ := ih h
      refine ⟨i + 1, l, hl, ?_⟩
      rwa [cutFrom]
  | case4 c rest line hcrlf hbreak ih =>
      rw [hasStray_cons hcrlf, hbreak, Bool.true_and] at h
      rw [cutFrom_cons hcrlf]
      cases hplain : isPlain c with
      | true =>
          rw [hplain, Bool.not_true, Bool.false_or] at h
          obtain ⟨i, l, hl, hne⟩ := ih h
          exact ⟨i + 1, l, hl, hne⟩
      | false =>
          -- the line goes on with the stray character
          obtain ⟨behind, others, heq⟩ := @cutFrom_head isPlain rest _ (List.cons_ne_nil c line)
          refine ⟨0, line.reverse, rfl, fun hfirst => ?_⟩
          rw [if_neg (by decide), heq] at hfirst
          have hlength := congrArg List.length (Option.some.inj hfirst)
          simp at hlength
  | case5 c rest line hcrlf hbreak ih =>
      rw [hasStray_cons hcrlf, Bool.eq_false_iff.mpr hbreak, Bool.false_and, Bool.false_or] at h
      rw [cutFrom_cons hcrlf, if_neg fun hplain => hbreak (hle c hplain)]
      exact ih h

/-- Two notions of a line break, of which one includes the other, cut a text alike if and only if none is stray. -/
theorem cut_eq_iff (text : List Char) : cut isBreak text = cut isPlain text ↔ hasStray isBreak isPlain text = false := by
  refine ⟨fun heq => Bool.eq_false_iff.mpr fun hstray => ?_, fun h => cutFrom_eq hle h []⟩
  obtain ⟨i, l, hl, hne⟩ := cutFrom_ne hle hstray []
  exact hne ((congrArg (·[i]?) heq).symm.trans hl)

end Plain

end Cut

end Lines
end GdbMcp
