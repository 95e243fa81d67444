import Mathlib.Data.List.Basic

/-! Patterns of regular expressions that match by backtracking. A pattern gives every way in which it matches the start of
a text, in the order in which the ways are tried. Nothing here refers to a particular program. -/

namespace GdbMcp

/-- The ways a pattern matches the start of a text: what it captures, and the rest of the text. -/
def Pattern (α : Type) : Type := List Char → List (α × List Char)

namespace Pattern

variable {α β : Type} {p : Char → Bool} {c : Char} {text taken rest : List Char}

instance : Monad Pattern where
  pure a := fun text => [(a, text)]
  bind m next := fun text => List.flatMap (fun way => next way.1 way.2) (m text)

/-- A character that stands for itself. -/
def lit (c : Char) : Pattern Unit
  | [] => []
  | c' :: rest => if c' = c then [((), rest)] else []

/-- `[…]*`: as many characters of a class as possible are tried first. -/
def star (p : Char → Bool) : Pattern (List Char)
  | [] => [([], [])]
  | c :: rest => (if p c then (star p rest).map fun way => (c :: way.1, way.2) else []) ++ [([], c :: rest)]

/-- `[…]+`. -/
def plus (p : Char → Bool) : Pattern (List Char) := fun text => (star p text).filter fun way => !way.1.isEmpty

/-- `(…)?`: the group is tried first. -/
def opt (m : Pattern α) : Pattern (Option α) := fun text =>
  (m text).map (fun way => (some way.1, way.2)) ++ [(none, text)]

/-- `$`: the end of the text, or a newline at its end. -/
def finish : Pattern Unit := fun text => if text = [] ∨ text = ['\n'] then [((), text)] else []

/-- The captures of the first way in which a pattern matches the start of a text. -/
def first (m : Pattern α) (text : List Char) : Option α := (m text).head?.map (·.1)

theorem mem_pure {a b : α} : (b, rest) ∈ (pure a : Pattern α) text ↔ b = a ∧ rest = text := by
  change (b, rest) ∈ [(a, text)] ↔ _
  rw [List.mem_singleton, Prod.mk.injEq]

theorem mem_bind {m : Pattern α} {next : α → Pattern β} {b : β} :
    (b, rest) ∈ (m >>= next) text ↔ ∃ a between, (a, between) ∈ m text ∧ (b, rest) ∈ next a between := by
  change (b, rest) ∈ List.flatMap (fun way => next way.1 way.2) (m text) ↔ _
  rw [List.mem_flatMap]
  constructor
  · rintro ⟨⟨a, between⟩, hm, hnext⟩
    exact ⟨a, between, hm, hnext⟩
  · rintro ⟨a, between, hm, hnext⟩
    exact ⟨(a, between), hm, hnext⟩

theorem mem_lit {u : Unit} : (u, rest) ∈ lit c text ↔ text = c :: rest := by
  cases text with
  | nil => simp [lit]
  | cons c' others =>
      rw [lit]
      by_cases hc : c' = c
      · subst hc
        simpa using eq_comm
      · simp [hc]

theorem mem_star : (taken, rest) ∈ star p text ↔ text = taken ++ rest ∧ ∀ c ∈ taken, p c = true := by
  induction text generalizing taken with
  | nil =>
      rw [star, List.mem_singleton, Prod.mk.injEq, eq_comm (a := []), List.append_eq_nil_iff]
      exact ⟨fun h => ⟨h, by simp [h.1]⟩, fun h => h.1⟩
  | cons c others ih =>
      rw [star, List.mem_append, List.mem_singleton, Prod.mk.injEq]
      cases taken with
      | nil =>
          have hnone : ([], rest) ∉ if p c = true then (star p others).map fun way => (c :: way.1, way.2) else [] := by
            split <;> simp
          rw [List.nil_append, or_iff_right hnone]
          exact ⟨fun h => ⟨h.2.symm, by simp⟩, fun h => ⟨rfl, h.1.symm⟩⟩
      | cons c' taken =>
          by_cases hc : p c = true
          · rw [if_pos hc, List.mem_map]
            constructor
            · rintro (⟨⟨taken', rest'⟩, hway, heq⟩ | ⟨heq, -⟩)
              · obtain ⟨hhead, rfl⟩ := Prod.mk.inj heq
                obtain ⟨rfl, rfl⟩ := List.cons.inj hhead
                obtain ⟨rfl, hall⟩ := ih.mp hway
                exact ⟨rfl, List.forall_mem_cons.mpr ⟨hc, hall⟩⟩
              · exact nomatch heq
            · rintro ⟨htext, hall⟩
              obtain ⟨rfl, hothers⟩ := List.cons.inj htext
              exact .inl ⟨(taken, rest), ih.mpr ⟨hothers, (List.forall_mem_cons.mp hall).2⟩, rfl⟩
          · rw [if_neg hc]
            constructor
            · rintro (h | ⟨heq, -⟩)
              · exact absurd h List.not_mem_nil
              · exact nomatch heq
            · rintro ⟨htext, hall⟩
              obtain ⟨rfl, -⟩ := List.cons.inj htext
              exact absurd (hall c List.mem_cons_self) hc

theorem mem_plus : (taken, rest) ∈ plus p text ↔ text = taken ++ rest ∧ taken ≠ [] ∧ ∀ c ∈ taken, p c = true := by
  rw [plus, List.mem_filter, mem_star, and_assoc]
  refine and_congr_right fun _ => ?_
  rw [and_comm]
  refine and_congr_left fun _ => ?_
  simp

theorem mem_opt {m : Pattern α} {captured : Option α} :
    (captured, rest) ∈ opt m text ↔
      (∃ a, captured = some a ∧ (a, rest) ∈ m text) ∨ captured = none ∧ rest = text := by
  rw [opt, List.mem_append, List.mem_map, List.mem_singleton, Prod.mk.injEq]
  refine or_congr_left ?_
  constructor
  · rintro ⟨⟨a, rest'⟩, hm, heq⟩
    obtain ⟨rfl, rfl⟩ := Prod.mk.inj heq
    exact ⟨a, rfl, hm⟩
  · rintro ⟨a, rfl, hm⟩
    exact ⟨(a, rest), hm, rfl⟩

theorem mem_finish {u : Unit} : (u, rest) ∈ finish text ↔ (text = [] ∨ text = ['\n']) ∧ rest = text := by
  rw [finish]
  split <;> simp_all

theorem exists_of_first {m : Pattern α} {a : α} (h : first m text = some a) : ∃ rest, (a, rest) ∈ m text := by
  obtain ⟨⟨a', rest⟩, hhead, rfl⟩ := Option.map_eq_some_iff.mp h
  exact ⟨rest, List.mem_of_head? hhead⟩

/-- Where every way captures the same, the first way captures it. -/
theorem first_eq {m : Pattern α} {a : α} (h : (a, rest) ∈ m text) (hunique : ∀ b rest', (b, rest') ∈ m text → b = a) :
    first m text = some a := by
  cases hways : m text with
  | nil => exact absurd (hways ▸ h) List.not_mem_nil
  | cons way others =>
      have hfirst := hunique way.1 way.2 (by rw [hways]; exact List.mem_cons_self)
      rw [first, hways, List.head?_cons, Option.map_some, hfirst]

end Pattern
end GdbMcp
