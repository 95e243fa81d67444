import Mathlib.Data.List.Induction
import Mathlib.Order.Defs.Unbundled

/-! Labelled transition systems: the invariants of the runs whose steps are all allowed, and what a run does in a
system that simulates another one. Nothing here refers to a particular system. -/

namespace GdbMcp

/-- A state that a run from one of the initial states reaches by allowed steps. -/
inductive Reachable {σ ℓ : Type} (initial : σ → Prop) (step : σ → ℓ → σ → Prop) (allowed : σ → ℓ → Prop) :
    σ → Prop
  | initial {s : σ} : initial s → Reachable initial step allowed s
  | step {s s' : σ} {l : ℓ} : Reachable initial step allowed s → allowed s l → step s l s' →
      Reachable initial step allowed s'

namespace Reachable

variable {σ ℓ : Type} {initial : σ → Prop} {step : σ → ℓ → σ → Prop} {allowed allowed' : σ → ℓ → Prop} {s s' : σ}

/-- What holds initially and is kept by every allowed step holds of every reachable state. -/
theorem invariant {I : σ → Prop} (h : Reachable initial step allowed s) (hinitial : ∀ s, initial s → I s)
    (hstep : ∀ s l s', I s → allowed s l → step s l s' → I s') : I s := by
  induction h with
  | initial hs => exact hinitial _ hs
  | step _ hallowed hs ih => exact hstep _ _ _ ih hallowed hs

/-- An invariant whose steps may use another one. -/
theorem invariant_with {J I : σ → Prop} (h : Reachable initial step allowed s)
    (hJ : ∀ s, Reachable initial step allowed s → J s) (hinitial : ∀ s, initial s → I s)
    (hstep : ∀ s l s', J s → I s → allowed s l → step s l s' → I s') : I s := by
  induction h with
  | initial hs => exact hinitial _ hs
  | step hreach hallowed hs ih => exact hstep _ _ _ (hJ _ hreach) ih hallowed hs

theorem mono (h : Reachable initial step allowed s) (himp : ∀ s l, allowed s l → allowed' s l) :
    Reachable initial step allowed' s := by
  induction h with
  | initial hs => exact .initial hs
  | step _ hallowed hs ih => exact .step ih (himp _ _ hallowed) hs

end Reachable

/-- What one state reaches by any steps. -/
abbrev Later {σ ℓ : Type} (step : σ → ℓ → σ → Prop) (s : σ) : σ → Prop :=
  Reachable (· = s) step fun _ _ => True

section Later

variable {σ ℓ : Type} {step : σ → ℓ → σ → Prop} {s t u : σ}

theorem Later.refl (s : σ) : Later step s s := .initial rfl

theorem Later.one {l : ℓ} (h : step s l t) : Later step s t := .step (.initial rfl) trivial h

theorem Later.trans (h : Later step s t) (h' : Later step t u) : Later step s u := by
  induction h' with
  | initial heq => exact heq ▸ h
  | step _ _ hstep ih => exact .step ih trivial hstep

end Later

/-! ### Runs with the labels of their steps -/

/-- A run, with the labels of its steps in order. -/
inductive Runs {σ ℓ : Type} (step : σ → ℓ → σ → Prop) : σ → List ℓ → σ → Prop
  | nil (s : σ) : Runs step s [] s
  | cons {s t u : σ} {l : ℓ} {ls : List ℓ} : step s l t → Runs step t ls u → Runs step s (l :: ls) u

namespace Runs

variable {σ τ ℓ : Type} {step : σ → ℓ → σ → Prop} {s t : σ} {ls : List ℓ}

/-- What is kept by every step is kept by a run. -/
theorem keeps {I : σ → Prop} (h : Runs step s ls t) (hstep : ∀ s l s', I s → step s l s' → I s') (hs : I s) : I t := by
  induction h with
  | nil => exact hs
  | cons hone _ ih => exact ih (hstep _ _ _ hs hone)

/-- Where every step is one of an abstract machine, a run ends where the machine ends with the same labels. -/
theorem simulates {R : σ → τ → Prop} {next : τ → ℓ → τ} (h : Runs step s ls t)
    (hstep : ∀ s l s' a, R s a → step s l s' → R s' (next a l)) {a : τ} (hs : R s a) : R t (ls.foldl next a) := by
  induction h generalizing a with
  | nil => exact hs
  | cons hone _ ih => exact ih (hstep _ _ _ _ hs hone)

/-- Where every step is one that an abstract system can take, a run is one of the abstract system. -/
theorem refines {R : σ → τ → Prop} {next : τ → ℓ → τ → Prop} (h : Runs step s ls t)
    (hstep : ∀ s l s' a, R s a → step s l s' → ∃ a', next a l a' ∧ R s' a') {a : τ} (hs : R s a) :
    ∃ b, Runs next a ls b ∧ R t b := by
  induction h generalizing a with
  | nil => exact ⟨a, .nil a, hs⟩
  | cons hone _ ih =>
      obtain ⟨a', hnext, hrelated⟩ := hstep _ _ _ _ hs hone
      obtain ⟨b, hruns, hend⟩ := ih hrelated
      exact ⟨b, .cons hnext hruns, hend⟩

end Runs

/-! ### Properties that come and go

Over a sequence of events, a property is decided by the last event that gives it or takes it away. -/

section Turns

variable {σ ε : Type} {follow : σ → ε → σ} {gives takes : σ → ε → Prop} {P : σ → Prop} {s : σ} {events : List ε}

/-- One of the events gives the property, and none behind it takes it away. -/
def Given (follow : σ → ε → σ) (gives takes : σ → ε → Prop) (s : σ) (events : List ε) : Prop :=
  ∃ before e behind, events = before ++ e :: behind ∧ gives (before.foldl follow s) e ∧
    ∀ front e' rest, behind = front ++ e' :: rest → ¬takes ((before ++ e :: front).foldl follow s) e'

theorem foldl_of_not_takes (htakes : ∀ s e, P s → ¬takes s e → P (follow s e)) (hs : P s)
    (hkept : ∀ front e rest, events = front ++ e :: rest → ¬takes (front.foldl follow s) e) :
    P (events.foldl follow s) := by
  induction events generalizing s with
  | nil => exact hs
  | cons e rest ih =>
      refine ih (htakes s e hs (hkept [] e rest rfl)) fun front e' rest' hsplit => ?_
      exact hkept (e :: front) e' rest' (by rw [hsplit, List.cons_append])

/-- A property that does not hold at first holds behind the events exactly if it is given to stay. -/
theorem foldl_iff_given (P : σ → Prop) (hgives : ∀ s e, gives s e → P (follow s e)) (hnew : ∀ s e, ¬P s → P (follow s e) → gives s e)
    (htakes : ∀ s e, P s → (takes s e ↔ ¬P (follow s e))) (hs : ¬P s) :
    P (events.foldl follow s) ↔ Given follow gives takes s events := by
  constructor
  · intro h
    induction events using List.reverseRecOn with
    | nil => exact absurd h hs
    | append_singleton front e ih =>
        rw [List.foldl_append] at h
        by_cases hfront : P (front.foldl follow s)
        · obtain ⟨before, e₀, behind, rfl, hgiven, hkept⟩ := ih hfront
          refine ⟨before, e₀, behind ++ [e], by simp, hgiven, ?_⟩
          intro front' e' rest hsplit
          rcases List.eq_nil_or_concat rest with rfl | ⟨rest', last, rfl⟩
          · obtain ⟨rfl, he⟩ := List.append_inj' hsplit rfl
            obtain rfl := List.head_eq_of_cons_eq he
            exact fun htaken => (htakes _ _ hfront).mp htaken h
          · rw [List.concat_eq_append, ← List.cons_append, ← List.append_assoc] at hsplit
            exact hkept front' e' rest' (List.append_inj' hsplit rfl).1
        · exact ⟨front, e, [], rfl, hnew _ _ hfront h, fun front' e' rest hsplit => by simp at hsplit⟩
  · rintro ⟨before, e, behind, rfl, hgiven, hkept⟩
    rw [List.foldl_append, List.foldl_cons]
    have hstays : ∀ t e', P t → ¬takes t e' → P (follow t e') := by
      intro t e' ht hnot
      by_contra hlost
      exact hnot ((htakes t e' ht).mpr hlost)
    refine foldl_of_not_takes hstays (hgives _ e hgiven) fun front e' rest hsplit => ?_
    have hnot := hkept front e' rest hsplit
    rwa [List.foldl_append, List.foldl_cons] at hnot

end Turns

end GdbMcp
