import Mathlib.Order.Defs.Unbundled

/-! Computations over a mutable state that may raise, and their weakest preconditions. A raise keeps
the state written before it, as an exception does in an object-oriented program; handlers and
finalizers run on that state. Nothing here refers to a particular program. -/

namespace GdbMcp

/-- A computation that reads and writes a state and returns a value or raises an error. -/
structure Eff (σ ε α : Type) where
  run : σ → Except ε α × σ

namespace Eff

variable {σ τ ε α β : Type}

instance : Monad (Eff σ ε) where
  pure a := ⟨fun s => (.ok a, s)⟩
  bind m next := ⟨fun s =>
    match m.run s with
    | (.ok a, t) => (next a).run t
    | (.error e, t) => (.error e, t)⟩

def gets (f : σ → α) : Eff σ ε α := ⟨fun s => (.ok (f s), s)⟩

def modify (f : σ → σ) : Eff σ ε Unit := ⟨fun s => (.ok (), f s)⟩

def raise (e : ε) : Eff σ ε α := ⟨fun s => (.error e, s)⟩

def ofExcept (x : Except ε α) : Eff σ ε α := ⟨fun s => (x, s)⟩

/-- `try m except e: handler e`. -/
def attempt (m : Eff σ ε α) (handler : ε → Eff σ ε α) : Eff σ ε α := ⟨fun s =>
  match m.run s with
  | (.ok a, t) => (.ok a, t)
  | (.error e, t) => (handler e).run t⟩

/-- `try m finally: f`, for a finalizer that only writes the state. -/
def ensure (m : Eff σ ε α) (f : σ → σ) : Eff σ ε α := ⟨fun s => ((m.run s).1, f (m.run s).2)⟩

/-- Run a computation on a part of the state. -/
def zoom (read : σ → τ) (write : τ → σ → σ) (m : Eff τ ε α) : Eff σ ε α := ⟨fun s =>
  ((m.run (read s)).1, write (m.run (read s)).2 s)⟩

theorem run_bind_ok {m : Eff σ ε β} {next : β → Eff σ ε α} {b : β} {s t : σ} (h : m.run s = (.ok b, t)) :
    (m >>= next).run s = (next b).run t := by
  simp only [bind, h]

theorem run_map_ok {m : Eff σ ε β} {f : β → α} {b : β} {s t : σ} (h : m.run s = (.ok b, t)) :
    (f <$> m).run s = (.ok (f b), t) :=
  run_bind_ok h

theorem run_bind_error {m : Eff σ ε β} {next : β → Eff σ ε α} {e : ε} {s t : σ} (h : m.run s = (.error e, t)) :
    (m >>= next).run s = (.error e, t) := by
  simp only [bind, h]

/-- What follows depends on the outcome alone. -/
theorem run_bind_congr {m m' : Eff σ ε β} {next : β → Eff σ ε α} {s s' : σ} (h : m.run s = m'.run s') :
    (m >>= next).run s = (m' >>= next).run s' := by
  simp only [bind, h]

theorem run_attempt_ok {m : Eff σ ε α} {handler : ε → Eff σ ε α} {a : α} {s t : σ} (h : m.run s = (.ok a, t)) :
    (attempt m handler).run s = (.ok a, t) := by
  simp only [attempt, h]

theorem run_attempt_error {m : Eff σ ε α} {handler : ε → Eff σ ε α} {e : ε} {s t : σ}
    (h : m.run s = (.error e, t)) : (attempt m handler).run s = (handler e).run t := by
  simp only [attempt, h]

theorem ok_of_except_bind {x : Except ε β} {next : β → Except ε α} {a : α} (h : x >>= next = .ok a) :
    ∃ b, x = .ok b ∧ next b = .ok a := by
  cases x with
  | error e => exact nomatch h
  | ok b => exact ⟨b, rfl, h⟩

theorem ok_of_run_bind {m : Eff σ ε β} {next : β → Eff σ ε α} {a : α} {s t : σ}
    (h : (m >>= next).run s = (.ok a, t)) : ∃ b u, m.run s = (.ok b, u) ∧ (next b).run u = (.ok a, t) := by
  simp only [bind] at h
  rcases hrun : m.run s with ⟨e | b, u⟩ <;> rw [hrun] at h
  · exact nomatch (Prod.mk.inj h).1
  · exact ⟨b, u, rfl, h⟩

theorem ok_of_run_map {m : Eff σ ε β} {f : β → α} {a : α} {s t : σ} (h : (f <$> m).run s = (.ok a, t)) :
    ∃ b, m.run s = (.ok b, t) ∧ a = f b := by
  obtain ⟨b, u, hrun, hpure⟩ := ok_of_run_bind h
  obtain ⟨ha, rfl⟩ := Prod.mk.inj hpure
  exact ⟨b, hrun, (Except.ok.inj ha).symm⟩

/-- A last step that only makes the value does not show in the state. -/
theorem run_bind_pure_state (m : Eff σ ε β) (f : β → α) (s : σ) :
    ((m >>= fun b => pure (f b)).run s).2 = (m.run s).2 := by
  simp only [bind, pure]
  rcases m.run s with ⟨e | b, t⟩ <;> rfl

/-- Weakest precondition: `Q` after a return, `R` after a raise. -/
def wp (m : Eff σ ε α) (Q : α → σ → Prop) (R : ε → σ → Prop) (s : σ) : Prop :=
  match m.run s with
  | (.ok a, t) => Q a t
  | (.error e, t) => R e t

section Rules

variable {Q Q' : α → σ → Prop} {R R' : ε → σ → Prop} {s : σ}

theorem wp_mono {m : Eff σ ε α} (h : wp m Q R s) (hQ : ∀ a t, Q a t → Q' a t)
    (hR : ∀ e t, R e t → R' e t) : wp m Q' R' s := by
  unfold wp at h ⊢
  rcases hrun : m.run s with ⟨e | a, t⟩ <;> rw [hrun] at h
  · exact hR e t h
  · exact hQ a t h

theorem wp_true (m : Eff σ ε α) (s : σ) : wp m (fun _ _ => True) (fun _ _ => True) s := by
  unfold wp
  split <;> trivial

theorem wp_ok {m : Eff σ ε α} (h : wp m Q R s) {a : α} {t : σ} (hrun : m.run s = (.ok a, t)) :
    Q a t := by
  unfold wp at h
  rwa [hrun] at h

/-- What holds of the state after a return and after a raise holds of the state of the outcome. -/
theorem wp_state {m : Eff σ ε α} {I : σ → Prop} (h : wp m (fun _ => I) (fun _ => I) s) : I (m.run s).2 := by
  unfold wp at h
  split at h <;> simp_all

theorem wp_and {m : Eff σ ε α} (h : wp m Q R s) (h' : wp m Q' R' s) :
    wp m (fun a t => Q a t ∧ Q' a t) (fun e t => R e t ∧ R' e t) s := by
  unfold wp at h h' ⊢
  rcases hrun : m.run s with ⟨e | a, t⟩ <;> rw [hrun] at h h' <;> exact ⟨h, h'⟩

/-- Where every outcome has a property exactly under a condition, the computation has. -/
theorem wp_iff_of_wp {m : Eff σ ε α} {p : Prop} (h : wp m Q R s)
    (hQ : ∀ a t, Q a t → (Q' a t ↔ p)) (hR : ∀ e t, R e t → (R' e t ↔ p)) : wp m Q' R' s ↔ p := by
  unfold wp at h ⊢
  rcases hrun : m.run s with ⟨e | a, t⟩ <;> rw [hrun] at h
  · exact hR e t h
  · exact hQ a t h

@[simp] theorem wp_pure (a : α) : wp (pure a : Eff σ ε α) Q R s ↔ Q a s := Iff.rfl

@[simp] theorem wp_bind (m : Eff σ ε β) (next : β → Eff σ ε α) :
    wp (m >>= next) Q R s ↔ wp m (fun b t => wp (next b) Q R t) R s := by
  simp only [wp, bind]
  rcases m.run s with ⟨e | a, t⟩ <;> rfl

@[simp] theorem wp_map (f : β → α) (m : Eff σ ε β) :
    wp (f <$> m) Q R s ↔ wp m (fun b t => Q (f b) t) R s := by
  rw [show f <$> m = m >>= fun b => pure (f b) from rfl, wp_bind]
  rfl

@[simp] theorem wp_gets (f : σ → α) : wp (gets f : Eff σ ε α) Q R s ↔ Q (f s) s := Iff.rfl

@[simp] theorem wp_modify (f : σ → σ) {Q : Unit → σ → Prop} :
    wp (modify f : Eff σ ε Unit) Q R s ↔ Q () (f s) := Iff.rfl

@[simp] theorem wp_raise (e : ε) : wp (raise e : Eff σ ε α) Q R s ↔ R e s := Iff.rfl

theorem wp_ofExcept (x : Except ε α) :
    wp (ofExcept x : Eff σ ε α) Q R s ↔ (∀ a, x = .ok a → Q a s) ∧ (∀ e, x = .error e → R e s) := by
  cases x <;> simp [wp, ofExcept]

@[simp] theorem wp_attempt (m : Eff σ ε α) (handler : ε → Eff σ ε α) :
    wp (attempt m handler) Q R s ↔ wp m Q (fun e t => wp (handler e) Q R t) s := by
  simp only [wp, attempt]
  rcases m.run s with ⟨e | a, t⟩ <;> rfl

@[simp] theorem wp_ensure (m : Eff σ ε α) (f : σ → σ) :
    wp (ensure m f) Q R s ↔ wp m (fun a t => Q a (f t)) (fun e t => R e (f t)) s := by
  simp only [wp, ensure]
  rcases m.run s with ⟨e | a, t⟩ <;> rfl

@[simp] theorem wp_zoom (read : σ → τ) (write : τ → σ → σ) (m : Eff τ ε α) :
    wp (zoom read write m) Q R s ↔
      wp m (fun a t => Q a (write t s)) (fun e t => R e (write t s)) (read s) := by
  simp only [wp, zoom]
  rcases m.run (read s) with ⟨e | a, t⟩ <;> rfl

end Rules

/-! ### Preorders

A preorder on states that every primitive step follows is followed by the whole computation, whether
it returns or raises. -/

/-- Every outcome of `m` is related by `R` to the state it started in. -/
structure Within (R : σ → σ → Prop) (m : Eff σ ε α) : Prop where
  outcome : ∀ s, wp m (fun _ t => R s t) (fun _ t => R s t) s

theorem Within.run {R : σ → σ → Prop} {m : Eff σ ε α} (hm : Within R m) (s : σ) :
    R s (m.run s).2 :=
  wp_state (hm.outcome s)

theorem Within.of_run {R : σ → σ → Prop} {m : Eff σ ε α} (hm : ∀ s, R s (m.run s).2) : Within R m := by
  refine ⟨fun s => ?_⟩
  have hs := hm s
  unfold wp
  split <;> rename_i hrun <;> rw [hrun] at hs <;> exact hs

theorem Within.mono {R R' : σ → σ → Prop} {m : Eff σ ε α} (hm : Within R m)
    (himp : ∀ s t, R s t → R' s t) : Within R' m :=
  ⟨fun s => wp_mono (hm.outcome s) (fun _ t h => himp s t h) fun _ t h => himp s t h⟩

section Preorders

variable {R : σ → σ → Prop}

theorem Within.pure [Std.Refl R] (a : α) : Within R (Pure.pure a : Eff σ ε α) := ⟨fun s => refl_of R s⟩

theorem Within.gets [Std.Refl R] (f : σ → α) : Within R (Eff.gets f : Eff σ ε α) := ⟨fun s => refl_of R s⟩

theorem Within.raise [Std.Refl R] (e : ε) : Within R (Eff.raise e : Eff σ ε α) := ⟨fun s => refl_of R s⟩

theorem Within.ofExcept [Std.Refl R] (x : Except ε α) : Within R (Eff.ofExcept x : Eff σ ε α) := by
  refine ⟨fun s => ?_⟩
  rw [wp_ofExcept]
  exact ⟨fun _ _ => refl_of R s, fun _ _ => refl_of R s⟩

theorem Within.bind [IsTrans σ R] {m : Eff σ ε β} {next : β → Eff σ ε α} (hm : Within R m)
    (hnext : ∀ b, Within R (next b)) : Within R (m >>= next) := by
  refine ⟨fun s => ?_⟩
  rw [wp_bind]
  refine wp_mono (hm.outcome s) (fun b t hst => ?_) (fun _ _ h => h)
  exact wp_mono ((hnext b).outcome t) (fun _ _ h => trans_of R hst h) (fun _ _ h => trans_of R hst h)

/-- Only the values that the first computation can return matter. -/
theorem Within.bind_returned [IsTrans σ R] {m : Eff σ ε β} {next : β → Eff σ ε α} (hm : Within R m)
    (hnext : ∀ b s t, m.run s = (.ok b, t) → Within R (next b)) : Within R (m >>= next) := by
  refine Within.of_run fun s => ?_
  have hs := hm.run s
  rcases hrun : m.run s with ⟨e | b, t⟩
  · rw [run_bind_error hrun]
    rwa [hrun] at hs
  · rw [hrun] at hs
    rw [run_bind_ok hrun]
    exact trans_of R hs ((hnext b s t hrun).run t)

/-- What follows a computation leads on from where it has ended. -/
theorem Within.run_bind [Std.Refl R] {m : Eff σ ε β} {next : β → Eff σ ε α} (hnext : ∀ b, Within R (next b)) (s : σ) :
    R (m.run s).2 ((m >>= next).run s).2 := by
  rcases hrun : m.run s with ⟨e | b, t⟩
  · rw [run_bind_error hrun]
    exact refl_of R t
  · rw [run_bind_ok hrun]
    exact (hnext b).run t

theorem Within.ofExcept_bind [Std.Refl R] {x : Except ε β} {next : β → Eff σ ε α}
    (hnext : ∀ b, x = .ok b → Within R (next b)) : Within R (Eff.ofExcept x >>= next) := by
  cases x with
  | ok b => exact hnext b rfl
  | error e => exact ⟨fun s => refl_of R s⟩

theorem Within.map {m : Eff σ ε β} (f : β → α) (hm : Within R m) : Within R (f <$> m) := by
  refine ⟨fun s => ?_⟩
  rw [wp_map]
  exact hm.outcome s

theorem Within.attempt [IsTrans σ R] {m : Eff σ ε α} {handler : ε → Eff σ ε α}
    (hm : Within R m) (hhandler : ∀ e, Within R (handler e)) : Within R (Eff.attempt m handler) := by
  refine ⟨fun s => ?_⟩
  rw [wp_attempt]
  refine wp_mono (hm.outcome s) (fun _ _ h => h) (fun e t hst => ?_)
  exact wp_mono ((hhandler e).outcome t) (fun _ _ h => trans_of R hst h) (fun _ _ h => trans_of R hst h)

theorem Within.ensure [IsTrans σ R] {m : Eff σ ε α} {f : σ → σ} (hm : Within R m) (hf : ∀ s, R s (f s)) :
    Within R (Eff.ensure m f) := by
  refine ⟨fun s => ?_⟩
  rw [wp_ensure]
  exact wp_mono (hm.outcome s) (fun _ t h => trans_of R h (hf t)) fun _ t h => trans_of R h (hf t)

theorem Within.ite {c : Prop} [Decidable c] {m m' : Eff σ ε α} (hm : Within R m) (hm' : Within R m') :
    Within R (if c then m else m') := by
  split
  · exact hm
  · exact hm'

theorem Within.modify {f : σ → σ} (hf : ∀ s, R s (f s)) : Within R (Eff.modify f : Eff σ ε Unit) := ⟨hf⟩

end Preorders

/-- The preorder of the steps that keep an invariant. -/
def Keeps (I : σ → Prop) (s t : σ) : Prop := I s → I t

instance (I : σ → Prop) : Std.Refl (Keeps I) := ⟨fun _ h => h⟩

instance (I : σ → Prop) : IsTrans σ (Keeps I) := ⟨fun _ _ _ h h' hs => h' (h hs)⟩

/-- The preorder of the steps that leave a part of the state as it is. -/
def Same (f : σ → τ) (s t : σ) : Prop := f t = f s

instance (f : σ → τ) : Std.Refl (Same f) := ⟨fun _ => rfl⟩

instance (f : σ → τ) : IsTrans σ (Same f) := ⟨fun _ _ _ h h' => Eq.trans h' h⟩

/-! ### Returning -/

section Returning

variable {s : σ} {p q : Prop}

/-- A computation returns from a state. -/
def ReturnsFrom (m : Eff σ ε α) (s : σ) : Prop := wp m (fun _ _ => True) (fun _ _ => False) s

theorem returnsFrom_ofExcept (x : Except ε α) (s : σ) : ReturnsFrom (ofExcept x) s ↔ ∃ a, x = .ok a := by
  cases x with
  | ok a => exact iff_of_true trivial ⟨a, rfl⟩
  | error e => exact iff_of_false id nofun

theorem returnsFrom_zoom (read : σ → τ) (write : τ → σ → σ) (m : Eff τ ε α) (s : σ) :
    ReturnsFrom (zoom read write m) s ↔ ReturnsFrom m (read s) := wp_zoom read write m

theorem returnsFrom_ite {c : Prop} [Decidable c] {m m' : Eff σ ε α} (hm : c → (ReturnsFrom m s ↔ p))
    (hm' : ¬c → (ReturnsFrom m' s ↔ p)) : ReturnsFrom (if c then m else m') s ↔ p := by
  split
  · rename_i h
    exact hm h
  · rename_i h
    exact hm' h

/-- A computation with another one behind it returns if and only if both do. -/
theorem returnsFrom_bind {m : Eff σ ε β} {next : β → Eff σ ε α} (hm : ReturnsFrom m s ↔ p)
    (hnext : ∀ b t, m.run s = (.ok b, t) → (ReturnsFrom (next b) t ↔ q)) : ReturnsFrom (m >>= next) s ↔ p ∧ q := by
  rw [ReturnsFrom, wp_bind]
  rw [ReturnsFrom] at hm
  unfold wp at hm ⊢
  rcases hrun : m.run s with ⟨e | b, t⟩ <;> rw [hrun] at hm
  · exact iff_of_false id fun h => hm.mpr h.1
  · exact (hnext b t hrun).trans (iff_and_self.mpr fun _ => hm.mp trivial)

/-- The same of a result. -/
theorem ok_bind_iff {x : Except ε β} {next : β → Except ε α} (hx : (∃ b, x = .ok b) ↔ p)
    (hnext : ∀ b, x = .ok b → ((∃ a, next b = .ok a) ↔ q)) : (∃ a, x >>= next = .ok a) ↔ p ∧ q := by
  cases x with
  | error e => exact iff_of_false nofun fun h => nomatch hx.mpr h.1
  | ok b => exact (hnext b rfl).trans (iff_and_self.mpr fun _ => hx.mp ⟨b, rfl⟩)

end Returning

end Eff
end GdbMcp
