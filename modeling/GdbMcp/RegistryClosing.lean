import GdbMcp.RegistryPublication

/-! Closing sessions are not handed out. The mark of a closing session is shared by all its closes: a close
that fails takes it away from the others, and so does the end of a shutdown. -/

namespace GdbMcp.RegistrySystem

open RegistryCall

variable {s s' : RegistrySystem} {l : Option Nat} {c : Nat} {id : Int} {session : SessionRef}

/-- A close of the session has marked it, and has not returned. -/
def Closing (s : RegistrySystem) (id : Int) : Prop := ∃ c session, (s.calls c).closing = some (id, session)

/-- A close of the session has returned success. -/
def Closed (s : RegistrySystem) (id : Int) : Prop :=
  ∃ c message warnings, s.calls c = returned (.closed id (.success message warnings))

/-- The next step of the call takes the mark of a session away and leaves the session in the table. -/
def Unmarks (s : RegistrySystem) (c : Nat) (id : Int) : Prop :=
  s.calls c = inconsistent id ∨ (∃ session outcome, s.calls c = stopped id session outcome ∧ ¬outcome.Stopped) ∨
    ∃ results, s.calls c = shuttingDown [] results

/-- No step takes the mark of a registered session away that another close is still closing. -/
def MarksKept (s : RegistrySystem) (l : Option Nat) : Prop :=
  ∀ c id, l = some c → s.Unmarks c id → s.registry.getSession id ≠ none →
    ∀ c' session, (s.calls c').closing = some (id, session) → c' = c

/-- The step resolves a session. -/
def HandsOut (s s' : RegistrySystem) (id : Int) : Prop :=
  ∃ c session warnings, s.calls c = requested (.resolveSession id) ∧
    s'.calls c = returned (.resolved id (.success session warnings))

/-! ### What a step does to the marks -/

/-- A call closes the session it has marked, until it is over. -/
theorem Step.closing (h : Step s l s') (c' : Nat) (hclosing : (s'.calls c').closing = some (id, session)) :
    (s.calls c').closing = some (id, session) ∨
      l = some c' ∧ s.registry.getSession id = some session ∧ s'.registry = s.registry.markClosing id := by
  rcases h.calls c' with hsame | rfl | ⟨-, session', hworker⟩
  · exact .inl (by rw [← hsame, hclosing])
  · cases h with
    | mark hcall hsession =>
        rw [calls_gotoWith, if_pos rfl] at hclosing
        cases hclosing
        exact .inr ⟨rfl, hsession, rfl⟩
    | readController hcall =>
        refine .inl ?_
        rw [calls_goto, if_pos rfl] at hclosing
        rw [hcall]
        split at hclosing <;> exact hclosing
    | readRunning hcall =>
        refine .inl ?_
        rw [calls_goto, if_pos rfl] at hclosing
        rw [hcall]
        split at hclosing
        · exact nomatch hclosing
        · exact hclosing
    | acquire hcall =>
        refine .inl ?_
        rw [calls_goto, if_pos rfl] at hclosing
        rw [hcall]
        exact hclosing
    | stop outcome hcall =>
        refine .inl ?_
        rw [calls_goto, if_pos rfl] at hclosing
        rw [hcall]
        exact hclosing
    | release hcall =>
        refine .inl ?_
        rw [calls_goto, if_pos rfl] at hclosing
        rw [hcall]
        exact hclosing
    | _ => simp [RegistryCall.closing] at hclosing
  · rw [hworker] at hclosing
    exact nomatch hclosing

/-- A close of the session is removing it in this step. -/
def Removes (s s' : RegistrySystem) (l : Option Nat) (id : Int) : Prop :=
  ∃ c session, l = some c ∧ (s.calls c).closing = some (id, session) ∧
    s'.registry = s.registry.removeClosed id session

/-- A mark is kept, unless it is taken away or the session is removed. -/
theorem Step.isClosing (h : Step s l s') (id : Int) (hmark : s.registry.isClosing id = true) :
    s'.registry.isClosing id = true ∨ (∃ c, l = some c ∧ s.Unmarks c id) ∨ s.Removes s' l id ∨
      s'.registry.getSession id = none := by
  cases h with
  | mark =>
      refine .inl ((SessionRegistry.isClosing_markClosing _ _ id).trans ?_)
      rw [hmark, Bool.or_true]
  | @refuse c id' hcall =>
      by_cases hid : id = id'
      · subst hid
        exact .inr (.inl ⟨c, rfl, .inl hcall⟩)
      · refine .inl ((SessionRegistry.isClosing_discardMark _ _ id).trans ?_)
        simp [hid, hmark]
  | @keepUnstopped c id' session outcome hcall hfailed =>
      by_cases hid : id = id'
      · subst hid
        exact .inr (.inl ⟨c, rfl, .inr (.inl ⟨session, outcome, hcall, hfailed⟩)⟩)
      · refine .inl ((SessionRegistry.isClosing_discardMark _ _ id).trans ?_)
        simp [hid, hmark]
  | @removeInactive c id' session hcall =>
      by_cases hid : id = id'
      · subst hid
        exact .inr (.inr (.inl ⟨c, session, rfl, by rw [hcall]; rfl, rfl⟩))
      · refine .inl ((SessionRegistry.isClosing_removeClosed _ _ id _).trans ?_)
        simp [hid, hmark]
  | @removeStopped c id' session outcome hcall =>
      by_cases hid : id = id'
      · subst hid
        exact .inr (.inr (.inl ⟨c, session, rfl, by rw [hcall]; rfl, rfl⟩))
      · refine .inl ((SessionRegistry.isClosing_removeClosed _ _ id _).trans ?_)
        simp [hid, hmark]
  | takeAll => exact .inr (.inr (.inr rfl))
  | @clear c results hcall => exact .inr (.inl ⟨c, rfl, .inr (.inr ⟨results, hcall⟩)⟩)
  | _ => exact .inl hmark

/-- A call that takes a mark away has returned. -/
theorem Step.closing_of_unmarks (h : Step s (some c) s') (hunmarks : s.Unmarks c id) :
    (s'.calls c).closing = none := by
  rcases hunmarks with hcall | ⟨session, outcome, hcall, -⟩ | ⟨results, hcall⟩ <;>
    cases h <;> simp_all [RegistryCall.closing]

theorem StopOutcome.isSuccess_closeResult {outcome : StopOutcome} :
    outcome.closeResult.isSuccess = true ↔ outcome.Stopped := by
  cases outcome with
  | ok result => exact Iff.rfl
  | error e => exact ⟨nofun, nofun⟩

/-- A close returns success as it removes the session. -/
theorem Step.closed (h : Step s l s') (hclosed : s'.Closed id) : s.Closed id ∨ s.Removes s' l id := by
  obtain ⟨c, message, warnings, hcall⟩ := hclosed
  rcases h.calls c with hsame | rfl | ⟨-, session, hworker⟩
  · exact .inl ⟨c, message, warnings, by rw [← hsame, hcall]⟩
  · cases h with
    | @removeInactive _ id' session hinactive =>
        rw [calls_gotoWith, if_pos rfl] at hcall
        cases hcall
        exact .inr ⟨c, session, rfl, by rw [hinactive]; rfl, rfl⟩
    | @removeStopped _ id' session outcome hstopped =>
        rw [calls_gotoWith, if_pos rfl] at hcall
        obtain ⟨rfl, -⟩ := RegistryReply.closed.inj (RegistryCall.returned.inj hcall)
        exact .inr ⟨c, session, rfl, by rw [hstopped]; rfl, rfl⟩
    | @keepUnstopped _ id' session outcome hstopped hfailed =>
        rw [calls_gotoWith, if_pos rfl] at hcall
        obtain ⟨-, hresult⟩ := RegistryReply.closed.inj (RegistryCall.returned.inj hcall)
        exact absurd (StopOutcome.isSuccess_closeResult.mp (by rw [hresult]; rfl)) hfailed
    | readController =>
        rw [calls_goto, if_pos rfl] at hcall
        split at hcall <;> exact nomatch hcall
    | readRunning =>
        rw [calls_goto, if_pos rfl] at hcall
        split at hcall <;> exact nomatch hcall
    | _ => simp [SessionRegistry.unknownSessionError] at hcall
  · exact nomatch hworker.symm.trans hcall

/-! ### Invariants -/

/-- A close works on the session that is registered under its id, as long as one is. -/
structure ClosesValid (s : RegistrySystem) : Prop where
  started : ∀ c id session, (s.calls c).closing = some (id, session) → ∃ c', s.Started c' id
  same : ∀ c id session session', (s.calls c).closing = some (id, session) →
    s.registry.getSession id = some session' → session' = session
  gone : ∀ id, s.Closed id → (∃ c', s.Started c' id) ∧ s.registry.getSession id = none

/-- A session that is not published anew in the step was registered before. -/
theorem Step.registered (h : Step s l s') (hids : IdsValid s) {c₀ : Nat} (hstarted : s.Started c₀ id)
    (hsession : s'.registry.getSession id = some session) : s.registry.getSession id = some session := by
  cases h.table with
  | same hsame => rw [← hsame, hsession]
  | @publish c' _ id' session' hid hnew _ htable =>
      have hne : id ≠ id' := by
        rintro rfl
        exact hnew c₀ id hstarted (hids.distinct c₀ c' id hstarted.allocatedId hid)
      rwa [htable, if_neg hne] at hsession
  | remove _ htable =>
      rw [htable] at hsession
      split at hsession
      · exact nomatch hsession
      · exact hsession
  | takeAll _ htable => exact nomatch (htable id).symm.trans hsession

theorem ClosesValid.initial (h : Initial s) : ClosesValid s := by
  obtain ⟨-, requests, hcalls⟩ := h
  constructor
  · intro c id session hclosing
    rw [hcalls] at hclosing
    exact nomatch hclosing
  · intro c id session session' hclosing
    rw [hcalls] at hclosing
    exact nomatch hclosing
  · rintro id ⟨c, message, warnings, hcall⟩
    rw [hcalls] at hcall
    exact nomatch hcall

theorem ClosesValid.removed (hs : ClosesValid s) (h : s.Removes s' l id) : s'.registry.getSession id = none := by
  obtain ⟨c, session, -, hclosing, hregistry⟩ := h
  rw [hregistry, SessionRegistry.getSession_removeClosed]
  cases hsession : s.registry.getSession id with
  | none => exact ite_self _
  | some session' =>
      obtain rfl := hs.same c id session session' hclosing hsession
      exact if_pos ⟨rfl, rfl⟩

theorem ClosesValid.step (hs : ClosesValid s) (hids : IdsValid s) (htable : TableValid s) (h : Step s l s') :
    ClosesValid s' := by
  constructor
  · intro c id session hclosing
    rcases h.closing c hclosing with hold | ⟨-, hsession, -⟩
    · obtain ⟨c', hstarted⟩ := hs.started c id session hold
      exact ⟨c', h.started hstarted⟩
    · obtain ⟨c', hstarted⟩ := htable id session hsession
      exact ⟨c', h.started hstarted⟩
  · intro c id session session' hclosing hsession
    rcases h.closing c hclosing with hold | ⟨-, hregistered, hregistry⟩
    · obtain ⟨c', hstarted⟩ := hs.started c id session hold
      exact hs.same c id session session' hold (h.registered hids hstarted hsession)
    · rw [hregistry, SessionRegistry.getSession_markClosing, hregistered] at hsession
      exact (Option.some.inj hsession).symm
  · intro id hclosed
    rcases h.closed hclosed with hold | hremoves
    · obtain ⟨⟨c', hstarted⟩, hnone⟩ := hs.gone id hold
      exact ⟨⟨c', h.started hstarted⟩, hids.stays_removed hstarted hnone h⟩
    · have hnone := hs.removed hremoves
      obtain ⟨c, session, -, hclosing, -⟩ := hremoves
      obtain ⟨c', hstarted⟩ := hs.started c id session hclosing
      exact ⟨⟨c', h.started hstarted⟩, hnone⟩

theorem Reached.closesValid (h : Reached s) : ClosesValid s :=
  h.invariant_with (J := Reached) (fun _ ht => ht) (fun _ => .initial)
    fun _ _ _ ht hs _ hstep => hs.step ht.idsValid ht.tableValid hstep

/-- A registered session that a close is closing carries the mark. -/
def Marked (s : RegistrySystem) : Prop :=
  ∀ id, s.registry.getSession id ≠ none → s.Closing id → s.registry.isClosing id = true

theorem Marked.step (hs : Marked s) (hreached : Reached s) (hkept : s.MarksKept l) (h : Step s l s') :
    Marked s' := by
  rintro id hregistered ⟨c, session, hclosing⟩
  rcases h.closing c hclosing with hold | ⟨-, -, hregistry⟩
  · obtain ⟨c', hstarted⟩ := hreached.closesValid.started c id session hold
    obtain ⟨session', hsession'⟩ := Option.ne_none_iff_exists'.mp hregistered
    have hbefore : s.registry.getSession id ≠ none := by
      rw [h.registered hreached.idsValid hstarted hsession']
      exact Option.some_ne_none _
    rcases h.isClosing id (hs id hbefore ⟨c, session, hold⟩) with hmark | ⟨c', rfl, hunmarks⟩ | hremoves | hnone
    · exact hmark
    · obtain rfl := hkept c' id rfl hunmarks hbefore c session hold
      exact nomatch (h.closing_of_unmarks hunmarks).symm.trans hclosing
    · exact absurd (hreached.closesValid.removed hremoves) hregistered
    · exact absurd hnone hregistered
  · rw [hregistry, SessionRegistry.isClosing_markClosing]
    simp

/-! ### All interleavings -/

theorem marked_of_marksKept (h : Reachable Initial Step MarksKept s) : Marked s := by
  refine h.invariant_with (J := Reached) (fun t ht => ht.mono fun _ _ _ => trivial) (fun t ht id hregistered => ?_)
    fun t l t' hreached hs hkept hstep => hs.step hreached hkept hstep
  rw [ht.1] at hregistered
  exact absurd rfl hregistered

end GdbMcp.RegistrySystem
