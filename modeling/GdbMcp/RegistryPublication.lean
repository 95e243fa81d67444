import GdbMcp.RegistrySteps

/-! Publication in the registry: an id is allocated once, a session can be found under it from the return of
its start to its removal, and a close removes it only behind a stop or where there is nothing to stop. -/

namespace GdbMcp.RegistrySystem

open RegistryCall

variable {s s' : RegistrySystem} {l : Option Nat} {c : Nat}

/-- The call has started a session, and its id has been returned. -/
def Started (s : RegistrySystem) (c : Nat) (id : Int) : Prop :=
  ∃ info warnings, s.calls c = returned (.started (some id) (.success info warnings))

/-- A close at the point where it removes the session: the session had neither a controller nor did it run,
or its stop has returned success. -/
def MayRemove (s : RegistrySystem) (c : Nat) (id : Int) : Prop :=
  (∃ session, s.calls c = inactive id session) ∨
    ∃ session outcome, s.calls c = stopped id session outcome ∧ outcome.Stopped

/-! ### What a step does to the table and to the ids -/

/-- The table changes by a publication, by a removal and by a shutdown. -/
inductive TableStep (s : RegistrySystem) : Option Nat → RegistrySystem → Prop
  | same {l : Option Nat} {s' : RegistrySystem}
      (h : ∀ id, s'.registry.getSession id = s.registry.getSession id) : TableStep s l s'
  | publish {c : Nat} {s' : RegistrySystem} {id : Int} {session : SessionRef}
      (hid : (s.calls c).allocatedId = some id)
      (hnew : ∀ c' id', s.Started c' id' → c' ≠ c) (hstarted : s'.Started c id)
      (h : ∀ id', s'.registry.getSession id' = if id' = id then some session else s.registry.getSession id') :
      TableStep s (some c) s'
  | remove {c : Nat} {s' : RegistrySystem} {id : Int} {session : SessionRef} (hmay : s.MayRemove c id)
      (h : ∀ id', s'.registry.getSession id' =
        if id' = id ∧ s.registry.getSession id = some session then none else s.registry.getSession id') :
      TableStep s (some c) s'
  | takeAll {c : Nat} {s' : RegistrySystem} (hcall : s.calls c = requested .shutdownAll)
      (h : ∀ id, s'.registry.getSession id = none) : TableStep s (some c) s'

theorem Step.table (h : Step s l s') : TableStep s l s' := by
  cases h with
  | @publish c id session info warnings hcall =>
      refine .publish (by rw [hcall]; rfl) ?_ ⟨info, warnings, by simp⟩
        fun id' => SessionRegistry.getSession_publish _ id id' session
      rintro c' id' ⟨info', warnings', hstarted⟩ rfl
      exact nomatch hcall.symm.trans hstarted
  | @removeInactive c id session hcall =>
      exact .remove (.inl ⟨session, hcall⟩) fun id' => SessionRegistry.getSession_removeClosed _ id id' session
  | @removeStopped c id session outcome hcall hstopped =>
      exact .remove (.inr ⟨session, outcome, hcall, hstopped⟩)
        fun id' => SessionRegistry.getSession_removeClosed _ id id' session
  | takeAll hcall => exact .takeAll hcall fun _ => rfl
  | _ => exact .same fun _ => rfl

/-- A call keeps its id, gives it up, or allocates the next one. -/
theorem Step.allocatedId (h : Step s (some c) s') :
    (s'.calls c).allocatedId = (s.calls c).allocatedId ∨ (s'.calls c).allocatedId = none ∨
      (s'.calls c).allocatedId = some s.registry.nextSessionId ∧
        s'.registry.nextSessionId = s.registry.nextSessionId + 1 := by
  cases h with
  | allocate session hcall => exact .inr (.inr ⟨by simp [RegistryCall.allocatedId], rfl⟩)
  | startSucceeds info warnings hcall =>
      refine .inl ?_
      rw [hcall]
      simp [RegistryCall.allocatedId]
  | publish hcall =>
      refine .inl ?_
      rw [hcall]
      simp [RegistryCall.allocatedId]
  | readController hcall =>
      refine .inr (.inl ?_)
      rw [calls_goto, if_pos rfl]
      split <;> rfl
  | readRunning hcall =>
      refine .inr (.inl ?_)
      rw [calls_goto, if_pos rfl]
      split <;> rfl
  | _ =>
      refine .inr (.inl ?_)
      simp [RegistryCall.allocatedId]

theorem nextSessionId_removeClosed (r : SessionRegistry) (id : Int) (session : SessionRef) :
    (r.removeClosed id session).nextSessionId = r.nextSessionId := by
  rw [SessionRegistry.removeClosed]
  split <;> rfl

theorem Step.nextSessionId_le (h : Step s l s') : s.registry.nextSessionId ≤ s'.registry.nextSessionId := by
  cases h with
  | allocate =>
      change s.registry.nextSessionId ≤ s.registry.nextSessionId + 1
      omega
  | removeInactive => exact (nextSessionId_removeClosed ..).ge
  | removeStopped => exact (nextSessionId_removeClosed ..).ge
  | _ => exact le_rfl

theorem Step.allocatedId_of (h : Step s l s') (c' : Nat) :
    (s'.calls c').allocatedId = (s.calls c').allocatedId ∨ (s'.calls c').allocatedId = none ∨
      l = some c' ∧ (s'.calls c').allocatedId = some s.registry.nextSessionId ∧
        s'.registry.nextSessionId = s.registry.nextSessionId + 1 := by
  rcases h.calls c' with hsame | rfl | ⟨-, session, hworker⟩
  · exact .inl (congrArg _ hsame)
  · rcases h.allocatedId with hkept | hnone | hnew
    · exact .inl hkept
    · exact .inr (.inl hnone)
    · exact .inr (.inr ⟨rfl, hnew⟩)
  · exact .inr (.inl (by rw [hworker]; rfl))

/-- A call that has returned does nothing more. -/
theorem Step.returned (h : Step s l s') {reply : RegistryReply} (hcall : s.calls c = returned reply) :
    s'.calls c = returned reply := by
  rcases h.calls c with hsame | rfl | ⟨hrequested, -⟩
  · exact hsame.trans hcall
  · cases h with
    | _ => simp_all
  · exact nomatch hcall.symm.trans hrequested

theorem Step.started {id : Int} (h : Step s l s') (hstarted : s.Started c id) : s'.Started c id := by
  obtain ⟨info, warnings, hcall⟩ := hstarted
  exact ⟨info, warnings, h.returned hcall⟩

/-! ### Invariants -/

/-- The ids of the starts that are under way or have succeeded. -/
structure IdsValid (s : RegistrySystem) : Prop where
  below : ∀ c id, (s.calls c).allocatedId = some id → id < s.registry.nextSessionId
  distinct : ∀ c c' id, (s.calls c).allocatedId = some id → (s.calls c').allocatedId = some id → c = c'

theorem IdsValid.initial (h : Initial s) : IdsValid s := by
  obtain ⟨-, requests, hcalls⟩ := h
  have hnone : ∀ c, (s.calls c).allocatedId = none := fun c => by rw [hcalls]; rfl
  constructor
  · intro c id hid
    exact nomatch (hnone c).symm.trans hid
  · intro c _ id hid
    exact nomatch (hnone c).symm.trans hid

theorem IdsValid.step (hs : IdsValid s) (h : Step s l s') : IdsValid s' := by
  have hle := h.nextSessionId_le
  constructor
  · intro c id hid
    rcases h.allocatedId_of c with hkept | hnone | ⟨-, hnew, hnext⟩
    · have := hs.below c id (hkept.symm.trans hid)
      omega
    · exact nomatch hnone.symm.trans hid
    · have : s.registry.nextSessionId = id := Option.some.inj (hnew.symm.trans hid)
      omega
  · intro c c' id hid hid'
    rcases h.allocatedId_of c with hkept | hnone | ⟨hc, hnew, -⟩
    · have hold := hkept.symm.trans hid
      rcases h.allocatedId_of c' with hkept' | hnone' | ⟨-, hnew', -⟩
      · exact hs.distinct c c' id hold (hkept'.symm.trans hid')
      · exact nomatch hnone'.symm.trans hid'
      · have := hs.below c id hold
        have : s.registry.nextSessionId = id := Option.some.inj (hnew'.symm.trans hid')
        omega
    · exact nomatch hnone.symm.trans hid
    · have hid : s.registry.nextSessionId = id := Option.some.inj (hnew.symm.trans hid)
      rcases h.allocatedId_of c' with hkept' | hnone' | ⟨hc', -⟩
      · have := hs.below c' id (hkept'.symm.trans hid')
        omega
      · exact nomatch hnone'.symm.trans hid'
      · exact Option.some.inj (hc.symm.trans hc')

theorem Started.allocatedId {id : Int} (h : s.Started c id) : (s.calls c).allocatedId = some id := by
  obtain ⟨info, warnings, hcall⟩ := h
  rw [hcall]
  rfl

/-- Every session in the table has been started under its id. -/
def TableValid (s : RegistrySystem) : Prop :=
  ∀ id session, s.registry.getSession id = some session → ∃ c, s.Started c id

theorem TableValid.initial (h : Initial s) : TableValid s := by
  intro id session hsession
  rw [h.1] at hsession
  exact nomatch hsession

theorem TableValid.step (hs : TableValid s) (h : Step s l s') : TableValid s' := by
  intro id session hsession
  have hold : ∀ session', s.registry.getSession id = some session' → ∃ c, s'.Started c id := by
    intro session' hsession'
    obtain ⟨c, hstarted⟩ := hs id session' hsession'
    exact ⟨c, h.started hstarted⟩
  cases h.table with
  | same hsame => exact hold session (by rw [← hsame, hsession])
  | @publish c _ id' session' _ _ hstarted htable =>
      rw [htable] at hsession
      by_cases hid : id = id'
      · exact ⟨c, hid ▸ hstarted⟩
      · rw [if_neg hid] at hsession
        exact hold session hsession
  | remove _ htable =>
      rw [htable] at hsession
      split at hsession
      · exact nomatch hsession
      · exact hold session hsession
  | takeAll _ htable => exact nomatch (htable id).symm.trans hsession

/-- An id whose session is gone is not used again. -/
theorem IdsValid.stays_removed (hs : IdsValid s) {id : Int} (hstarted : s.Started c id)
    (hnone : s.registry.getSession id = none) (h : Step s l s') : s'.registry.getSession id = none := by
  cases h.table with
  | same hsame => rw [hsame, hnone]
  | @publish c' _ id' session' hid hnew _ htable =>
      have hne : id ≠ id' := by
        rintro rfl
        exact hnew c id hstarted (hs.distinct c c' id hstarted.allocatedId hid)
      rw [htable, if_neg hne, hnone]
  | remove _ htable => rw [htable, hnone, ite_self]
  | takeAll _ htable => exact htable id

/-! ### All interleavings -/

/-- A state that some interleaving of any calls reaches. -/
abbrev Reached (s : RegistrySystem) : Prop := Reachable Initial Step (fun _ _ => True) s

theorem Reached.idsValid (h : Reached s) : IdsValid s :=
  h.invariant (fun _ => .initial) fun _ _ _ hs _ hstep => hs.step hstep

theorem Reached.tableValid (h : Reached s) : TableValid s :=
  h.invariant (fun _ => .initial) fun _ _ _ hs _ hstep => hs.step hstep

theorem Reached.stays_removed (h : Reached s) {id : Int} (hstarted : s.Started c id)
    (hnone : s.registry.getSession id = none) (hlater : Later Step s s') :
    s'.registry.getSession id = none := by
  have hinv : IdsValid s' ∧ s'.Started c id ∧ s'.registry.getSession id = none := by
    refine Reachable.invariant (I := fun t => IdsValid t ∧ t.Started c id ∧ t.registry.getSession id = none)
      hlater ?_ ?_
    · rintro t rfl
      exact ⟨h.idsValid, hstarted, hnone⟩
    · rintro t l t' ⟨hids, hstarted, hnone⟩ - hstep
      exact ⟨hids.step hstep, hstep.started hstarted, hids.stays_removed hstarted hnone hstep⟩
  exact hinv.2.2

/-- Successful starts return distinct ids; a session is registered under an id only between the return of the
start that allocated it and its removal; a close removes it only where its stop has returned success or there
was nothing to stop, and leaves the table alone where its stop has failed. -/
theorem registry_publication (h : Reached s) :
    (∀ c c' id, s.Started c id → s.Started c' id → c = c') ∧
      (∀ id session, s.registry.getSession id = some session → ∃ c, s.Started c id) ∧
      (∀ c id, s.Started c id → s.registry.getSession id = none →
        ∀ s', Later Step s s' → s'.registry.getSession id = none) ∧
      (∀ l s' id, Step s l s' → s.registry.getSession id ≠ none → s'.registry.getSession id = none →
        ∃ c, l = some c ∧ (s.MayRemove c id ∨ s.calls c = requested .shutdownAll)) ∧
      ∀ c s' id session outcome, s.calls c = stopped id session outcome → ¬outcome.Stopped →
        Step s (some c) s' → ∀ id', s'.registry.getSession id' = s.registry.getSession id' := by
  refine ⟨fun c c' id hc hc' => h.idsValid.distinct c c' id hc.allocatedId hc'.allocatedId, h.tableValid,
    fun c id hstarted hnone s' hlater => h.stays_removed hstarted hnone hlater, ?_, ?_⟩
  · intro l s' id hstep hsome hnone
    cases hstep.table with
    | same hsame => exact absurd ((hsame id).symm.trans hnone) hsome
    | publish _ _ _ htable =>
        rw [htable] at hnone
        split at hnone
        · exact nomatch hnone
        · exact absurd hnone hsome
    | @remove c _ id' session hmay htable =>
        rw [htable] at hnone
        split at hnone
        · rename_i hremoved
          rw [hremoved.1]
          exact ⟨c, rfl, .inl hmay⟩
        · exact absurd hnone hsome
    | takeAll hcall _ => exact ⟨_, rfl, .inr hcall⟩
  · intro c s' id session outcome hcall hfailed hstep id'
    cases hstep.table with
    | same hsame => exact hsame id'
    | publish hid _ _ _ =>
        rw [hcall] at hid
        exact nomatch hid
    | remove hmay _ =>
        rcases hmay with ⟨session', hinactive⟩ | ⟨session', outcome', hstopped, hok⟩
        · exact nomatch hcall.symm.trans hinactive
        · rw [hcall] at hstopped
          obtain ⟨-, -, rfl⟩ := RegistryCall.stopped.inj hstopped
          exact absurd hok hfailed
    | takeAll hshutdown _ => exact nomatch hcall.symm.trans hshutdown

/-- The first call starts a session, two calls close it, and the others resolve it. -/
def oneSession : RegistrySystem where
  views _ := { hasController := true, isRunning := true }
  calls c := .requested (if c = 0 then .startSession else if c ≤ 2 then .closeSession 1 else .resolveSession 1)

theorem initial_oneSession : Initial oneSession := ⟨rfl, _, rfl⟩

/-- The result of the start. -/
def startedInfo : SessionStartInfo where
  message := "GDB session started"
  program := none
  core := none
  targetLoaded := false
  executionState := .unknown
  stopReason := none
  exitCode := none
  startupOutput := none
  warnings := []
  envOutput := []
  initOutput := []
  endpoint := none
  rrReplay := none

theorem registry_publication_oneSession :
    ∃ s c, Reached s ∧ s.registry.getSession 1 = some 7 ∧ s.Started c 1 := by
  have h₀ : Reached oneSession := .initial initial_oneSession
  have h₁ := h₀.step trivial (.allocate (c := 0) 7 rfl)
  have h₂ := h₁.step trivial (.startSucceeds (c := 0) startedInfo [] rfl)
  have h₃ := h₂.step trivial (.publish (c := 0) rfl)
  obtain ⟨c, hstarted⟩ := (registry_publication h₃).2.1 1 7 rfl
  exact ⟨_, c, h₃, rfl, hstarted⟩

end GdbMcp.RegistrySystem
