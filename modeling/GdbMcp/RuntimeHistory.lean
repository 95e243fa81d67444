import GdbMcp.SessionSteps

/-! The stop events that a session records, and the bounded history that it keeps of them. -/

namespace GdbMcp

namespace SessionRuntime

/-! ### Trimmed histories -/

theorem trimHistory_of_le {α : Type} {items : List α} {limit : Nat} (h : items.length ≤ limit) :
    trimHistory items limit = items := by
  unfold trimHistory
  split
  · rename_i hlimit
    exact (List.length_eq_zero_iff.mp (by omega)).symm
  · rw [Nat.sub_eq_zero_of_le h, List.drop_zero]

theorem length_trimHistory {α : Type} (items : List α) (limit : Nat) :
    (trimHistory items limit).length = min items.length limit := by
  unfold trimHistory
  split
  · rename_i hlimit
    have hzero : limit = 0 := by omega
    simp [hzero]
  · rw [List.length_drop]
    omega

/-- What is trimmed once more is trimmed as a whole. -/
theorem trimHistory_append {α : Type} (items more : List α) (limit : Nat) :
    trimHistory (trimHistory items limit ++ more) limit = trimHistory (items ++ more) limit := by
  unfold trimHistory
  split
  · rfl
  · have hsplit : items.drop (items.length - limit) ++ more = (items ++ more).drop (items.length - limit) :=
      (List.drop_append_of_le_length (by omega)).symm
    rw [hsplit, List.drop_drop, List.length_drop, List.length_append]
    congr 1
    omega

theorem getLast?_trimHistory {α : Type} {items : List α} {limit : Nat} (hlimit : 0 < limit) :
    (trimHistory items limit).getLast? = items.getLast? := by
  unfold trimHistory
  rw [if_neg (by omega)]
  cases items with
  | nil => rw [List.drop_nil]
  | cons x rest => rw [List.getLast?_drop, if_neg (by simp; omega)]

/-! ### What is recorded -/

/-- The stop events, the history kept of them with its limit, and the last one. -/
def log (rt : SessionRuntime) : List StopEvent × List StopEvent × Nat × Option StopEvent :=
  (rt.stopEvents, rt.stopHistory, rt.stopHistoryLimit, rt.lastStopEvent)

/-- Stop events have been recorded, and nothing else has touched them. -/
structure Records (rt : SessionRuntime) (events : List StopEvent) (rt' : SessionRuntime) : Prop where
  stopEvents : rt'.stopEvents = rt.stopEvents ++ events
  limit : rt'.stopHistoryLimit = rt.stopHistoryLimit
  history : rt.stopHistory.length ≤ rt.stopHistoryLimit →
    rt'.stopHistory = trimHistory (rt.stopHistory ++ events) rt.stopHistoryLimit
  last : rt'.lastStopEvent = events.getLast?.or rt.lastStopEvent

variable {rt rt' rt₁ rt₂ : SessionRuntime}

theorem Records.of_log (h : rt₁.log = rt.log) : rt.Records [] rt₁ := by
  simp only [log, Prod.mk.injEq] at h
  obtain ⟨hevents, hhistory, hlimit, hlast⟩ := h
  refine ⟨by simp [hevents], hlimit, fun hle => ?_, hlast⟩
  rw [List.append_nil, trimHistory_of_le hle, hhistory]

theorem Records.one (rt : SessionRuntime) (event : StopEvent) : rt.Records [event] (rt.recordStopEvent event) :=
  ⟨rfl, rfl, fun _ => rfl, rfl⟩

theorem Records.bounded {events : List StopEvent} (h : rt.Records events rt₁)
    (hle : rt.stopHistory.length ≤ rt.stopHistoryLimit) : rt₁.stopHistory.length ≤ rt₁.stopHistoryLimit := by
  rw [h.history hle, h.limit, length_trimHistory]
  exact Nat.min_le_right _ _

theorem Records.trans {events events' : List StopEvent} (h : rt.Records events rt₁) (h' : rt₁.Records events' rt₂) :
    rt.Records (events ++ events') rt₂ where
  stopEvents := by rw [h'.stopEvents, h.stopEvents, List.append_assoc]
  limit := h'.limit.trans h.limit
  history hle := by
    rw [h'.history (h.bounded hle), h.history hle, h.limit, trimHistory_append, List.append_assoc]
  last := by
    rw [h'.last, h.last, List.getLast?_append]
    cases events'.getLast? <;> rfl

@[simp] theorem log_synchronizeSelectedState (rt : SessionRuntime) : rt.synchronizeSelectedState.log = rt.log := by
  unfold synchronizeSelectedState
  split <;> rfl

@[simp] theorem log_ensureInferior (rt : SessionRuntime) (k : Int) : (rt.ensureInferior k).log = rt.log := by
  unfold ensureInferior
  split <;> rfl

@[simp] theorem log_updateInferiorState (rt : SessionRuntime) (k : Option Int) (state : InferiorRuntimeState) :
    (rt.updateInferiorState k state).log = rt.log := by
  unfold updateInferiorState
  extract_lets target rt'
  split <;> rfl

theorem log_removeInferior (rt : SessionRuntime) (k : Int) : (rt.removeInferior k).log = rt.log := by
  unfold removeInferior
  split
  · rw [log_synchronizeSelectedState]
    split <;> rfl
  · rfl

theorem log_markInferiorSelected (rt : SessionRuntime) (k : Option Int) : (rt.markInferiorSelected k).log = rt.log := by
  unfold markInferiorSelected
  rw [log_synchronizeSelectedState]
  cases k with
  | none => rfl
  | some k => exact log_ensureInferior _ k

theorem log_updateInferiorInventory (rt : SessionRuntime) (current : Option Int) (count : Int)
    (ids : Option (List Int)) : (rt.updateInferiorInventory current count ids).log = rt.log := by
  unfold updateInferiorInventory
  extract_lets rt₁ rt₂
  rw [log_synchronizeSelectedState]
  have hrt : rt₂.log = rt.log := rfl
  cases rt₂.currentInferiorId with
  | none => exact hrt
  | some k => exact (log_ensureInferior rt₂ k).trans hrt

theorem log_selectStop (rt : SessionRuntime) (stop : StopFields) : (rt.selectStop stop).log = rt.log := by
  unfold selectStop
  extract_lets rt'
  have hrt : rt'.log = rt.log := by
    simp only [rt']
    split <;> rfl
  split
  · exact hrt
  · exact hrt

/-- A step that records no stop event leaves the log alone. -/
theorem log_take (rt : SessionRuntime) {step : RuntimeStep} (hrestart : step.isRestart = false)
    (hrecord : ∀ event, step ≠ .mutate (.recordStopEvent event))
    (hstop : ∀ command fields now, step ≠ .stop command fields now) : (rt.take step).log = rt.log := by
  cases step with
  | stop command fields now => exact absurd rfl (hstop command fields now)
  | client transport => rfl
  | loaded targetLoaded => rfl
  | probed disassembleA readMemoryBytes => rfl
  | mutate m =>
      cases m with
      | beginStartup config => exact nomatch hrestart
      | recordStopEvent event => exact absurd rfl (hrecord event)
      | markReady => exact log_synchronizeSelectedState _
      | markInferiorSelected k => exact log_markInferiorSelected rt k
      | updateInferiorInventory current count ids => exact log_updateInferiorInventory rt current count ids
      | ensureInferior k => exact log_ensureInferior rt k
      | removeInferior k => exact log_removeInferior rt k
      | markInferiorNotStarted k => exact log_updateInferiorState rt k _
      | markInferiorRunning k => exact log_updateInferiorState rt k _
      | markInferiorPaused reason k => exact log_updateInferiorState rt k _
      | markInferiorExited reason code k => exact log_updateInferiorState rt k _
      | _ => rfl

theorem records_applyStop (rt : SessionRuntime) (command : String) (stop : StopFields) (now : Nat) :
    rt.Records [buildStopEvent command stop (rt.stopInferior stop) now] (rt.applyStop command stop now) := by
  rw [applyStop_eq]
  have hlog : ((rt.selectStop stop).updateInferiorState (rt.stopInferior stop) (stopState stop)).log = rt.log :=
    (log_updateInferiorState _ _ _).trans (log_selectStop rt stop)
  exact (Records.of_log hlog).trans (Records.one _ _)

/-- The sessions that a run without a new start leads to: some stop events have been recorded. -/
def Logged (rt rt' : SessionRuntime) : Prop := ∃ events, rt.Records events rt'

theorem logged_take (rt : SessionRuntime) {step : RuntimeStep} (hrestart : step.isRestart = false) :
    rt.Logged (rt.take step) := by
  by_cases hrecord : ∃ event, step = .mutate (.recordStopEvent event)
  · obtain ⟨event, rfl⟩ := hrecord
    exact ⟨[event], .one rt event⟩
  by_cases hstop : ∃ command fields now, step = .stop command fields now
  · obtain ⟨command, fields, now, rfl⟩ := hstop
    exact ⟨_, records_applyStop rt command fields now⟩
  · refine ⟨[], .of_log (log_take rt hrestart (fun event h => hrecord ⟨event, h⟩) ?_)⟩
    exact fun command fields now h => hstop ⟨command, fields, now, h⟩

instance : Followed Logged where
  refl _ := ⟨[], .of_log rfl⟩
  trans := fun _ _ _ ⟨_, h⟩ ⟨_, h'⟩ => ⟨_, h.trans h'⟩
  take _ _ hrestart := logged_take _ hrestart

/-- What a session reaches without beginning anew. -/
def Continues (rt : SessionRuntime) : SessionRuntime → Prop :=
  Reachable (· = rt) (fun rt step rt' => rt' = rt.take step) fun _ step => step.isRestart = false

theorem Continues.follows {R : SessionRuntime → SessionRuntime → Prop} [Followed R] (h : rt.Continues rt') : R rt rt' := by
  refine Reachable.invariant h (fun _ heq => heq ▸ refl_of R rt) fun rt₁ step rt₂ hrt hrestart hstep => ?_
  exact trans_of R hrt (hstep ▸ Followed.take rt₁ step hrestart)

instance : Followed Continues where
  refl _ := .initial rfl
  trans _ _ _ h h' := Reachable.invariant h' (fun _ heq => heq ▸ h) fun _ _ _ hrt hrestart hstep => .step hrt hrestart hstep
  take _ _ hrestart := .step (.initial rfl) hrestart rfl

/-- The history never outgrows its limit. -/
theorem Reached.bounded {allowed : SessionRuntime → RuntimeStep → Prop} (h : rt.Reached allowed) :
    rt.stopHistory.length ≤ rt.stopHistoryLimit := by
  refine Reachable.invariant (I := fun rt => rt.stopHistory.length ≤ rt.stopHistoryLimit) h
    (fun rt hrt => ?_) fun rt step rt' hrt _ hstep => ?_
  · obtain ⟨transport, stopHistoryLimit, commandTranscriptLimit, rfl⟩ := hrt
    exact Nat.zero_le _
  · rw [hstep]
    by_cases hrestart : step.isRestart = false
    · obtain ⟨events, hrecords⟩ := logged_take rt hrestart
      exact hrecords.bounded hrt
    · cases step with
      | mutate m => cases m <;> first | exact absurd rfl hrestart | exact Nat.zero_le _
      | _ => exact absurd rfl hrestart

/-- The history is a bounded one of the events that were recorded since the last start, with the last of them apart. -/
structure KeepsHistory (limit : Nat) (rt : SessionRuntime) : Prop where
  size : rt.stopHistoryLimit = limit
  mirror : rt.Mirror
  history : ∃ events, events <:+ rt.stopEvents ∧ rt.stopHistory = trimHistory events limit ∧
    rt.lastStopEvent = events.getLast?

theorem keepsHistory_beginStartup {limit : Nat} (h : rt.KeepsHistory limit) (config : SessionConfig) : (rt.beginStartup config).KeepsHistory limit where
  size := h.size
  mirror := h.mirror.apply (.beginStartup config)
  history := ⟨[], List.nil_suffix, (trimHistory_of_le (Nat.zero_le _)).symm, rfl⟩

/-- A start forgets the events, and whatever else happens adds to them. -/
theorem KeepsHistory.take {limit : Nat} (h : rt.KeepsHistory limit) (step : RuntimeStep) : (rt.take step).KeepsHistory limit := by
  by_cases hrestart : step.isRestart = false
  · obtain ⟨more, hmore⟩ := logged_take rt hrestart
    obtain ⟨events, ⟨before, hbefore⟩, hhistory, hlast⟩ := h.history
    have hbound : rt.stopHistory.length ≤ rt.stopHistoryLimit := by
      rw [hhistory, h.size, length_trimHistory]
      exact Nat.min_le_right _ _
    refine ⟨hmore.limit.trans h.size, h.mirror.take step, events ++ more, ⟨before, ?_⟩, ?_, ?_⟩
    · rw [← List.append_assoc, hbefore, hmore.stopEvents]
    · rw [hmore.history hbound, hhistory, h.size, trimHistory_append]
    · rw [hmore.last, hlast, List.getLast?_append]
  · cases step with
    | mutate m => cases m <;> first | exact absurd rfl hrestart | exact keepsHistory_beginStartup h _
    | _ => exact absurd rfl hrestart

end SessionRuntime
end GdbMcp
