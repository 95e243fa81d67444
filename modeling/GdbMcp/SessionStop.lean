import GdbMcp.SessionUpdate
import GdbMcp.SessionWait

/-! What the waits for a stop report, compared with the stop that ended them. -/

namespace GdbMcp

open Eff Session

/-! ### The stop that ends a wait -/

theorem isStop_notification {r : MiRecord} {n : MiNotifyRecord} (h : r.notification = some n) :
    n.isStop = r.isStop := by
  obtain ⟨htype, rfl⟩ := notification_eq_some h
  simp [MiNotifyRecord.isStop, MiRecord.isStop, htype]

/-- Records without a stop are parsed into notifications without one. -/
theorem quiet_notify {records : List MiRecord} (hquiet : Stopless records) :
    ∀ n ∈ records.filterMap MiRecord.notification, n.isStop = false := by
  intro n hn
  obtain ⟨r, hr, hnotification⟩ := List.mem_filterMap.mp hn
  rw [isStop_notification hnotification]
  exact hquiet r hr

theorem heardStop_quiet {notifies : List MiNotifyRecord} (hquiet : ∀ n ∈ notifies, n.isStop = false) :
    heardStop notifies = none := by
  rw [heardStop, List.find?_eq_none.mpr fun n hn => by simp [hquiet n hn]]
  rfl

theorem notify_of_last {quiet : List MiRecord} {r : MiRecord} (hstop : r.isStop = true) :
    (parseMiResponses (quiet ++ [r])).notify =
      quiet.filterMap MiRecord.notification ++ [⟨r.message, r.payload⟩] := by
  have htype : r.type = .notify := by
    simp only [MiRecord.isStop, Bool.and_eq_true, beq_iff_eq] at hstop
    exact hstop.1
  rw [notify_parseMiResponses, List.filterMap_append]
  simp [MiRecord.notification, htype]

/-- What an update hears of the records of a wait is the stop that ended it. -/
theorem heardStop_of_last {quiet : List MiRecord} {r : MiRecord} (hquiet : Stopless quiet) (hstop : r.isStop = true) :
    heardStop (parseMiResponses (quiet ++ [r])).notify = some (readStopFields r.payload) := by
  have hlast : (⟨r.message, r.payload⟩ : MiNotifyRecord).isStop = true := by
    simp only [MiRecord.isStop, Bool.and_eq_true] at hstop
    exact hstop.2
  have hnone : (quiet.filterMap MiRecord.notification).find? MiNotifyRecord.isStop = none :=
    List.find?_eq_none.mpr fun n hn => by simp [quiet_notify hquiet n hn]
  rw [notify_of_last hstop, heardStop, List.find?_append, hnone]
  simp [hlast]

theorem heardStop_of_stopless {records : List MiRecord} (hquiet : Stopless records) :
    heardStop (parseMiResponses records).notify = none := by
  rw [notify_parseMiResponses]
  exact heardStop_quiet (quiet_notify hquiet)

/-- The text of a wait changes nothing. -/
theorem applyCommandText_wait (wait : StopWait) (parsed : ParsedMiResponse) :
    applyCommandText wait.command parsed = pure () := by
  have hwait : PyStr.startswith "wait_for_stop" "wait" = true := by decide +kernel
  have hinterrupt : PyStr.startswith "interrupt" "interrupt" = true := by decide +kernel
  cases wait with
  | waitForStop timeoutSec stopReasons => exact applyCommandText_inert hwait (by decide +kernel) parsed
  | interrupt => exact applyCommandText_inert hinterrupt (by decide +kernel) parsed

/-- A wait that returns without an error has ended at a stop, the last of its records, or has timed out without
one. -/
theorem StopWait.ended {W : Type} [Gdb W] {wait : StopWait} {s s₁ : Session W} {response : MiTransportResponse}
    (hrun : wait.transport.run s = (.ok response, s₁)) (hnone : response.error = none) :
    (response.timedOut = false ∧ ∃ quiet r, response.commandResponses = quiet ++ [r] ∧ Stopless quiet ∧
        r.isStop = true) ∨
      (response.timedOut = true ∧ Stopless response.commandResponses) := by
  obtain ⟨hreturned, -⟩ := StopWait.returned hrun
  cases hreturned with
  | answered hends hresponse =>
      rcases hends with hcompleted | htimedOut
      · have hloop := @waitLoop_ends {} _ _ _ rfl (by rw [hcompleted]; rfl) rfl
        obtain ⟨quiet, r, hresponses, hquiet, hstop⟩ := hloop.completed hcompleted
        rw [hresponse]
        exact .inl ⟨by rw [hcompleted]; rfl, quiet, r, hresponses, hquiet, hstop⟩
      · have hloop := @waitLoop_ends {} _ _ _ rfl (by rw [htimedOut]; rfl) rfl
        obtain ⟨quiet, hresponses, hquiet⟩ := hloop.timedOut htimedOut
        rw [hresponse]
        exact .inr ⟨by rw [htimedOut]; rfl, by rw [hresponses]; exact hquiet⟩
  | failed hends hempty herror => simp [hnone] at herror
  | fatal hends herror => simp [hnone] at herror

/-! ### The report of a wait -/

section Report

variable {W : Type} [Gdb W] {s s' : Session W}

/-- A wait for a stop up to the point where the stop is applied, and the records of the wait. -/
def Session.stopReached (timeoutSec : Nat) : SessionM W (List MiRecord) := do
  let _ ← isGdbAlive
  let response ← waitForStopNotification timeoutSec
  reachStop (parseMiResponses response.commandResponses).notify
  return response.commandResponses

/-- The report of a wait says what a stop event says. -/
structure WaitForStopInfo.Reports (info : WaitForStopInfo) (event : StopEvent) (stopReasons : List String) : Prop where
  executionState : info.executionState = event.executionState
  stopReason : info.stopReason = event.reason
  matched : info.matched = true ↔ stopReasons = [] ∨ ∃ reason, event.reason = some reason ∧ reason ∈ stopReasons

/-- The stop is one of the current inferior, or finds the current inferior in the same state. -/
def SessionRuntime.ShowsStop (rt : SessionRuntime) (stop : StopFields) : Prop :=
  rt.Selects stop.inferiorId ∨
    (rt.executionState = (SessionRuntime.stopState stop).executionState ∧
      rt.stopReason = (SessionRuntime.stopState stop).stopReason)

/-- A report that waited comes from a wait for an inferior that runs. -/
theorem awaited_of_waited {timeoutSec : Nat} {stopReasons : List String} {info : WaitForStopInfo}
    {warnings : List String} (hrun : (waitForStop timeoutSec stopReasons).run s = (.ok (.success info warnings), s'))
    (hsource : info.source = "waited") :
    ∃ alive s₀, isGdbAlive.run s = (.ok alive, s₀) ∧
      (awaitStop timeoutSec stopReasons).run s₀ = (.ok (.success info warnings), s') := by
  obtain ⟨controlled, t, hcontroller, hrest⟩ := ok_of_run_bind hrun
  obtain ⟨-, rfl⟩ := Prod.mk.inj hcontroller
  split at hrest
  · obtain ⟨alive, s₀, halive, hrest⟩ := ok_of_run_bind hrest
    refine ⟨alive, s₀, halive, ?_⟩
    split at hrest
    · obtain ⟨state, u, hread, hrest⟩ := ok_of_run_bind hrest
      obtain ⟨-, rfl⟩ := Prod.mk.inj hread
      split at hrest
      · exact hrest
      · obtain ⟨-, hresult⟩ := ok_of_report (f := fun rt =>
          OperationResult.success (waitInfo rt (stopMatches rt stopReasons) false "existing" stopReasons)) hrest
        injection hresult with hinfo
        rw [hinfo] at hsource
        exact absurd hsource (by simp [waitInfo])
    · obtain ⟨_, u, -, hpure⟩ := ok_of_run_bind hrest
      exact nomatch Except.ok.inj (Prod.mk.inj hpure).1
  · exact nomatch Except.ok.inj (Prod.mk.inj hrest).1

theorem buildStopEvent_state (command : String) (stop : StopFields) (k : Option Int) (now : Nat) :
    (buildStopEvent command stop k now).executionState = (SessionRuntime.stopState stop).executionState := by
  unfold buildStopEvent SessionRuntime.stopState
  by_cases hexit : isExitReason stop.reason = true
  · simp [hexit]
  · simp [hexit]

theorem stopReason_stopState (stop : StopFields) : (SessionRuntime.stopState stop).stopReason = stop.reason := by
  unfold SessionRuntime.stopState
  split <;> rfl

/-- The report is read off the current inferior. It says what the stop says just when the stop shows there. -/
theorem reports_iff_showsStop {rt rt' : SessionRuntime} {stop : StopFields} {command : String} {now : Nat}
    (hselected : rt'.selectedState = (rt.applyStop command stop now).selectedState) (k : Option Int)
    (stopReasons : List String) :
    (waitInfo rt' (stopMatches rt' stopReasons) false "waited" stopReasons).Reports
        (buildStopEvent command stop k now) stopReasons ↔ rt.ShowsStop stop := by
  have hstate : rt'.executionState = (rt.applyStop command stop now).selectedState.executionState :=
    congrArg InferiorRuntimeState.executionState hselected
  have hreason : rt'.stopReason = (rt.applyStop command stop now).selectedState.stopReason :=
    congrArg InferiorRuntimeState.stopReason hselected
  rw [SessionRuntime.selectedState_applyStop] at hstate hreason
  constructor
  · intro h
    by_cases hselects : rt.Selects stop.inferiorId
    · exact .inl hselects
    · rw [if_neg hselects] at hstate hreason
      have hstate' : rt'.executionState = _ := h.executionState
      have hreason' : rt'.stopReason = stop.reason := h.stopReason
      rw [buildStopEvent_state, hstate] at hstate'
      rw [hreason, ← stopReason_stopState] at hreason'
      exact .inr ⟨hstate', hreason'⟩
  · intro h
    have hboth : rt'.executionState = (SessionRuntime.stopState stop).executionState ∧
        rt'.stopReason = (SessionRuntime.stopState stop).stopReason := by
      by_cases hselects : rt.Selects stop.inferiorId
      · rw [if_pos hselects] at hstate hreason
        exact ⟨hstate, hreason⟩
      · rw [if_neg hselects] at hstate hreason
        obtain ⟨hstate', hreason'⟩ := h.resolve_left hselects
        exact ⟨hstate.trans hstate', hreason.trans hreason'⟩
    rw [stopReason_stopState] at hboth
    refine ⟨hboth.1.trans (buildStopEvent_state command stop k now).symm, hboth.2, ?_⟩
    show stopMatches rt' stopReasons = true ↔ _
    rw [stopMatches, hboth.2]
    cases hreason : stop.reason <;> simp [buildStopEvent, hreason]

/-- A wait that ends in time reports the stop that ended it just when the stop shows in the current inferior of
the runtime that it is applied to. The event of the report is always the one of that stop. -/
theorem wait_reports_stop_iff {timeoutSec : Nat} {stopReasons : List String} {info : WaitForStopInfo}
    {warnings : List String} (hrun : (waitForStop timeoutSec stopReasons).run s = (.ok (.success info warnings), s'))
    (hsource : info.source = "waited") (hintime : info.timedOut = false) :
    ∃ quiet r t stop now, (stopReached timeoutSec).run s = (.ok (quiet ++ [r]), t) ∧
      r.isStop = true ∧ Stopless quiet ∧ readStopFields r.payload = .ok stop ∧
      info.lastStopEvent = some (buildStopEvent "wait_for_stop" stop (t.runtime.stopInferior stop) now) ∧
      (info.Reports (buildStopEvent "wait_for_stop" stop (t.runtime.stopInferior stop) now) stopReasons ↔
        t.runtime.ShowsStop stop) := by
  obtain ⟨alive, s₀, halive, hawait⟩ := awaited_of_waited hrun hsource
  obtain ⟨response, s₁, hwait, hnone⟩ := awaitStop_succeeded hawait
  obtain ⟨s₂, entry, hupdate, hruntime, hresult⟩ := awaitStop_answered hwait hnone hawait
  obtain ⟨hinfo, -⟩ := OperationResult.success.inj hresult
  have htransport : (StopWait.waitForStop timeoutSec stopReasons).transport.run s₀ = (.ok response, s₁) := hwait
  have hanswered : response.timedOut = false := by
    rw [hinfo] at hintime
    exact hintime
  obtain ⟨quiet, r, hresponses, hquiet, hstop⟩ :
      ∃ quiet r, response.commandResponses = quiet ++ [r] ∧ Stopless quiet ∧ r.isStop = true := by
    rcases StopWait.ended htransport hnone with ⟨-, h⟩ | ⟨htimedOut, -⟩
    · exact h
    · cases htimedOut.symm.trans hanswered
  have htext := applyCommandText_wait (.waitForStop timeoutSec stopReasons) (parseMiResponses response.commandResponses)
  simp only [StopWait.command] at htext
  obtain ⟨t, hreach, hsettles⟩ := update_settles htext hupdate
  have hheard : heardStop (parseMiResponses response.commandResponses).notify = some (readStopFields r.payload) := by
    rw [hresponses]
    exact heardStop_of_last hquiet hstop
  have hreached : (stopReached timeoutSec).run s = (.ok (quiet ++ [r]), t) := by
    rw [stopReached, run_bind_ok halive, run_bind_ok hwait, run_bind_ok hreach, hresponses]
    rfl
  cases hsettles with
  | stop now hfields happlied =>
      rename_i stop
      have hread : readStopFields r.payload = .ok stop := Option.some.inj (hheard.symm.trans hfields)
      rw [happlied] at hruntime
      refine ⟨quiet, r, t, stop, now, hreached, hstop, hquiet, hread, ?_, ?_⟩
      · rw [hinfo, waitInfo, hruntime]
        exact SessionRuntime.lastStopEvent_applyStop _ _ _ _
      · rw [hinfo, hanswered]
        have hselected : s'.runtime.selectedState = (t.runtime.applyStop "wait_for_stop" stop now).selectedState := by
          rw [hruntime]
          rfl
        exact reports_iff_showsStop hselected _ _
  | running hfields hclass => cases hheard.symm.trans hfields
  | quiet hfields hclass => cases hheard.symm.trans hfields

end Report

/-- A wait for a stop of the current inferior reports that stop. -/
theorem wait_reports_stop_iff_current :
    ∃ info : WaitForStopInfo, info.stopReason = some "breakpoint-hit" ∧
      ∃ quiet r t stop now, (stopReached 1).run (waitingFor [stopOf "i1" "breakpoint-hit"]) = (.ok (quiet ++ [r]), t) ∧
        r.isStop = true ∧ Stopless quiet ∧ readStopFields r.payload = .ok stop ∧
        info.lastStopEvent = some (buildStopEvent "wait_for_stop" stop (t.runtime.stopInferior stop) now) ∧
        (info.Reports (buildStopEvent "wait_for_stop" stop (t.runtime.stopInferior stop) now) [] ↔
          t.runtime.ShowsStop stop) := by
  refine ⟨_, ?_, wait_reports_stop_iff (s := waitingFor [stopOf "i1" "breakpoint-hit"]) rfl rfl rfl⟩
  rfl

/-- The stop of another inferior ends the wait, and the report shows the current one, which runs. -/
theorem other_inferior_hides_stop :
    ∃ info event s', (waitForStop 1 []).run (waitingFor [stopOf "i2" "breakpoint-hit"]) = (.ok (.success info), s') ∧
      info.source = "waited" ∧ info.timedOut = false ∧ info.lastStopEvent = some event ∧
      event.executionState = .paused ∧ info.executionState = .running :=
  ⟨_, _, _, rfl, rfl, rfl, rfl, rfl, rfl⟩

/-! ### The overwriting of an interrupt -/

namespace SessionRuntime

/-- The states of the inferiors, and the one that the session shows, are the same. -/
structure SameStates (rt rt' : SessionRuntime) : Prop where
  states : ∀ k, rt.inferiorStates.lookup k = rt'.inferiorStates.lookup k
  selected : rt.selectedState = rt'.selectedState

/-- The current inferior is in a state, and the session shows it. -/
structure InState (rt : SessionRuntime) (state : InferiorRuntimeState) : Prop where
  lookup : rt.inferiorStates.lookup (rt.currentInferiorId.getD 1) = some state
  selected : rt.selectedState = state

variable {rt : SessionRuntime}

/-- An overwritten state makes no difference just when it was there before. -/
theorem overwrite_sameStates (state : InferiorRuntimeState) :
    (rt.updateInferiorState none state).SameStates rt ↔ rt.InState state := by
  have hselects : rt.Selects none := .inr (.inl rfl)
  constructor
  · intro h
    refine ⟨?_, ?_⟩
    · rw [← h.states, lookup_updateInferiorState]
      exact if_pos rfl
    · rw [← h.selected, selectedState_updateInferiorState, if_pos hselects]
  · intro h
    refine ⟨fun k => ?_, ?_⟩
    · rw [lookup_updateInferiorState]
      split
      · rename_i hk
        rw [hk]
        exact h.lookup.symm
      · rfl
    · rw [selectedState_updateInferiorState, if_pos hselects, h.selected]

/-- Behind a stop the current inferior is in the state of the stop, or in the one it was in. -/
theorem inState_applyStop (command : String) (stop : StopFields) (now : Nat) (state : InferiorRuntimeState) :
    (rt.applyStop command stop now).InState state ↔
      if rt.Selects stop.inferiorId then stopState stop = state else rt.InState state := by
  have hcurrent := currentInferiorId_applyStop rt command stop now
  split
  · rename_i hselects
    have hlookup : (rt.applyStop command stop now).inferiorStates.lookup
        ((rt.applyStop command stop now).currentInferiorId.getD 1) = some (stopState stop) := by
      rw [hcurrent, Option.getD_some, (rt.selects_iff _).mp hselects, lookup_applyStop, if_pos rfl]
    have hselected := selectedState_applyStop rt command stop now
    rw [if_pos hselects] at hselected
    exact ⟨fun h => hselected.symm.trans h.selected, fun h => ⟨h ▸ hlookup, h ▸ hselected⟩⟩
  · rename_i hselects
    have hselected := selectedState_applyStop rt command stop now
    rw [if_neg hselects] at hselected
    obtain ⟨c, hc⟩ : ∃ c, rt.currentInferiorId = some c :=
      Option.ne_none_iff_exists'.mp fun hnone => hselects (.inl hnone)
    have hne : c ≠ rt.target stop.inferiorId := fun heq => hselects ((rt.selects_iff _).mpr (by rw [hc]; exact heq))
    have hlookup : (rt.applyStop command stop now).inferiorStates.lookup
        ((rt.applyStop command stop now).currentInferiorId.getD 1) =
          rt.inferiorStates.lookup (rt.currentInferiorId.getD 1) := by
      rw [hcurrent, hc]
      exact (lookup_applyStop rt command stop now c).trans (if_neg hne)
    exact ⟨fun h => ⟨hlookup.symm.trans h.lookup, hselected.symm.trans h.selected⟩,
      fun h => ⟨hlookup.trans h.lookup, hselected.trans h.selected⟩⟩

theorem inState_markInferiorRunning :
    (rt.markInferiorRunning rt.currentInferiorId).InState { executionState := .running } := by
  have hselects : rt.Selects rt.currentInferiorId := .inr (.inr rfl)
  refine ⟨?_, ?_⟩
  · rw [markInferiorRunning, currentInferiorId_updateInferiorState, (rt.selects_iff _).mp hselects, Option.getD_some,
      lookup_updateInferiorState, if_pos rfl]
  · rw [markInferiorRunning, selectedState_updateInferiorState, if_pos hselects]

/-- The state that an interrupt writes is the one that the records have led to. A stop leads to it where it is of
the current inferior and no exit, and where the current inferior was in that very state; without a stop the
records say `^running`, or the current inferior was running. -/
structure OverwriteAgrees (rt : SessionRuntime) (parsed : ParsedMiResponse) : Prop where
  stopped : ∀ stop, heardStop parsed.notify = some (.ok stop) →
    if rt.Selects stop.inferiorId then isExitReason stop.reason = false
    else rt.InState { executionState := .paused, stopReason := stop.reason }
  unstopped : heardStop parsed.notify = none →
    parsed.resultClass = some "running" ∨ rt.InState { executionState := .running }

end SessionRuntime

theorem stopState_eq_paused_iff (stop : StopFields) :
    SessionRuntime.stopState stop = { executionState := .paused, stopReason := stop.reason } ↔
      isExitReason stop.reason = false := by
  unfold SessionRuntime.stopState
  by_cases hexit : isExitReason stop.reason = true
  · simp [hexit]
  · simp [hexit]

/-- The reason of the one stop of a wait is the one that the update has read. -/
theorem extractStopReason_of_last {quiet : List MiRecord} {r : MiRecord} {stop : StopFields} (hquiet : Stopless quiet)
    (hstop : r.isStop = true) (hread : readStopFields r.payload = .ok stop) :
    extractStopReason (parseMiResponses (quiet ++ [r])).notify = stop.reason := by
  have hmessage : r.message = some "stopped" := by
    simp only [MiRecord.isStop, Bool.and_eq_true, beq_iff_eq] at hstop
    exact hstop.2
  have hnone : ∀ n ∈ quiet.filterMap MiRecord.notification,
      (if n.message = some "stopped" then asText (n.payload.get "reason") else none) = none := by
    intro n hn
    have hn' := quiet_notify hquiet n hn
    rw [if_neg (by simpa [MiNotifyRecord.isStop] using hn')]
  rw [notify_of_last hstop, extractStopReason, List.findSome?_append, List.findSome?_eq_none_iff.mpr hnone,
    readStopFields_reason hread]
  simp [hmessage]

section Interrupt

variable {W : Type} [Gdb W] {s s' : Session W}

/-- What an interrupt hears: the response of its wait. -/
def Session.interruptHeard : SessionM W MiTransportResponse := do
  let _ ← isGdbAlive
  interruptAndWaitForStop interruptResponseTimeoutSec

/-- An interrupt that succeeds has sent its signal and waited. -/
theorem sent_of_interrupt {result : MessageResult} {warnings : List String}
    (hrun : interrupt.run s = (.ok (.success result warnings), s')) :
    ∃ alive s₀, isGdbAlive.run s = (.ok alive, s₀) ∧ sendInterrupt.run s₀ = (.ok (.success result warnings), s') := by
  obtain ⟨controlled, t, hcontroller, hrest⟩ := ok_of_run_bind hrun
  obtain ⟨-, rfl⟩ := Prod.mk.inj hcontroller
  split at hrest
  · obtain ⟨alive, s₀, halive, hrest⟩ := ok_of_run_bind hrest
    refine ⟨alive, s₀, halive, ?_⟩
    split at hrest
    · obtain ⟨hasProcess, u, hgets, hrest⟩ := ok_of_run_bind hrest
      obtain ⟨-, rfl⟩ := Prod.mk.inj hgets
      split at hrest
      · exact hrest
      · exact nomatch Except.ok.inj (Prod.mk.inj hrest).1
    · obtain ⟨_, u, -, hpure⟩ := ok_of_run_bind hrest
      exact nomatch Except.ok.inj (Prod.mk.inj hpure).1
  · exact nomatch Except.ok.inj (Prod.mk.inj hrest).1

theorem sendInterrupt_succeeded {result : MessageResult} {warnings : List String}
    (hrun : sendInterrupt.run s = (.ok (.success result warnings), s')) :
    ∃ response s₁, (interruptAndWaitForStop interruptResponseTimeoutSec).run s = (.ok response, s₁) ∧
      response.error = none := by
  rw [sendInterrupt] at hrun
  obtain ⟨response, s₁, hwait, hrest⟩ := ok_of_run_bind hrun
  refine ⟨response, s₁, hwait, ?_⟩
  cases herror : response.error with
  | none => rfl
  | some error =>
      simp only [herror] at hrest
      obtain ⟨_, t, -, hpure⟩ := ok_of_run_bind hrest
      cases Except.ok.inj (Prod.mk.inj hpure).1

/-- An interrupt leaves the states to which the update with its records leads just when the state that it writes
over them agrees. -/
theorem interrupt_agrees_iff {result : MessageResult} {warnings : List String}
    (hrun : interrupt.run s = (.ok (.success result warnings), s')) :
    ∃ response s₁ s₂ t, interruptHeard.run s = (.ok response, s₁) ∧
      (updateRuntimeAfterCommand "interrupt" (parseMiResponses response.commandResponses)).run s₁ = (.ok (), s₂) ∧
      (reachStop (parseMiResponses response.commandResponses).notify).run s₁ = (.ok (), t) ∧
      (s'.runtime.SameStates s₂.runtime ↔
        t.runtime.OverwriteAgrees (parseMiResponses response.commandResponses)) := by
  obtain ⟨alive, s₀, halive, hsend⟩ := sent_of_interrupt hrun
  obtain ⟨response, s₁, hwait, hnone⟩ := sendInterrupt_succeeded hsend
  obtain ⟨s₂, entry, hupdate, hruntime⟩ := sendInterrupt_answered hwait hnone hsend
  have hheard : interruptHeard.run s = (.ok response, s₁) := by
    rw [interruptHeard, run_bind_ok halive, hwait]
  have htransport : StopWait.interrupt.transport.run s₀ = (.ok response, s₁) := hwait
  have htext := applyCommandText_wait .interrupt (parseMiResponses response.commandResponses)
  simp only [StopWait.command] at htext
  obtain ⟨t, hreach, hsettles⟩ := update_settles htext hupdate
  refine ⟨response, s₁, s₂, t, hheard, hupdate, hreach, ?_⟩
  have hsame : s'.runtime.SameStates s₂.runtime ↔ (StopWait.interrupt.settle response s₂.runtime).SameStates s₂.runtime := by
    rw [hruntime]
    exact ⟨fun h => ⟨h.states, h.selected⟩, fun h => ⟨h.states, h.selected⟩⟩
  rw [hsame]
  rcases StopWait.ended htransport hnone with ⟨htimedOut, quiet, r, hresponses, hquiet, hstop⟩ | ⟨htimedOut, hquiet⟩
  · have hfirst : heardStop (parseMiResponses response.commandResponses).notify = some (readStopFields r.payload) := by
      rw [hresponses]
      exact heardStop_of_last hquiet hstop
    cases hsettles with
    | stop now hfields happlied =>
        rename_i stop
        have hread : readStopFields r.payload = .ok stop := Option.some.inj (hfirst.symm.trans hfields)
        have hreason : extractStopReason (parseMiResponses response.commandResponses).notify = stop.reason := by
          rw [hresponses]
          exact extractStopReason_of_last hquiet hstop hread
        simp only [StopWait.settle, htimedOut, Bool.false_eq_true, if_false, hreason]
        rw [SessionRuntime.markInferiorPaused, SessionRuntime.overwrite_sameStates, happlied,
          SessionRuntime.inState_applyStop, stopState_eq_paused_iff]
        constructor
        · intro h
          refine ⟨fun stop' hstop' => ?_, fun hnone' => by cases hfields.symm.trans hnone'⟩
          obtain rfl : stop = stop' := Except.ok.inj (Option.some.inj (hfields.symm.trans hstop'))
          exact h
        · intro h
          exact h.stopped stop hfields
    | running hfields hclass => cases hfirst.symm.trans hfields
    | quiet hfields hclass => cases hfirst.symm.trans hfields
  · have hsilent := heardStop_of_stopless hquiet
    simp only [StopWait.settle, htimedOut, if_true]
    rw [SessionRuntime.markInferiorRunning, SessionRuntime.overwrite_sameStates]
    cases hsettles with
    | stop now hfields happlied => cases hsilent.symm.trans hfields
    | running hfields hclass happlied =>
        rw [happlied]
        refine ⟨fun _ => ⟨fun _ hstop => ?_, fun _ => .inl hclass⟩,
          fun _ => SessionRuntime.inState_markInferiorRunning⟩
        cases hsilent.symm.trans hstop
    | quiet hfields hclass happlied =>
        rw [happlied]
        refine ⟨fun h => ⟨fun _ hstop => ?_, fun _ => .inr h⟩, fun h => ?_⟩
        · cases hsilent.symm.trans hstop
        · exact (h.unstopped hsilent).resolve_left hclass

end Interrupt

theorem interrupt_agrees_iff_signal :
    ∃ response s₁ s₂ t, interruptHeard.run (waitingFor [stopOf "i1" "signal-received"]) = (.ok response, s₁) ∧
      (updateRuntimeAfterCommand "interrupt" (parseMiResponses response.commandResponses)).run s₁ = (.ok (), s₂) ∧
      (reachStop (parseMiResponses response.commandResponses).notify).run s₁ = (.ok (), t) ∧
      ((interrupt.run (waitingFor [stopOf "i1" "signal-received"])).2.runtime.SameStates s₂.runtime ↔
        t.runtime.OverwriteAgrees (parseMiResponses response.commandResponses)) :=
  interrupt_agrees_iff (s := waitingFor [stopOf "i1" "signal-received"]) rfl

/-- An interrupt that meets the exit of the program leaves it as paused. -/
theorem interrupt_hides_exit :
    ∃ result response s₁ s₂ s', interrupt.run (waitingFor [stopOf "i1" "exited-normally"]) = (.ok (.success result), s') ∧
      interruptHeard.run (waitingFor [stopOf "i1" "exited-normally"]) = (.ok response, s₁) ∧
      (updateRuntimeAfterCommand "interrupt" (parseMiResponses response.commandResponses)).run s₁ = (.ok (), s₂) ∧
      s₂.runtime.executionState = .exited ∧ s'.runtime.executionState = .paused :=
  ⟨_, _, _, _, _, rfl, rfl, rfl, rfl, rfl⟩

end GdbMcp
