import GdbMcp.RunnerStops
import GdbMcp.RuntimeSteps
import GdbMcp.TransportResponses
import GdbMcp.SessionOutcome

/-! The execution state behind one execution command, compared with the last event that was read. The
runner sees the stops in the order of two lists, keeps the first of them, and lets it override the
`^running` result. -/

namespace GdbMcp

open Eff Completion ReadState

/-! ### The last event -/

/-- What a record may say of the execution state. -/
inductive ExecEvent where
  | running
  | stopped (payload : Value)

/-- The event of one record, for the command with the given token. -/
def execEvent (token : Nat) (r : MiRecord) : Option ExecEvent :=
  if r.isRunningOf token then some .running
  else if r.isStop then some (.stopped r.payload)
  else none

/-- The last event in the order of arrival. -/
def lastEvent (token : Nat) (records : List MiRecord) : Option ExecEvent :=
  (records.filterMap (execEvent token)).getLast?

/-- The record of an inferior that has stopped. -/
def stoppedState (stop : StopFields) : InferiorRuntimeState :=
  if isExitReason stop.reason then
    { executionState := .exited, stopReason := stop.reason, exitCode := stop.exitCode }
  else { executionState := .paused, stopReason := stop.reason }

/-- The stop event is the one that is built from a payload, at some time. -/
def StopEvent.Describes (event : StopEvent) (command : String) (k : Int) (payload : Value) : Prop :=
  ∃ stop now, readStopFields payload = .ok stop ∧ event = buildStopEvent command stop (some k) now

/-- The runtime follows the records: the current inferior `k` is in the state of the last event, and the
last stop event describes the last stop. -/
structure FollowsRecords (token : Nat) (command : String) (k : Int) (records : List MiRecord)
    (rt : SessionRuntime) : Prop where
  current : rt.currentInferiorId = some k
  running : lastEvent token records = some .running → (rt.inferiorState k).executionState = .running
  stopped : ∀ payload, lastEvent token records = some (.stopped payload) →
    ∃ stop, readStopFields payload = .ok stop ∧ rt.inferiorState k = stoppedState stop
  described : ∀ r, (stops records).getLast? = some r →
    ∃ event, rt.lastStopEvent = some event ∧ event.Describes command k r.payload

/-- The condition: where the last event is the own `^running`, there is no stop, and either the last result
that the wait does not put aside is `^running` too or the inferior was running before; where it is a stop,
the first stop that the runner sees says the same. -/
structure Consistent (token : Nat) (k : Int) (records : List MiRecord) (before : SessionRuntime) : Prop where
  running : lastEvent token records = some .running → stops records = [] ∧
    ((heardResults token records).getLast?.bind MiRecord.message = some "running" ∨
      (before.inferiorState k).executionState = .running)
  stopped : ∀ payload, lastEvent token records = some (.stopped payload) →
    ∀ r, (seenStops token records).head? = some r → r.payload.asDict = payload.asDict

theorem execEvent_of_isStop {token : Nat} {r : MiRecord} (h : r.isStop = true) :
    execEvent token r = some (.stopped r.payload) := by
  have hrunning : r.isRunningOf token = false := by
    by_contra hrunning
    simp only [MiRecord.isRunningOf, Bool.not_eq_false, Bool.and_eq_true] at hrunning
    exact Bool.false_ne_true ((isStop_of_isResultOf hrunning.1).symm.trans h)
  simp [execEvent, hrunning, h]

/-- Where the last event is a stop, it is the last stop. -/
theorem lastEvent_stopped {token : Nat} {records : List MiRecord} {payload : Value}
    (h : lastEvent token records = some (.stopped payload)) :
    ∃ r, (stops records).getLast? = some r ∧ r.payload = payload := by
  induction records using List.reverseRecOn with
  | nil => exact nomatch h
  | append_singleton records r ih =>
      rw [lastEvent, List.filterMap_append] at h
      rw [stops, List.filter_append]
      cases hstop : r.isStop with
      | true =>
          refine ⟨r, by simp [hstop], ?_⟩
          simpa [execEvent_of_isStop hstop] using h
      | false =>
          cases hrunning : r.isRunningOf token with
          | true => simp [execEvent, hrunning] at h
          | false =>
              rw [lastEvent, stops] at ih
              simpa [hstop] using ih (by simpa [execEvent, hrunning, hstop] using h)

theorem lastEvent_isSome {token : Nat} {records : List MiRecord} {r : MiRecord} (h : r ∈ stops records) :
    ∃ event, lastEvent token records = some event := by
  obtain ⟨hr, hstop⟩ := List.mem_filter.mp h
  have hevent : execEvent token r = some (.stopped r.payload) := execEvent_of_isStop hstop
  have hmem := List.mem_filterMap.mpr ⟨r, hr, hevent⟩
  exact ⟨_, List.getLast?_eq_some_getLast (List.ne_nil_of_mem hmem)⟩

/-- Without a stop the last event is the own `^running`. -/
theorem lastEvent_running {token : Nat} {records : List MiRecord} (hstops : stops records = [])
    (hrunning : ∃ r ∈ records, r.isRunningOf token = true) :
    lastEvent token records = some .running := by
  obtain ⟨r, hr, hrunning⟩ := hrunning
  have hevents : ∀ event ∈ records.filterMap (execEvent token), event = .running := by
    intro event hevent
    obtain ⟨r', hr', hevent⟩ := List.mem_filterMap.mp hevent
    have hstop : ¬r'.isStop = true := List.filter_eq_nil_iff.mp hstops r' hr'
    unfold execEvent at hevent
    rw [if_neg hstop] at hevent
    split at hevent
    · exact (Option.some.inj hevent).symm
    · exact nomatch hevent
  have hmem : ExecEvent.running ∈ records.filterMap (execEvent token) :=
    List.mem_filterMap.mpr ⟨r, hr, by simp [execEvent, hrunning]⟩
  have hne := List.ne_nil_of_mem hmem
  rw [lastEvent, List.getLast?_eq_some_getLast hne, hevents _ (List.getLast_mem hne)]

/-! ### The update behind a command without thread groups -/

/-- The runtime behind an update that sees no thread group. -/
def SessionRuntime.afterUpdate (rt : SessionRuntime) (command : String) (parsed : ParsedMiResponse)
    (now : Nat) : SessionRuntime :=
  match firstStop parsed.notify with
  | some stop => rt.applyStop command stop now
  | none => if parsed.resultClass = some "running" then rt.markInferiorRunning rt.currentInferiorId else rt

namespace SessionRuntime

variable {rt : SessionRuntime} {k : Int}

theorem currentInferiorId_afterUpdate (hcurrent : rt.currentInferiorId = some k) (command : String)
    (parsed : ParsedMiResponse) (now : Nat) :
    (rt.afterUpdate command parsed now).currentInferiorId = some k := by
  unfold afterUpdate
  split
  · rw [currentInferiorId_applyStop, hcurrent]
    rfl
  · split
    · rw [markInferiorRunning, currentInferiorId_updateInferiorState, hcurrent]
      rfl
    · exact hcurrent

theorem inferiorState_updateInferiorState (rt : SessionRuntime) (k : Int) (state : InferiorRuntimeState) :
    (rt.updateInferiorState (some k) state).inferiorState k = state := by
  have hk : k = rt.target (some k) := rfl
  rw [inferiorState, lookup_updateInferiorState, if_pos hk]
  rfl

theorem inferiorState_applyStop {stop : StopFields} (hk : (stop.inferiorId <|> rt.currentInferiorId) = some k)
    (command : String) (now : Nat) : (rt.applyStop command stop now).inferiorState k = stoppedState stop := by
  unfold applyStop stoppedState
  rw [hk]
  split <;> exact inferiorState_updateInferiorState _ k _

end SessionRuntime

/-- Stops with the same fields lead to the same record. -/
theorem stoppedState_eq {payload payload' : Value} {stop stop' : StopFields}
    (heq : payload.asDict = payload'.asDict) (hread : readStopFields payload = .ok stop)
    (hread' : readStopFields payload' = .ok stop') : stop = { stop' with payload := payload } := by
  rw [readStopFields_asDict] at hread hread'
  rw [heq] at hread
  cases hfields : readStopFields payload'.asDict with
  | error e => exact nomatch hfields ▸ hread
  | ok fields =>
      rw [hfields] at hread hread'
      obtain rfl := Except.ok.inj hread
      obtain rfl := Except.ok.inj hread'
      rfl

section Follows

variable {token : Nat} {command : String} {k : Int} {records : List MiRecord} {before : SessionRuntime}
variable {parsed : ParsedMiResponse}

/-- Without a stop the result decides. -/
theorem followsRecords_of_no_stop (hrunning : ∃ r ∈ records, r.isRunningOf token = true)
    (hcurrent : before.currentInferiorId = some k) (hstops : stops records = [])
    (hclass : parsed.resultClass = (heardResults token records).getLast?.bind MiRecord.message)
    (hfirst : firstStop parsed.notify = none) (now : Nat) :
    FollowsRecords token command k records (before.afterUpdate command parsed now) ↔
      Consistent token k records before := by
  have hlast := lastEvent_running hstops hrunning
  have hstate : (before.afterUpdate command parsed now).inferiorState k =
      if parsed.resultClass = some "running" then { executionState := .running }
      else before.inferiorState k := by
    simp only [SessionRuntime.afterUpdate, hfirst, hcurrent]
    split
    · exact SessionRuntime.inferiorState_updateInferiorState _ k _
    · rfl
  have hseen : seenStops token records = [] := List.Perm.eq_nil (hstops ▸ seenStops_perm token records)
  constructor
  · intro h
    refine ⟨fun _ => ⟨hstops, ?_⟩, fun payload hpayload => ?_⟩
    · have hstate' := h.running hlast
      rw [hstate] at hstate'
      rw [← hclass]
      by_cases hresult : parsed.resultClass = some "running"
      · exact .inl hresult
      · exact .inr (by rwa [if_neg hresult] at hstate')
    · rw [hlast] at hpayload
      exact nomatch hpayload
  · intro h
    refine ⟨SessionRuntime.currentInferiorId_afterUpdate hcurrent _ _ _, fun _ => ?_,
      fun payload hpayload => ?_, fun r hr => ?_⟩
    · rw [hstate]
      rcases (h.running hlast).2 with hresult | hbefore
      · rw [if_pos (hclass.trans hresult)]
      · split
        · rfl
        · exact hbefore
    · rw [hlast] at hpayload
      exact nomatch hpayload
    · rw [hstops] at hr
      exact nomatch hr

/-- With a stop the one that the runner sees first decides. -/
theorem followsRecords_of_stop {r₀ : MiRecord} {stop₀ : StopFields}
    (hseen : (seenStops token records).head? = some r₀) (hread₀ : readStopFields r₀.payload = .ok stop₀)
    (hcurrent : before.currentInferiorId = some k) (hk : stop₀.inferiorId = none ∨ stop₀.inferiorId = some k)
    (hreadable : ∀ r ∈ stops records, ∃ stop, readStopFields r.payload = .ok stop)
    (hfirst : firstStop parsed.notify = some stop₀) (now : Nat) :
    FollowsRecords token command k records (before.afterUpdate command parsed now) ↔
      Consistent token k records before := by
  have hupdate : before.afterUpdate command parsed now = before.applyStop command stop₀ now := by
    simp only [SessionRuntime.afterUpdate, hfirst]
  have hk : (stop₀.inferiorId <|> before.currentInferiorId) = some k := by
    rcases hk with hk | hk <;> simp [hk, hcurrent]
  have hstate := SessionRuntime.inferiorState_applyStop hk command now
  have hevent := SessionRuntime.lastStopEvent_applyStop before command stop₀ now
  rw [SessionRuntime.stopInferior, hk] at hevent
  have hmem : r₀ ∈ stops records :=
    (seenStops_perm token records).mem_iff.mp (List.mem_of_head? hseen)
  have hstopped : (stoppedState stop₀).executionState ≠ .running := by
    unfold stoppedState
    split <;> exact nofun
  have hcurrent' := SessionRuntime.currentInferiorId_afterUpdate hcurrent command parsed now
  rw [hupdate] at hcurrent' ⊢
  constructor
  · intro h
    refine ⟨fun hlast => ?_, fun payload hlast r hr => ?_⟩
    · exact absurd (hstate ▸ h.running hlast) hstopped
    · obtain rfl : r₀ = r := Option.some.inj (hseen.symm.trans hr)
      obtain ⟨last, hlaststop, rfl⟩ := lastEvent_stopped hlast
      obtain ⟨event, hevent', stop, now', hread, hbuild⟩ := h.described last hlaststop
      rw [hevent] at hevent'
      have hdetails := congrArg StopEvent.details ((Option.some.inj hevent').trans hbuild)
      rw [← readStopFields_payload hread₀, ← readStopFields_payload hread]
      exact hdetails
  · intro h
    refine ⟨hcurrent', fun hlast => ?_, fun payload hlast => ?_, fun r hr => ?_⟩
    · rw [(h.running hlast).1] at hmem
      exact nomatch hmem
    · obtain ⟨last, hlaststop, rfl⟩ := lastEvent_stopped hlast
      obtain ⟨stop, hread⟩ := hreadable last (List.mem_of_getLast? hlaststop)
      refine ⟨stop, hread, ?_⟩
      rw [hstate, stoppedState_eq (h.stopped _ hlast r₀ hseen) hread₀ hread]
      rfl
    · obtain ⟨event, hlast⟩ := @lastEvent_isSome token _ _ hmem
      cases event with
      | running =>
          rw [(h.running hlast).1] at hr
          exact nomatch hr
      | stopped payload =>
          obtain ⟨last, hlaststop, rfl⟩ := lastEvent_stopped hlast
          obtain rfl : last = r := Option.some.inj (hlaststop.symm.trans hr)
          obtain ⟨stop, hread⟩ := hreadable last (List.mem_of_getLast? hlaststop)
          refine ⟨_, hevent, stop, now, hread, ?_⟩
          have hdetails := h.stopped _ hlast r₀ hseen
          have hstop := stoppedState_eq hdetails hread₀ hread
          rw [hstop, buildStopEvent, buildStopEvent, readStopFields_payload hread, hdetails]

end Follows

namespace Session

variable {s : Session Scripted}

theorem update_plain {command : String} {parsed : ParsedMiResponse}
    (hcommand : PyStr.startswith command "-" = true) (hreadable : ∀ n ∈ parsed.notify, n.Readable)
    (hplain : ∀ n ∈ parsed.notify, n.isThreadGroup = false) :
    wp (updateRuntimeAfterCommand command parsed)
      (fun _ s' => ∃ now, s'.runtime = s.runtime.afterUpdate command parsed now) (fun _ _ => False) s := by
  rw [updateRuntimeAfterCommand, wp_bind, onRuntime, wp_zoom]
  refine wp_mono (wp_and (scanNotifies_stop hreadable {} s.runtime) (scanNotifies_plain hplain {} s.runtime))
    (fun scan rt hscan => ?_) fun _ _ h => h.1
  obtain ⟨hstop, htopology, hrt⟩ := hscan
  subst hrt
  rw [applyCommandText_mi hcommand, wp_bind]
  have hscan : scan.stop = firstStop parsed.notify := by rw [hstop]; cases firstStop parsed.notify <;> rfl
  unfold applyScan SessionRuntime.afterUpdate
  rw [← hscan]
  cases scan.stop with
  | some stop =>
      simp only [htopology]
      exact ⟨_, rfl⟩
  | none =>
      by_cases hclass : parsed.resultClass = some "running"
      · simp only [hclass, if_true]
        exact ⟨0, rfl⟩
      · simp only [hclass, if_false]
        exact ⟨0, rfl⟩

/-- One execution command of a session with the single inferior `k`, answered or out of time, and not
rejected; no record is about a thread group, and every stop is one of `k`. -/
structure SingleExec (s : Session Scripted) (command : String) (k : Int) : Prop where
  command : PyStr.startswith command "-exec-" = true
  ready : s.runtime.state = .ready
  attached : s.runtime.hasController = true
  current : s.runtime.currentInferiorId = some k
  alive : s.round.status.alive = true
  answered : s.inRound.Answered
  accepted : s.inRound.nextWait.2 = .completed → (parseResponse s.inRound.answer).isErrorResult = false
  running : ∃ r ∈ s.inRound.nextWait.1.read, r.isRunningOf s.nextToken = true
  onlyRunning : ∀ r ∈ s.inRound.nextWait.1.read, r.isResultOf s.nextToken = true →
    r.isRunningOf s.nextToken = true
  plain : ∀ r ∈ s.inRound.nextWait.1.read, ∀ n, r.notification = some n → n.isThreadGroup = false
  stops : ∀ r ∈ stops s.inRound.nextWait.1.read, ∃ stop, readStopFields r.payload = .ok stop ∧
    (stop.inferiorId = none ∨ stop.inferiorId = some k)

/-- The records that the next wait reads. -/
def nextRead (s : Session Scripted) : List MiRecord := s.nextWait.1.read

theorem nextWait_sorts (s : Session Scripted) : Sorts s.nextToken s.nextWait.1 := readLoop_sorts _ _

theorem mem_notify_answer {n : MiNotifyRecord} (h : n ∈ (parseResponse s.answer).notify) :
    ∃ r ∈ s.nextRead, r.notification = some n := by
  obtain ⟨r, hr, hn⟩ := mem_notify_parseResponse h
  exact ⟨r, s.nextWait_sorts.perm.mem_iff.mp hr, hn⟩

/-- The first stop that the update sees. -/
theorem firstStop_answer (s : Session Scripted) :
    firstStop (parseResponse s.answer).notify =
      (seenStops s.nextToken s.nextRead).head?.bind fun r => (readStopFields r.payload).toOption := by
  have hsorts := s.nextWait_sorts
  rw [firstStop, parseResponse, notify_parseMiResponses, notify_parseMiResponses, ← List.head?_filter,
    List.filter_append, stops_notifications, stops_notifications, ← List.map_append]
  rw [show stops s.answer.commandResponses = _ from hsorts.responses,
    show stops s.answer.asyncNotifications = _ from hsorts.passed]
  rw [seenStops, nextRead, List.head?_map]
  cases (answeredStops s.nextToken false s.nextWait.1.read ++
    passedStops s.nextToken false s.nextWait.1.read).head? <;> rfl

theorem resultClass_answer (s : Session Scripted) :
    (parseResponse s.answer).resultClass =
      (heardResults s.nextToken s.nextRead).getLast?.bind MiRecord.message := by
  rw [parseResponse, (result_parseMiResponses _).1]
  rw [show s.answer.commandResponses.filter (·.type == .result) = _ from s.nextWait_sorts.results]
  rfl

/-- An exchange that is answered is not lost. -/
theorem Answered.not_lost {s : Session Scripted} (h : s.Answered) : ¬s.nextExchange.Lost s.nextToken := by
  rintro (⟨m, hwritten⟩ | ⟨-, error, hfatal⟩)
  · exact nomatch h.1.symm.trans hwritten
  · rcases h.2 with hend | hend <;> exact nomatch hend.symm.trans hfatal

theorem wp_recordTranscript (entry : CommandTranscriptEntry) :
    wp (recordTranscript entry) (fun _ s' => ∃ entry, s'.runtime = s.runtime.recordCommandTranscript entry)
      (fun _ _ => False) s := ⟨_, rfl⟩

/-- What settles an answer or a timeout updates the runtime and notes the command. -/
theorem settleCommand_plain {command : String} {timeoutSec : Nat} {allow : Bool} {result : MiTransportResponse}
    (hcommand : PyStr.startswith command "-" = true) (herror : result.error = none)
    (haccepted : result.timedOut = false → (parseResponse result).isErrorResult = false)
    (hreadable : ∀ n ∈ (parseResponse result).notify, n.Readable)
    (hplain : ∀ n ∈ (parseResponse result).notify, n.isThreadGroup = false) :
    wp (settleCommand command timeoutSec allow result)
      (fun _ s' => ∃ now entry, s'.runtime =
        (s.runtime.afterUpdate command (parseResponse result) now).recordCommandTranscript entry)
      (fun _ _ => False) s := by
  have hnoted : ∀ {s' : Session Scripted} {now : Nat} (entry : CommandTranscriptEntry),
      s'.runtime = s.runtime.afterUpdate command (parseResponse result) now →
      wp (recordTranscript entry) (fun _ t => ∃ now entry, t.runtime =
        (s.runtime.afterUpdate command (parseResponse result) now).recordCommandTranscript entry)
        (fun _ _ => False) s' := by
    intro s' now entry hs'
    refine wp_mono (wp_recordTranscript entry) (fun _ t ht => ?_) fun _ _ h => h
    obtain ⟨entry, h⟩ := ht
    exact ⟨_, entry, h.trans (by rw [hs'])⟩
  have hupdate := update_plain (s := s) hcommand hreadable hplain
  simp only [settleCommand, herror]
  split
  · rw [settleTimeout, wp_bind]
    refine wp_mono hupdate (fun _ s' hs' => ?_) fun _ _ h => h
    obtain ⟨now, hs'⟩ := hs'
    rw [wp_bind]
    change wp (if _ then _ else _) _ _ s'
    split
    · rw [wp_bind]
      exact hnoted _ hs'
    · rw [wp_bind]
      exact hnoted _ hs'
  · rename_i htimedOut
    rw [settleAnswer]
    simp only [haccepted (Bool.of_not_eq_true htimedOut)]
    rw [if_neg Bool.false_ne_true, wp_bind]
    refine wp_mono hupdate (fun _ s' hs' => ?_) fun _ _ h => h
    obtain ⟨now, hs'⟩ := hs'
    rw [wp_bind]
    exact hnoted _ hs'

section SingleExec

variable {command : String} {k : Int}

/-- The notifications of the answer, in terms of the records read. -/
theorem SingleExec.notifies (h : s.SingleExec command k) :
    ∀ n ∈ (parseResponse s.inRound.answer).notify, n.Readable ∧ n.isThreadGroup = false := by
  intro n hn
  obtain ⟨r, hr, hrn⟩ := mem_notify_answer hn
  have hplain := h.plain r hr n hrn
  refine ⟨MiNotifyRecord.readable_of_stop hplain fun hstop => ?_, hplain⟩
  obtain ⟨htype, rfl⟩ := notification_eq_some hrn
  have hmem : r ∈ Completion.stops s.inRound.nextRead :=
    List.mem_filter.mpr ⟨hr, by rw [MiRecord.isStop, htype]; exact hstop⟩
  obtain ⟨stop, hread, -⟩ := h.stops r hmem
  rw [hread]
  rfl

/-- The update behind the command follows the records exactly if they are consistent. -/
theorem SingleExec.follows_iff (h : s.SingleExec command k) {before : SessionRuntime}
    (hcurrent : before.currentInferiorId = some k) (now : Nat) :
    FollowsRecords s.nextToken command k s.inRound.nextRead
        (before.afterUpdate command (parseResponse s.inRound.answer) now) ↔
      Consistent s.nextToken k s.inRound.nextRead before := by
  have hfirst := firstStop_answer s.inRound
  cases hseen : (seenStops s.nextToken s.inRound.nextRead).head? with
  | none =>
      have hstops : Completion.stops s.inRound.nextRead = [] :=
        (List.head?_eq_none_iff.mp hseen ▸ seenStops_perm s.nextToken s.inRound.nextRead).symm.eq_nil
      refine followsRecords_of_no_stop h.running hcurrent hstops (resultClass_answer s.inRound) ?_ now
      exact hfirst.trans (by rw [show s.inRound.nextToken = s.nextToken from rfl, hseen]; rfl)
  | some r =>
      have hmem := (seenStops_perm s.nextToken s.inRound.nextRead).mem_iff.mp (List.mem_of_head? hseen)
      obtain ⟨stop, hread, hk⟩ := h.stops r hmem
      refine followsRecords_of_stop hseen hread hcurrent hk
        (fun r hr => (h.stops r hr).imp fun _ => And.left) ?_ now
      exact hfirst.trans (by rw [show s.inRound.nextToken = s.nextToken from rfl, hseen, Option.bind, hread]; rfl)

/-- Behind an execution command the runtime follows the records that were read exactly if they are
consistent. -/
theorem follows_records_iff (h : s.SingleExec command k) (timeoutSec : Nat) (allow : Bool) :
    wp (executeCommandResult command timeoutSec allow)
      (fun _ s' => FollowsRecords s.nextToken command k s.inRound.nextRead s'.runtime ↔
        Consistent s.nextToken k s.inRound.nextRead s.runtime)
      (fun _ _ => False) s := by
  have hs := h.attached
  rw [executeCommandResult, wp_bind, hasController, read, wp_gets, if_pos hs, wp_bind, wp_isGdbAlive hs,
    if_pos h.alive, wp_bind]
  refine wp_send (s := s.inRound) hs (fun hanswered => ?_)
    (fun _ _ hlost => absurd hlost h.answered.not_lost) fun _ _ hnot => absurd h.answered hnot
  have hcommand : PyStr.startswith command "-" = true := PyStr.startswith_trans h.command rfl
  refine wp_mono (settleCommand_plain hcommand rfl (fun htimedOut => h.accepted ?_)
    (fun n hn => (h.notifies n hn).1) fun n hn => (h.notifies n hn).2) (fun _ s' hsettled => ?_)
    fun _ _ h => h
  · refine h.answered.2.resolve_right fun hend => ?_
    rw [answer, hend] at htimedOut
    cases htimedOut
  · obtain ⟨now, entry, hs'⟩ := hsettled
    have hcurrent : (s.inRound.exchanged (actualCommand command)).runtime.currentInferiorId = some k := h.current
    have hiff := h.follows_iff hcurrent now
    rw [hs']
    constructor
    · intro hfollows
      have hconsistent := hiff.mp ⟨hfollows.current, hfollows.running, hfollows.stopped, hfollows.described⟩
      exact ⟨hconsistent.running, hconsistent.stopped⟩
    · intro hconsistent
      have hfollows := hiff.mpr ⟨hconsistent.running, hconsistent.stopped⟩
      exact ⟨hfollows.current, hfollows.running, hfollows.stopped, hfollows.described⟩

end SingleExec

/-! ### A stop from before the command -/

/-- A session with one paused inferior, whose next command is answered by one batch. -/
def answering (records : Nat → List MiRecord) : Session Scripted where
  runtime := { transport := { controller := some {} }, state := .ready, isRunning := true
               executionState := .paused, currentInferiorId := some 1 }
  gdb := Script.play { rounds := fun _ => { own := .answering records } }

def breakpointHit : MiRecord := notifyRecord "stopped" [("reason", .str "breakpoint-hit")]

def signalReceived : MiRecord := notifyRecord "stopped" [("reason", .str "signal-received")]

/-- The inferior runs to a breakpoint. -/
def runToBreakpoint : Session Scripted := answering fun token => [resultRecord "running" token, breakpointHit]

/-- A stop from before the command is read in the batch of its `^running`, and nothing behind it. -/
def staleStop : Session Scripted := answering fun token => [signalReceived, resultRecord "running" token]

/-- The domain holds of an answer with the own `^running` and stops of the current inferior. -/
theorem singleExec_answering {records : List MiRecord} {replies : Nat → List MiRecord}
    (hread : (answering replies).inRound.nextRead = records)
    (hend : (answering replies).inRound.nextWait.2 = .completed ∨
      (answering replies).inRound.nextWait.2 = .timedOut)
    (haccepted : (parseResponse (answering replies).inRound.answer).isErrorResult = false)
    (hrunning : resultRecord "running" 1000 ∈ records)
    (hrecords : ∀ r ∈ records, r = resultRecord "running" 1000 ∨
      r.isStop = true ∧ ∃ stop, readStopFields r.payload = .ok stop ∧ stop.inferiorId = none) :
    (answering replies).SingleExec "-exec-continue" 1 where
  command := by decide +kernel
  ready := rfl
  attached := rfl
  current := rfl
  alive := rfl
  answered := ⟨rfl, hend⟩
  accepted _ := haccepted
  running := ⟨_, hread ▸ hrunning, rfl⟩
  onlyRunning r hr hresult := by
    rcases hrecords r (hread ▸ hr) with rfl | ⟨hstop, -⟩
    · rfl
    · exact absurd (isStop_of_isResultOf hresult) (by simp [hstop])
  plain r hr n hn := by
    rcases hrecords r (hread ▸ hr) with rfl | ⟨hstop, -⟩
    · cases hn
    · simp only [MiRecord.isStop, Bool.and_eq_true, beq_iff_eq] at hstop
      obtain ⟨-, rfl⟩ := notification_eq_some hn
      simp [MiNotifyRecord.isThreadGroup, hstop.2]
  stops r hr := by
    obtain ⟨hr, hstop⟩ := List.mem_filter.mp hr
    rcases hrecords r (hread ▸ hr) with rfl | ⟨-, stop, hstop, hk⟩
    · cases hstop
    · exact ⟨stop, hstop, .inl hk⟩

theorem singleExec_runToBreakpoint : runToBreakpoint.SingleExec "-exec-continue" 1 :=
  singleExec_answering rfl (.inl rfl) rfl List.mem_cons_self
    (List.forall_mem_cons.mpr ⟨.inl rfl, List.forall_mem_singleton.mpr (.inr ⟨rfl, _, rfl, rfl⟩)⟩)

theorem singleExec_staleStop : staleStop.SingleExec "-exec-continue" 1 :=
  singleExec_answering rfl (.inr rfl) rfl (List.mem_cons_of_mem _ List.mem_cons_self)
    (List.forall_mem_cons.mpr ⟨.inr ⟨rfl, _, rfl, rfl⟩, List.forall_mem_singleton.mpr (.inl rfl)⟩)

theorem follows_records_iff_runToBreakpoint :
    runToBreakpoint.SingleExec "-exec-continue" 1 ∧
      wp (executeCommandResult "-exec-continue" 30)
        (fun _ s' => FollowsRecords 1000 "-exec-continue" 1 [resultRecord "running" 1000, breakpointHit]
            s'.runtime ↔
          Consistent 1000 1 [resultRecord "running" 1000, breakpointHit] runToBreakpoint.runtime)
        (fun _ _ => False) runToBreakpoint :=
  ⟨singleExec_runToBreakpoint, follows_records_iff singleExec_runToBreakpoint 30 false⟩

/-- The command acknowledges a running inferior, and the session has it paused. -/
theorem stale_stop_overrides_running :
    staleStop.SingleExec "-exec-continue" 1 ∧
      ¬wp (executeCommandResult "-exec-continue" 30 true)
        (fun _ s' => FollowsRecords 1000 "-exec-continue" 1 staleStop.inRound.nextRead s'.runtime)
        (fun _ _ => False) staleStop := by
  refine ⟨singleExec_staleStop, fun h => ?_⟩
  exact nomatch FollowsRecords.running h rfl

end Session

end GdbMcp
