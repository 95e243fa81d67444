import GdbMcp.RuntimeHistory
import GdbMcp.SessionRefusal

/-! What a finish reports. It falls back on the last stop event, which is one of an earlier command where the finish
has heard of none. -/

namespace GdbMcp

open Eff Session

/-! ### What records no stop event -/

theorem Updated.log {starts : Int → Prop} {rt rt' : SessionRuntime} (h : Updated (Mutator.Quiet starts) rt rt') :
    rt'.log = rt.log := by
  refine h.keeps (P := fun rt' => rt'.log = rt.log) (fun rt' m hm ih => ?_) (fun _ _ ih => ih) rfl
  refine Eq.trans (@SessionRuntime.log_take rt' (.mutate m) ?_ ?_ fun _ _ _ h => nomatch h) ih
  · cases m <;> first | rfl | exact nomatch hm.isUpdate
  · rintro event ⟨⟩
    exact hm

namespace Session

variable {W : Type} {α : Type}

/-- A computation that records no stop event. -/
abbrev KeepsLog (m : SessionM W α) : Prop := Within (Same fun s : Session W => s.runtime.log) m

theorem keepsLog_onChannel (m : ChannelM W α) : KeepsLog (onChannel m) := by
  refine ⟨fun s => ?_⟩
  rw [onChannel, wp_zoom]
  exact wp_mono (wp_true m s.channel) (fun _ _ _ => rfl) fun _ _ _ => rfl

theorem keepsLog_onRuntime {starts : Int → Prop} {m : RuntimeM α} (hm : QuietUpdate starts m) :
    KeepsLog (onRuntime m : SessionM W α) := by
  refine ⟨fun s => ?_⟩
  rw [onRuntime, wp_zoom]
  exact wp_mono (hm.outcome s.runtime) (fun _ _ h => h.log) fun _ _ h => h.log

theorem keepsLog_transportCall (m : ChannelM W MiTransportResponse) : KeepsLog (transportCall m) := by
  refine (keepsLog_onChannel m).bind fun result => Within.ite ?_ (Within.pure _)
  exact Within.bind ⟨fun s => rfl⟩ fun _ => Within.pure _

theorem keepsLog_applyInventory (result : MiTransportResponse) : KeepsLog (applyInventory result : SessionM W Unit) := by
  unfold applyInventory
  refine Within.ite (Within.pure _) ((Within.gets _).bind fun current => ?_)
  refine Within.bind ⟨fun s => ?_⟩ fun payload => ⟨fun s => SessionRuntime.log_updateInferiorInventory _ _ _ _⟩
  rw [onRuntime, wp_zoom, wp_ofExcept]
  exact ⟨fun _ _ => rfl, fun _ _ => rfl⟩

variable [Gdb W]

theorem keepsLog_reachStop (notifies : List MiNotifyRecord) : KeepsLog (reachStop notifies : SessionM W Unit) := by
  refine (keepsLog_onRuntime (quiet_scanNotifies {} notifies)).bind fun scan => Within.ite ?_ (Within.pure _)
  refine (Within.gets _).bind fun _ => Within.ite ?_ (Within.pure _)
  exact (keepsLog_transportCall _).bind fun result => keepsLog_applyInventory result

/-! ### Commands of the machine interface -/

variable {s s' s₁ : Session W} {command : String} {timeoutSec : Nat} {allow : Bool} {response : MiTransportResponse}
  {info : CommandExecutionInfo} {warnings : List String}

/-- A command that succeeds has updated the runtime with its records, and reports them. -/
theorem settleCommand_succeeded (hnone : response.error = none)
    (hrun : (settleCommand command timeoutSec allow response).run s = (.ok (.success info warnings), s')) :
    (isCliCommand command = false → extractMiResultPayload info = (parseResponse response).result) ∧
      ∃ t entry, (updateRuntimeAfterCommand command (parseResponse response)).run s = (.ok (), t) ∧
        s'.runtime = t.runtime.recordCommandTranscript entry := by
  simp only [settleCommand, hnone] at hrun
  split at hrun
  · obtain ⟨_, t, hupdate, hrest⟩ := ok_of_run_bind hrun
    obtain ⟨state, u, hread, hrest⟩ := ok_of_run_bind hrest
    obtain ⟨-, rfl⟩ := Prod.mk.inj hread
    split at hrest
    · obtain ⟨_, v, hrecord, hpure⟩ := ok_of_run_bind hrest
      obtain ⟨hvalue, rfl⟩ := Prod.mk.inj hpure
      obtain ⟨rfl, -⟩ := OperationResult.success.inj (Except.ok.inj hvalue)
      obtain ⟨entry, hentry⟩ := runtime_recordTranscript hrecord
      exact ⟨fun _ => rfl, t, entry, hupdate, hentry⟩
    · obtain ⟨_, v, hrecord, hpure⟩ := ok_of_run_bind hrest
      cases Except.ok.inj (Prod.mk.inj hpure).1
  · rw [settleAnswer] at hrun
    split at hrun
    · obtain ⟨_, v, hrecord, hpure⟩ := ok_of_run_bind hrun
      cases Except.ok.inj (Prod.mk.inj hpure).1
    · obtain ⟨_, t, hupdate, hrest⟩ := ok_of_run_bind hrun
      obtain ⟨_, v, hrecord, hpure⟩ := ok_of_run_bind hrest
      obtain ⟨hvalue, rfl⟩ := Prod.mk.inj hpure
      obtain ⟨rfl, -⟩ := OperationResult.success.inj (Except.ok.inj hvalue)
      obtain ⟨entry, hentry⟩ := runtime_recordTranscript hrecord
      refine ⟨fun hcli => ?_, t, entry, hupdate, hentry⟩
      rw [commandInfo, hcli]
      rfl

/-- The stop that a command has heard of is the last one after it; without one the log is the one before. -/
inductive LogsHeard (command : String) (notifies : List MiNotifyRecord) (rt rt' : SessionRuntime) : Prop
  | stop {stop : StopFields} {k : Option Int} {now : Nat} (hheard : heardStop notifies = some (.ok stop))
      (hrecords : rt.Records [buildStopEvent command stop k now] rt')
  | quiet (hheard : heardStop notifies = none) (hlog : rt'.log = rt.log)

theorem logsHeard_of_succeeded (hmi : PyStr.startswith command "-" = true)
    (hrun : (executeCommandResult command timeoutSec allow).run s = (.ok (.success info warnings), s')) :
    ∃ response s₁, (commandHeard command timeoutSec).run s = (.ok response, s₁) ∧ response.error = none ∧
      extractMiResultPayload info = (parseResponse response).result ∧
      LogsHeard command (parseResponse response).notify s.runtime s'.runtime := by
  obtain ⟨response, s₁, hheard, hnone⟩ := executeCommandResult_succeeded hrun
  have hsettle := executeCommandResult_heard hrun hheard hnone
  have hcli : isCliCommand command = false := by
    rw [isCliCommand, PyStr.startswith_strip hmi (by decide)]
    rfl
  obtain ⟨hpayload, t, entry, hupdate, hentry⟩ := settleCommand_succeeded hnone hsettle
  refine ⟨response, s₁, hheard, hnone, hpayload hcli, ?_⟩
  obtain ⟨u, hreach, hsettles⟩ := update_settles (applyCommandText_mi hmi _) hupdate
  obtain ⟨client, hclient⟩ := commandHeard_runtime hheard hnone
  have hbefore : u.runtime.log = s.runtime.log := by
    have hkept := (keepsLog_reachStop (parseResponse response).notify).run s₁
    rw [hreach] at hkept
    rw [Same, hclient] at hkept
    exact hkept
  have hafter : s'.runtime.log = t.runtime.log := by
    rw [hentry]
    rfl
  cases hsettles with
  | @stop stop now hstop hruntime =>
      rw [hruntime] at hafter
      have hrecords := SessionRuntime.records_applyStop u.runtime command stop now
      exact .stop hstop (((SessionRuntime.Records.of_log hbefore).trans hrecords).trans (.of_log hafter))
  | running hquiet hclass hruntime =>
      rw [hruntime] at hafter
      exact .quiet hquiet ((hafter.trans (SessionRuntime.log_updateInferiorState _ _ _)).trans hbefore)
  | quiet hquiet hclass hruntime =>
      rw [hruntime] at hafter
      exact .quiet hquiet (hafter.trans hbefore)

end Session

/-! ### The fallbacks of a finish -/

/-- The payload has none of the fields that a finish reports. -/
def NamesNoReturn (payload : Value) : Prop :=
  asText (payload.get "return-value") = none ∧ asText (payload.get "gdb-result-var") = none ∧
    asOptionalMapping (payload.get "frame") = none

/-- Neither the payload of the result nor, where that is empty, the last stop event tells of a return, and the last
stop event has no frame. -/
def NothingStale (own : Value) (last : Option StopEvent) : Prop :=
  (∀ event, last = some event → event.frame = none) ∧
    if own.isFalsy then ∀ event, last = some event → NamesNoReturn event.details else NamesNoReturn own

/-- What a finish reports is in the records of its response, and it reports nothing when no stop was recorded. -/
structure FinishInfo.FromCall (info : FinishInfo) (records : List MiRecord) (before after : SessionRuntime) : Prop where
  returnValue : ∀ text, info.returnValue = some text →
    ∃ r ∈ records, asText (r.payload.get "return-value") = some text
  gdbResultVar : ∀ text, info.gdbResultVar = some text →
    ∃ r ∈ records, asText (r.payload.get "gdb-result-var") = some text
  frame : ∀ frame, info.frame = some frame → ∃ r ∈ records, asOptionalMapping (r.payload.get "frame") = some frame
  unstopped : after.stopEvents = before.stopEvents →
    info.returnValue = none ∧ info.gdbResultVar = none ∧ info.frame = none

theorem get_of_isFalsy {v : Value} (h : v.isFalsy = true) (key : String) : v.get key = .none := by
  cases v with
  | dict fields =>
      cases fields with
      | nil => rfl
      | cons => exact nomatch h
  | _ => rfl

theorem namesNoReturn_of_isFalsy {v : Value} (h : v.isFalsy = true) : NamesNoReturn v := by
  simp only [NamesNoReturn, get_of_isFalsy h]
  exact ⟨rfl, rfl, rfl⟩

/-- The payload that a finish reads its fields from. -/
def finishPayload (own : Value) (last : Option StopEvent) : Value :=
  if own.isFalsy && last.isSome then last.elim (.dict []) StopEvent.details else own

theorem namesNoReturn_finishPayload (own : Value) (last : Option StopEvent) :
    NamesNoReturn (finishPayload own last) ↔
      if own.isFalsy then ∀ event, last = some event → NamesNoReturn event.details else NamesNoReturn own := by
  unfold finishPayload
  by_cases hown : own.isFalsy = true
  · rw [hown, if_pos rfl]
    cases last with
    | none => exact iff_of_true (namesNoReturn_of_isFalsy hown) fun _ h => nomatch h
    | some event =>
        constructor
        · rintro h _ ⟨⟩
          exact h
        · intro h
          exact h event rfl
  · rw [Bool.not_eq_true] at hown
    rw [hown, if_neg (by simp)]
    rfl

section Finish

variable {rt : SessionRuntime} {info : CommandExecutionInfo} {own : Value}

/-- A finish reports nothing just when nothing is left of the last stop. -/
theorem finishInfo_silent_iff (hown : extractMiResultPayload info = own) :
    (finishInfo info rt).returnValue = none ∧ (finishInfo info rt).gdbResultVar = none ∧
      (finishInfo info rt).frame = none ↔ NothingStale own.asDict rt.lastStopEvent := by
  have hframe : (finishInfo info rt).frame = none ↔
      asOptionalMapping ((finishPayload own.asDict rt.lastStopEvent).get "frame") = none ∧
        ∀ event, rt.lastStopEvent = some event → event.frame = none := by
    show (asOptionalMapping ((finishPayload (extractMiResultPayload info).asDict rt.lastStopEvent).get "frame") <|>
      rt.lastStopEvent.bind StopEvent.frame) = none ↔ _
    rw [hown, Option.orElse_eq_none, Option.bind_eq_none_iff]
  rw [hframe, NothingStale, ← namesNoReturn_finishPayload, NamesNoReturn, ← hown]
  tauto

/-- The fields of the payload are those of a record. -/
def HeldBy (records : List MiRecord) (payload : Value) : Prop :=
  ∃ r ∈ records, ∀ key, r.payload.get key = payload.get key

/-- What a finish reports behind a stop is in its result or in the stop. -/
theorem finishInfo_held {event : StopEvent} {records : List MiRecord} (hown : extractMiResultPayload info = own)
    (hlast : rt.lastStopEvent = some event) (hframe : event.frame = asOptionalMapping (event.details.get "frame"))
    (hpayload : own.asDict.isFalsy = false → HeldBy records own.asDict) (hdetails : HeldBy records event.details) :
    ∃ payload payload', HeldBy records payload ∧ HeldBy records payload' ∧
      (finishInfo info rt).returnValue = asText (payload.get "return-value") ∧
      (finishInfo info rt).gdbResultVar = asText (payload.get "gdb-result-var") ∧
      (finishInfo info rt).frame = asOptionalMapping (payload'.get "frame") := by
  have hheld : HeldBy records (finishPayload own.asDict rt.lastStopEvent) := by
    rw [finishPayload, hlast]
    cases hfalsy : own.asDict.isFalsy with
    | true => exact hdetails
    | false => exact hpayload hfalsy
  have hinfo : (finishInfo info rt).frame =
      (asOptionalMapping ((finishPayload own.asDict rt.lastStopEvent).get "frame") <|> event.frame) := by
    rw [← hown]
    show (_ <|> rt.lastStopEvent.bind StopEvent.frame) = _
    rw [hlast]
    rfl
  cases hfound : asOptionalMapping ((finishPayload own.asDict rt.lastStopEvent).get "frame") with
  | some frame =>
      refine ⟨_, _, hheld, hheld, by rw [← hown]; rfl, by rw [← hown]; rfl, ?_⟩
      rw [hinfo, hfound]
      rfl
  | none =>
      refine ⟨_, _, hheld, hdetails, by rw [← hown]; rfl, by rw [← hown]; rfl, ?_⟩
      rw [hinfo, hfound, hframe]
      rfl

theorem heldBy_result {response : MiTransportResponse} (h : (parseResponse response).result.asDict.isFalsy = false) :
    HeldBy (response.commandResponses ++ response.asyncNotifications) (parseResponse response).result.asDict := by
  have hresult : (parseResponse response).result = (((response.commandResponses.filter (·.type == .result)).getLast?).map
      MiRecord.payload).getD .none := (result_parseMiResponses response.commandResponses).2
  cases hlast : (response.commandResponses.filter (·.type == .result)).getLast? with
  | none =>
      rw [hresult, hlast] at h
      exact nomatch h
  | some r =>
      have hmem : r ∈ response.commandResponses := List.mem_of_mem_filter (List.mem_of_getLast? hlast)
      refine ⟨r, List.mem_append_left _ hmem, fun key => ?_⟩
      rw [Value.get_asDict, hresult, hlast]
      rfl

theorem heldBy_stop {response : MiTransportResponse} {stop : StopFields}
    (h : heardStop (parseResponse response).notify = some (.ok stop)) :
    HeldBy (response.commandResponses ++ response.asyncNotifications) stop.payload.asDict := by
  obtain ⟨n, hfind, hread⟩ := Option.map_eq_some_iff.mp h
  obtain ⟨r, hmem, hnotification⟩ := mem_notify_parseResponse (List.mem_of_find?_eq_some hfind)
  refine ⟨r, hmem, fun key => ?_⟩
  rw [Value.get_asDict, readStopFields_payload hread, (notification_eq_some hnotification).2]

end Finish

section Fresh

variable {W : Type} [Gdb W] {s s' : Session W} {info : FinishInfo} {warnings : List String}

/-- What a finish reports is of its own call just when it has heard of a stop, or nothing is left of an earlier one. -/
theorem finish_fresh_iff (a : ExecArgs) (hrun : (finish a).run s = (.ok (.success info warnings), s')) :
    ∃ response s₁,
      (commandHeard (execCommand "-exec-finish" a.reverse) a.timeoutSec).run s = (.ok response, s₁) ∧
      (info.FromCall (response.commandResponses ++ response.asyncNotifications) s.runtime s'.runtime ↔
        (heardStop (parseResponse response).notify).isSome ∨
          NothingStale (parseResponse response).result.asDict s.runtime.lastStopEvent) := by
  have hmi : PyStr.startswith (execCommand "-exec-finish" a.reverse) "-" = true := by
    cases a.reverse <;> decide
  obtain ⟨result, s₂, hexec, hrest⟩ := ok_of_run_bind hrun
  cases result with
  | error message fatal details code => cases Except.ok.inj (Prod.mk.inj hrest).1
  | success commandInfo warnings' =>
      obtain ⟨hvalue, rfl⟩ := Prod.mk.inj hrest
      obtain ⟨rfl, -⟩ := OperationResult.success.inj (Except.ok.inj hvalue)
      obtain ⟨response, s₁, hheard, -, hown, hlogs⟩ := logsHeard_of_succeeded hmi hexec
      refine ⟨response, s₁, hheard, ?_⟩
      have hsilent := @finishInfo_silent_iff s₂.runtime commandInfo _ hown
      cases hlogs with
      | stop hstop hrecords =>
          have hlast := hrecords.last
          rw [List.getLast?_singleton, Option.some_or] at hlast
          obtain ⟨payload, payload', hheld, hheld', hvalue, hvar, hframe⟩ :=
            finishInfo_held hown hlast rfl heldBy_result (heldBy_stop hstop)
          obtain ⟨r, hmem, hget⟩ := hheld
          obtain ⟨r', hmem', hget'⟩ := hheld'
          refine iff_of_true ⟨fun text h => ⟨r, hmem, ?_⟩, fun text h => ⟨r, hmem, ?_⟩, fun frame h => ⟨r', hmem', ?_⟩, ?_⟩
            (.inl (by rw [hstop]; rfl))
          · rw [hget, ← h]
            exact hvalue.symm
          · rw [hget, ← h]
            exact hvar.symm
          · rw [hget', ← h]
            exact hframe.symm
          · intro h
            exact absurd (hrecords.stopEvents.symm.trans h) (by simp)
      | quiet hquiet hlog =>
          simp only [SessionRuntime.log, Prod.mk.injEq] at hlog
          obtain ⟨hevents, -, -, hlast⟩ := hlog
          rw [hquiet, ← hlast, ← hsilent]
          constructor
          · intro h
            exact .inr (h.unstopped hevents)
          · intro h
            obtain ⟨hvalue, hvar, hframe⟩ := h.resolve_left fun h => by cases h
            refine ⟨fun text h => ?_, fun text h => ?_, fun frame h => ?_, fun _ => ⟨hvalue, hvar, hframe⟩⟩
            · cases hvalue.symm.trans h
            · cases hvar.symm.trans h
            · cases hframe.symm.trans h

end Fresh

/-- A session that has stopped at a breakpoint in `inner`, and whose debugger answers a command with these records. -/
def stoppedInInner (records : Nat → List MiRecord) : Session Scripted where
  runtime := ({ transport := { controller := some {} } } : SessionRuntime).markReady.applyStop "-exec-continue"
    { payload := .dict [("reason", .str "breakpoint-hit"), ("frame", .dict [("func", .str "inner")])]
      reason := some "breakpoint-hit" } 0
  gdb := Script.play { rounds := fun _ => { own := .answering records } }

theorem finish_fresh_iff_returned : ∃ info warnings s' response s₁,
    (finish {}).run (stoppedInInner fun token => [resultRecord "running" token, stopOf "i1" "function-finished"]) =
      (.ok (.success info warnings), s') ∧
    (commandHeard "-exec-finish" defaultTimeoutSec).run
      (stoppedInInner fun token => [resultRecord "running" token, stopOf "i1" "function-finished"]) = (.ok response, s₁) ∧
    (info.FromCall (response.commandResponses ++ response.asyncNotifications)
        (stoppedInInner fun token => [resultRecord "running" token, stopOf "i1" "function-finished"]).runtime s'.runtime ↔
      (heardStop (parseResponse response).notify).isSome ∨ NothingStale (parseResponse response).result.asDict
        (stoppedInInner fun token => [resultRecord "running" token, stopOf "i1" "function-finished"]).runtime.lastStopEvent) := by
  have hrun : ∃ info warnings s',
      (finish {}).run (stoppedInInner fun token => [resultRecord "running" token, stopOf "i1" "function-finished"]) =
        (.ok (.success info warnings), s') := ⟨_, _, _, rfl⟩
  obtain ⟨info, warnings, s', hrun⟩ := hrun
  obtain ⟨response, s₁, hheard, hiff⟩ := finish_fresh_iff {} hrun
  exact ⟨info, warnings, s', response, s₁, hrun, hheard, hiff⟩

/-- A finish that is acknowledged, and reports the frame that the program stopped in before. -/
theorem acknowledged_finish_stale : ∃ info warnings s',
    (finish { waitForStop := false }).run (stoppedInInner fun token => [resultRecord "running" token]) =
      (.ok (.success info warnings), s') ∧
    s'.runtime.stopEvents = (stoppedInInner fun token => [resultRecord "running" token]).runtime.stopEvents ∧
    info.executionState = .running ∧ info.frame = some (.dict [("func", .str "inner")]) :=
  ⟨_, _, _, rfl, rfl, rfl, rfl⟩

end GdbMcp
