import GdbMcp.RuntimeSteps
import GdbMcp.SessionRun
import GdbMcp.TransportWait

/-! The two operations that wait for a stop without a command, and the records that reach the runtime
through them. -/

namespace GdbMcp

open Eff Session

/-- The operations that wait for a stop, behind their checks. -/
inductive StopWait where
  | waitForStop (timeoutSec : Nat) (stopReasons : List String)
  | interrupt

namespace StopWait

variable {W : Type} [Gdb W]

/-- The command that the stop event and the transcript name. -/
def command : StopWait → String
  | .waitForStop .. => "wait_for_stop"
  | .interrupt => "interrupt"

def transport : StopWait → SessionM W MiTransportResponse
  | .waitForStop timeoutSec _ => waitForStopNotification timeoutSec
  | .interrupt => interruptAndWaitForStop interruptResponseTimeoutSec

def perform : StopWait → SessionM W Bool
  | .waitForStop timeoutSec stopReasons => OperationResult.isSuccess <$> awaitStop timeoutSec stopReasons
  | .interrupt => OperationResult.isSuccess <$> sendInterrupt

/-- What a wait does to the runtime behind the update: an interrupt overwrites the current inferior. -/
def settle (wait : StopWait) (response : MiTransportResponse) (rt : SessionRuntime) : SessionRuntime :=
  match wait with
  | .waitForStop .. => rt
  | .interrupt =>
    if response.timedOut then rt.markInferiorRunning none
    else rt.markInferiorPaused (extractStopReason (parseMiResponses response.commandResponses).notify) none

/-- The polls that a wait meets. Without a controller, and without a signal sent, there are none. -/
def polls (wait : StopWait) (s : Session W) : List Poll :=
  if s.runtime.hasController then
    match wait with
    | .waitForStop timeoutSec _ => (Gdb.polls timeoutSec s.gdb).1
    | .interrupt =>
      match Gdb.kill s.gdb with
      | (.ok _, gdb) => (Gdb.polls interruptResponseTimeoutSec gdb).1
      | (.error _, _) => []
  else []

/-- The records read, in order. -/
def received (s : Session W) : List MiRecord := s.runtime.transport.received

end StopWait

/-! ### What the transport returns -/

/-- How a wait that meets these polls returns: with what the loop has collected, or with an error. -/
inductive Returned (polls : List Poll) (response : MiTransportResponse) : Prop
  | answered (hends : (waitLoop {} polls).2 = .completed ∨ (waitLoop {} polls).2 = .timedOut)
      (hresponse : response =
        { commandResponses := (waitLoop {} polls).1.commandResponses
          timedOut := (waitLoop {} polls).2 == .timedOut })
  | failed (hends : (∃ e, (waitLoop {} polls).2 = .raised e) ∨ polls = [])
      (hnone : response.commandResponses = []) (herror : response.error.isSome = true)
  | fatal (hends : (waitLoop {} polls).2.survives = false) (herror : response.error.isSome = true)

section Transport

variable {W : Type} {s s₁ : Session W} {c c' : Channel W} {response : MiTransportResponse}

theorem ok_of_transportCall {m : ChannelM W MiTransportResponse} (hrun : (transportCall m).run s = (.ok response, s₁)) :
    ∃ c, m.run s.channel = (.ok response, c) ∧ s₁.runtime.transport.received = c.client.received ∧
      (response.fatal = false → s₁ = s.withChannel c) := by
  obtain ⟨result, t, hcall, hrest⟩ := ok_of_run_bind hrun
  rcases hm : m.run s.channel with ⟨x, c⟩
  have hzoom : (onChannel m).run s = (x, s.withChannel c) := by simp only [onChannel, zoom, hm]
  rw [hzoom] at hcall
  obtain ⟨rfl, rfl⟩ := Prod.mk.inj hcall
  split at hrest
  · rename_i hfatal
    obtain ⟨hok, rfl⟩ := Prod.mk.inj hrest
    obtain rfl := Except.ok.inj hok
    exact ⟨c, rfl, rfl, fun hcalm => by cases hfatal.symm.trans hcalm⟩
  · obtain ⟨hok, rfl⟩ := Prod.mk.inj hrest
    obtain rfl := Except.ok.inj hok
    exact ⟨c, rfl, rfl, fun _ => rfl⟩

theorem run_hasController (s : Session W) :
    (MiClient.hasController : ChannelM W Bool).run s.channel = (.ok s.runtime.hasController, s.channel) := rfl

variable [Gdb W]

theorem received_exitUnlocked (c : Channel W) :
    (MiClient.exitUnlocked.run c).2.client.received = c.client.received := by
  unfold MiClient.exitUnlocked MiClient.hasController
  cases hcontroller : c.client.controller with
  | none => simp [bind, gets, hcontroller, pure]
  | some controller => simp [bind, gets, hcontroller, ensure, MiClient.call, zoom]

/-- The wait itself: what is read is noted before the wait ends. -/
theorem run_waitForStoppedNotification (timeoutSec : Nat) (c : Channel W) :
    (MiClient.waitForStoppedNotification timeoutSec).run c =
      (MiClient.conclude { commandResponses := (waitLoop {} (Gdb.polls timeoutSec c.gdb).1).1.commandResponses }
        (waitLoop {} (Gdb.polls timeoutSec c.gdb).1).2).run
          { client := { c.client with
              received := c.client.received ++ (waitLoop {} (Gdb.polls timeoutSec c.gdb).1).1.read }
            gdb := (Gdb.polls timeoutSec c.gdb).2 } := rfl

theorem received_conclude (response : MiTransportResponse) (ending : ReadEnd) (c : Channel W) :
    ((MiClient.conclude response ending).run c).2.client.received = c.client.received := by
  cases ending with
  | fatal error => rw [MiClient.conclude, run_bind_pure_state, received_exitUnlocked]
  | _ => rfl

theorem received_waitForStoppedNotification (timeoutSec : Nat) (c : Channel W) :
    ((MiClient.waitForStoppedNotification timeoutSec).run c).2.client.received =
      c.client.received ++ (waitLoop {} (Gdb.polls timeoutSec c.gdb).1).1.read := by
  rw [run_waitForStoppedNotification, received_conclude]

theorem waitForStoppedNotification_returned {timeoutSec : Nat}
    (hrun : (MiClient.waitForStoppedNotification timeoutSec).run c = (.ok response, c')) :
    Returned (Gdb.polls timeoutSec c.gdb).1 response := by
  rw [run_waitForStoppedNotification] at hrun
  cases hending : (waitLoop {} (Gdb.polls timeoutSec c.gdb).1).2 with
  | completed =>
      rw [hending] at hrun
      obtain ⟨hresponse, -⟩ := Prod.mk.inj hrun
      exact .answered (.inl hending) (by rw [hending]; exact (Except.ok.inj hresponse).symm)
  | timedOut =>
      rw [hending] at hrun
      obtain ⟨hresponse, -⟩ := Prod.mk.inj hrun
      exact .answered (.inr hending) (by rw [hending]; exact (Except.ok.inj hresponse).symm)
  | fatal error =>
      rw [hending] at hrun
      obtain ⟨_, t, -, hreturn⟩ := ok_of_run_bind hrun
      obtain ⟨hresponse, -⟩ := Prod.mk.inj hreturn
      exact .fatal (by rw [hending]; rfl) (by rw [← Except.ok.inj hresponse]; rfl)
  | raised e =>
      rw [hending] at hrun
      exact nomatch (Prod.mk.inj hrun).1

/-- An exception out of the wait is one of a read, or one in leaving a transport that has failed. -/
theorem waitForStoppedNotification_raised {timeoutSec : Nat} {e : PyError}
    (hrun : (MiClient.waitForStoppedNotification timeoutSec).run c = (.error e, c')) :
    (∃ e, (waitLoop {} (Gdb.polls timeoutSec c.gdb).1).2 = .raised e) ∨
      (waitLoop {} (Gdb.polls timeoutSec c.gdb).1).2.survives = false := by
  rw [run_waitForStoppedNotification] at hrun
  cases hending : (waitLoop {} (Gdb.polls timeoutSec c.gdb).1).2 with
  | completed =>
      rw [hending] at hrun
      exact nomatch (Prod.mk.inj hrun).1
  | timedOut =>
      rw [hending] at hrun
      exact nomatch (Prod.mk.inj hrun).1
  | fatal error => exact .inr rfl
  | raised e => exact .inl ⟨e, rfl⟩

/-- A wait returns in one of the ways above, and has noted what it has read. -/
theorem StopWait.returned {wait : StopWait} (hrun : wait.transport.run s = (.ok response, s₁)) :
    Returned (wait.polls s) response ∧
      StopWait.received s₁ = StopWait.received s ++ (waitLoop {} (wait.polls s)).1.read := by
  have hidle : ∀ {c c' : Channel W} {r : MiTransportResponse},
      ((.ok r, c') : Except PyError MiTransportResponse × Channel W) = (.ok response, c) →
      c'.client = s.runtime.transport → r.commandResponses = [] → r.error.isSome = true → Returned [] response ∧
        c.client.received = StopWait.received s ++ (waitLoop {} []).1.read := by
    intro c c' r heq hclient hnone herror
    obtain ⟨hresponse, rfl⟩ := Prod.mk.inj heq
    obtain rfl := Except.ok.inj hresponse
    exact ⟨.failed (.inr rfl) hnone herror, by rw [hclient]; exact (List.append_nil _).symm⟩
  cases wait with
  | waitForStop timeoutSec stopReasons =>
      obtain ⟨c, hcall, hreceived, -⟩ := ok_of_transportCall hrun
      rw [StopWait.received, hreceived, StopWait.polls]
      rw [MiClient.waitForStop, run_bind_ok (run_hasController s)] at hcall
      by_cases hcontroller : s.runtime.hasController = true
      · rw [if_pos hcontroller] at hcall ⊢
        exact ⟨waitForStoppedNotification_returned hcall,
          (congrArg (fun x => x.2.client.received) hcall).symm.trans (received_waitForStoppedNotification _ _)⟩
      · rw [if_neg hcontroller] at hcall ⊢
        exact hidle hcall rfl rfl rfl
  | interrupt =>
      obtain ⟨c, hcall, hreceived, -⟩ := ok_of_transportCall hrun
      rw [StopWait.received, hreceived, StopWait.polls]
      rw [MiClient.interruptAndWaitForStop, run_bind_ok (run_hasController s)] at hcall
      by_cases hcontroller : s.runtime.hasController = true
      · rw [if_pos hcontroller] at hcall ⊢
        rcases hkill : Gdb.kill s.gdb with ⟨e | _, gdb⟩
        · have hsent : (MiClient.call Gdb.kill : ChannelM W Unit).run s.channel =
              (.error e, { s.channel with gdb := gdb }) := by
            simp only [MiClient.call, zoom, Session.channel, hkill]
          rw [run_attempt_error (run_bind_error hsent)] at hcall
          exact hidle hcall rfl rfl rfl
        · have hsent : (MiClient.call Gdb.kill : ChannelM W Unit).run s.channel =
              (.ok (), { s.channel with gdb := gdb }) := by
            simp only [MiClient.call, zoom, Session.channel, hkill]
          have hread := received_waitForStoppedNotification interruptResponseTimeoutSec { s.channel with gdb := gdb }
          rcases hwait : (MiClient.waitForStoppedNotification interruptResponseTimeoutSec).run
              { s.channel with gdb := gdb } with ⟨e | r, c₁⟩
          · rw [run_attempt_error ((run_bind_ok hsent).trans hwait)] at hcall
            obtain ⟨hresponse, rfl⟩ := Prod.mk.inj hcall
            obtain rfl := Except.ok.inj hresponse
            rw [hwait] at hread
            refine ⟨?_, hread⟩
            rcases waitForStoppedNotification_raised hwait with hraised | hfatal
            · exact .failed (.inl hraised) rfl rfl
            · exact .fatal hfatal rfl
          · rw [run_attempt_ok ((run_bind_ok hsent).trans hwait)] at hcall
            obtain ⟨hresponse, rfl⟩ := Prod.mk.inj hcall
            obtain rfl := Except.ok.inj hresponse
            rw [hwait] at hread
            exact ⟨waitForStoppedNotification_returned hwait, hread⟩
      · rw [if_neg hcontroller] at hcall ⊢
        exact hidle hcall rfl rfl rfl

end Transport

/-! ### What reaches the runtime -/

section Delivery

variable {W : Type} [Gdb W] {s s' s₁ : Session W} {response : MiTransportResponse}

theorem runtime_recordTranscript {entry : CommandTranscriptEntry} {u : Unit}
    (hrun : (recordTranscript entry).run s = (.ok u, s')) :
    ∃ entry', s'.runtime = s.runtime.recordCommandTranscript entry' := by
  obtain ⟨now, t, htime, hrecord⟩ := ok_of_run_bind hrun
  obtain ⟨-, rfl⟩ := Prod.mk.inj htime
  obtain ⟨-, rfl⟩ := Prod.mk.inj hrecord
  exact ⟨_, rfl⟩

/-- A transcript entry, and then a result that is read off the runtime. -/
theorem ok_of_report {α : Type} {entry : CommandTranscriptEntry} {f : SessionRuntime → α} {a : α}
    (hrun : (do recordTranscript entry; return f (← read id) : SessionM W α).run s = (.ok a, s')) :
    (∃ entry', s'.runtime = s.runtime.recordCommandTranscript entry') ∧ a = f s'.runtime := by
  obtain ⟨_, t, hrecord, hreport⟩ := ok_of_run_bind hrun
  obtain ⟨rt, u, hread, hpure⟩ := ok_of_run_bind hreport
  obtain ⟨hrt, rfl⟩ := Prod.mk.inj hread
  obtain ⟨ha, rfl⟩ := Prod.mk.inj hpure
  refine ⟨runtime_recordTranscript hrecord, ?_⟩
  rw [← Except.ok.inj ha, ← Except.ok.inj hrt]
  rfl

/-- A wait for a stop without an error updates the runtime and reports it. -/
theorem awaitStop_answered {timeoutSec : Nat} {stopReasons : List String} {result : OperationResult WaitForStopInfo}
    (hwait : (waitForStopNotification timeoutSec).run s = (.ok response, s₁)) (hnone : response.error = none)
    (hrun : (awaitStop timeoutSec stopReasons).run s = (.ok result, s')) :
    ∃ s₂ entry, (updateRuntimeAfterCommand "wait_for_stop" (parseMiResponses response.commandResponses)).run s₁ =
        (.ok (), s₂) ∧
      s'.runtime = s₂.runtime.recordCommandTranscript entry ∧
      result = .success (waitInfo s'.runtime (!response.timedOut && stopMatches s'.runtime stopReasons)
        response.timedOut "waited" stopReasons) := by
  rw [awaitStop, run_bind_ok hwait] at hrun
  simp only [hnone] at hrun
  obtain ⟨⟨⟩, s₂, hupdate, hrest⟩ := ok_of_run_bind hrun
  cases htimedOut : response.timedOut with
  | true =>
      simp only [htimedOut, if_true] at hrest
      obtain ⟨⟨entry, hentry⟩, hinfo⟩ := ok_of_report (f := fun rt =>
        OperationResult.success (waitInfo rt false true "waited" stopReasons)) hrest
      exact ⟨s₂, entry, hupdate, hentry, hinfo⟩
  | false =>
      simp only [htimedOut, Bool.false_eq_true, if_false] at hrest
      obtain ⟨⟨entry, hentry⟩, hinfo⟩ := ok_of_report (f := fun rt =>
        OperationResult.success (waitInfo rt (stopMatches rt stopReasons) false "waited" stopReasons)) hrest
      exact ⟨s₂, entry, hupdate, hentry, hinfo⟩

theorem awaitStop_succeeded {timeoutSec : Nat} {stopReasons : List String} {info : WaitForStopInfo}
    {warnings : List String} (hrun : (awaitStop timeoutSec stopReasons).run s = (.ok (.success info warnings), s')) :
    ∃ response s₁, (waitForStopNotification timeoutSec).run s = (.ok response, s₁) ∧ response.error = none := by
  rw [awaitStop] at hrun
  obtain ⟨response, s₁, hwait, hrest⟩ := ok_of_run_bind hrun
  refine ⟨response, s₁, hwait, ?_⟩
  cases herror : response.error with
  | none => rfl
  | some error =>
      simp only [herror] at hrest
      obtain ⟨_, t, -, hpure⟩ := ok_of_run_bind hrest
      exact nomatch Except.ok.inj (Prod.mk.inj hpure).1

/-- An interrupt without an error updates the runtime and overwrites the current inferior. -/
theorem sendInterrupt_answered {result : OperationResult MessageResult}
    (hwait : (interruptAndWaitForStop interruptResponseTimeoutSec).run s = (.ok response, s₁))
    (hnone : response.error = none) (hrun : sendInterrupt.run s = (.ok result, s')) :
    ∃ s₂ entry, (updateRuntimeAfterCommand "interrupt" (parseMiResponses response.commandResponses)).run s₁ =
        (.ok (), s₂) ∧
      s'.runtime = (StopWait.interrupt.settle response s₂.runtime).recordCommandTranscript entry := by
  rw [sendInterrupt, run_bind_ok hwait] at hrun
  simp only [hnone] at hrun
  obtain ⟨⟨⟩, s₂, hupdate, hrest⟩ := ok_of_run_bind hrun
  refine ⟨s₂, ?_⟩
  split at hrest
  · rename_i htimedOut
    obtain ⟨_, s₃, hmark, hrest⟩ := ok_of_run_bind hrest
    obtain ⟨-, rfl⟩ := Prod.mk.inj hmark
    obtain ⟨_, s₄, hrecord, hpure⟩ := ok_of_run_bind hrest
    obtain ⟨-, rfl⟩ := Prod.mk.inj hpure
    obtain ⟨entry, hentry⟩ := runtime_recordTranscript hrecord
    exact ⟨entry, hupdate, by simp only [StopWait.settle, htimedOut]; exact hentry⟩
  · rename_i htimedOut
    obtain ⟨_, s₃, hmark, hrest⟩ := ok_of_run_bind hrest
    obtain ⟨-, rfl⟩ := Prod.mk.inj hmark
    obtain ⟨_, s₄, hrecord, hpure⟩ := ok_of_run_bind hrest
    obtain ⟨-, rfl⟩ := Prod.mk.inj hpure
    obtain ⟨entry, hentry⟩ := runtime_recordTranscript hrecord
    exact ⟨entry, hupdate, by simp only [StopWait.settle, htimedOut]; exact hentry⟩

/-- A wait without an error updates the runtime with the records of its response. -/
theorem StopWait.performed {wait : StopWait} {succeeded : Bool} (hrun : wait.perform.run s = (.ok succeeded, s'))
    (htransport : wait.transport.run s = (.ok response, s₁)) (hnone : response.error = none) :
    ∃ s₂ entry, (updateRuntimeAfterCommand wait.command (parseMiResponses response.commandResponses)).run s₁ =
        (.ok (), s₂) ∧
      s'.runtime = (wait.settle response s₂.runtime).recordCommandTranscript entry := by
  cases wait with
  | waitForStop timeoutSec stopReasons =>
      obtain ⟨result, hawait, -⟩ := ok_of_run_map hrun
      have hwait : (waitForStopNotification timeoutSec).run s = (.ok response, s₁) := htransport
      obtain ⟨s₂, entry, hupdate, hentry, -⟩ := awaitStop_answered hwait hnone hawait
      simp only [StopWait.command, StopWait.settle]
      exact ⟨s₂, entry, hupdate, hentry⟩
  | interrupt =>
      obtain ⟨result, hsend, -⟩ := ok_of_run_map hrun
      have hwait : (interruptAndWaitForStop interruptResponseTimeoutSec).run s = (.ok response, s₁) := htransport
      simp only [StopWait.command]
      exact sendInterrupt_answered hwait hnone hsend

/-- A wait that does not end fatally delivers all that it has read just when nothing stands behind the stop in
its batch, nor before a read that raises. What it delivers updates the runtime. -/
theorem wait_delivers_read {wait : StopWait} {read : List MiRecord}
    (hrun : wait.transport.run s = (.ok response, s₁))
    (hends : (waitLoop {} (wait.polls s)).2.survives = true)
    (hread : StopWait.received s₁ = StopWait.received s ++ read) :
    (response.commandResponses = read ↔ Undivided (wait.polls s)) ∧
    (response.error = none → ∀ succeeded s', wait.perform.run s = (.ok succeeded, s') →
      ∃ s₂ entry, (updateRuntimeAfterCommand wait.command (parseMiResponses response.commandResponses)).run s₁ =
          (.ok (), s₂) ∧
        s'.runtime = (wait.settle response s₂.runtime).recordCommandTranscript entry) := by
  refine ⟨?_, fun hnone _ _ hperform => StopWait.performed hperform hrun hnone⟩
  obtain ⟨hreturned, hreceived⟩ := StopWait.returned hrun
  rw [hread] at hreceived
  obtain rfl := List.append_cancel_left hreceived
  have hloop := @waitLoop_ends {} _ _ _ rfl hends rfl
  cases hreturned with
  | answered hanswered hresponse =>
      have hraises : ¬raises (wait.polls s) = true := by
        rw [hloop.raises_iff]
        rintro ⟨e, he⟩
        rw [he] at hanswered
        simp at hanswered
      rw [hresponse, hloop.read]
      constructor
      · intro h
        exact ⟨by simpa using h, fun hr => absurd hr hraises⟩
      · intro h
        simp [h.stop]
  | failed hfailed hnone herror =>
      rw [hnone]
      rcases hfailed with hraised | hempty
      · have hraises := hloop.raises_iff.mpr hraised
        rw [hloop.raised hraises]
        constructor
        · intro h
          exact ⟨behindFirstStop_of_raises hraises, fun _ => h.symm⟩
        · intro h
          exact (h.raised hraises).symm
      · rw [hempty]
        exact ⟨fun _ => ⟨rfl, fun _ => rfl⟩, fun _ => rfl⟩
  | fatal hfatal herror => exact nomatch hfatal.symm.trans hends

end Delivery

/-- A running session whose next wait reads one batch. -/
def waitingFor (batch : List MiRecord) : Session Scripted where
  runtime := ({ transport := { controller := some {} } } : SessionRuntime).markReady.markInferiorRunning (some 1)
  gdb :=
    { script := { rounds := fun _ => { own := .answering fun _ => batch } }, queue := [.answering fun _ => batch] }

def stopOf (group reason : String) : MiRecord :=
  notifyRecord "stopped" [("reason", .str reason), ("thread-group", .str group)]

theorem wait_delivers_read_one_stop :
    Undivided ((StopWait.waitForStop 1 []).polls (waitingFor [stopOf "i1" "breakpoint-hit"])) := by
  have hdelivers := @wait_delivers_read Scripted _ (waitingFor [stopOf "i1" "breakpoint-hit"]) _
    { commandResponses := [stopOf "i1" "breakpoint-hit"] } (.waitForStop 1 []) [stopOf "i1" "breakpoint-hit"] rfl rfl rfl
  exact hdelivers.1.mp rfl

/-- The stop of a second inferior in the batch of the first is read and delivered to nobody. -/
theorem second_stop_dropped :
    ∃ response s₁ read, (StopWait.waitForStop 1 []).transport.run
        (waitingFor [stopOf "i1" "breakpoint-hit", stopOf "i2" "breakpoint-hit"]) = (.ok response, s₁) ∧
      response.fatal = false ∧
      StopWait.received s₁ =
        StopWait.received (waitingFor [stopOf "i1" "breakpoint-hit", stopOf "i2" "breakpoint-hit"]) ++ read ∧
      response.commandResponses ≠ read := by
  refine ⟨_, _, [stopOf "i1" "breakpoint-hit", stopOf "i2" "breakpoint-hit"], rfl, rfl, rfl, fun h => ?_⟩
  exact absurd (congrArg List.length h) (by decide)

end GdbMcp
