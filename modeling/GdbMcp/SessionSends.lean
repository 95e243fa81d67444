import GdbMcp.SessionAcknowledged
import GdbMcp.TransportMatching

/-! The lines that a session sends. A command is sent at most once, and behind it only the query of the inferiors; what
is done to the runtime sends nothing. -/

namespace GdbMcp

open Eff Session

namespace SessionRuntime

variable (rt : SessionRuntime)

/-- The lines that the session has sent, the latest one last. -/
def lines : List String := rt.transport.sent.map Prod.snd

theorem lines_of_transport {rt rt' : SessionRuntime} (h : rt'.transport = rt.transport) : rt'.lines = rt.lines := by
  rw [lines, lines, h]

theorem lines_of_life {rt rt' : SessionRuntime} (h : rt'.life = rt.life) : rt'.lines = rt.lines :=
  lines_of_transport (congrArg (fun life => life.2.2) h)

theorem lines_apply (m : Mutator) : (rt.apply m).lines = rt.lines := by
  cases hupdate : m.isUpdate with
  | true => exact lines_of_life (rt.life_apply hupdate)
  | false =>
      cases m with
      | markReady =>
          have hsynchronized : ∀ rt : SessionRuntime, rt.synchronizeSelectedState.transport = rt.transport := by
            intro rt
            unfold synchronizeSelectedState
            split <;> rfl
          exact lines_of_transport (hsynchronized _)
      | beginStartup _ | markFailed _ | markTransportTerminated _ | markStopped => rfl
      | _ => exact nomatch hupdate

end SessionRuntime

/-! ### One call -/

section Channel

open MiClient

variable {W : Type} [Gdb W] {α : Type}

/-- The calls that send nothing. -/
abbrev SendsNothing (m : ChannelM W α) : Prop := m.Within (OnClient (Same MiClient.sent))

theorem silent_isAlive : SendsNothing (MiClient.isAlive : ChannelM W Bool) :=
  within_hasController.bind fun _ => Within.ite ((within_observe _).bind fun _ => Within.pure _) (Within.pure _)

/-- A controlled client sends the line, whatever becomes of the write and of the wait. -/
theorem sent_send (command : String) (timeoutSec : Nat) (c : Channel W) :
    ((MiClient.sendCommandAndWaitForPrompt command timeoutSec).run c).2.client.sent =
      if c.client.controller.isSome then c.client.sent ++ [(c.client.commandToken, command)] else c.client.sent := by
  have hcontrolled : (MiClient.hasController : ChannelM W Bool).run c = (.ok c.client.controller.isSome, c) := rfl
  rw [MiClient.sendCommandAndWaitForPrompt, run_bind_ok hcontrolled]
  cases c.client.controller.isSome with
  | false => rfl
  | true =>
      have htoken : (takeToken command : ChannelM W Nat).run c = (.ok c.client.commandToken, _) := rfl
      rw [if_pos rfl, run_bind_ok htoken, if_pos rfl]
      -- the write and the wait behind it
      refine Within.run (R := OnClient (Same MiClient.sent)) ?_ _
      refine (Within.attempt ((within_call _).map _) fun e => Within.pure _).bind fun written => ?_
      rcases written with (_ | _ | _ | _ | _) | _
      · exact within_exit.bind fun _ => Within.pure _
      · exact Within.raise _
      · exact Within.raise _
      · exact Within.raise _
      · exact Within.raise _
      · exact within_awaitResult _ timeoutSec

end Channel

/-! ### What the operations send -/

namespace Session

variable {W : Type} [Gdb W] {α : Type} {P : String → Prop}

/-- Only lines of this kind have been sent. -/
def SentOnly (P : String → Prop) (s s' : Session W) : Prop :=
  ∃ later, s'.runtime.lines = s.runtime.lines ++ later ∧ ∀ line ∈ later, P line

instance : Std.Refl (SentOnly P : Session W → Session W → Prop) :=
  ⟨fun _ => ⟨[], (List.append_nil _).symm, fun _ h => nomatch h⟩⟩

instance : IsTrans (Session W) (SentOnly P) := by
  refine ⟨fun s s₁ s₂ h h' => ?_⟩
  obtain ⟨later, hlater, hP⟩ := h
  obtain ⟨later', hlater', hP'⟩ := h'
  refine ⟨later ++ later', by rw [hlater', hlater, List.append_assoc], fun line hline => ?_⟩
  exact (List.mem_append.mp hline).elim (hP line) (hP' line)

/-- The computations that send only lines of this kind. -/
abbrev SendsOnly (P : String → Prop) (m : SessionM W α) : Prop := m.Within (SentOnly P)

omit [Gdb W] in
theorem SendsOnly.mono {P' : String → Prop} {m : SessionM W α} (hm : SendsOnly P m) (himp : ∀ line, P line → P' line) :
    SendsOnly P' m :=
  Within.mono hm fun _ _ ⟨later, hlines, hP⟩ => ⟨later, hlines, fun line hline => himp line (hP line hline)⟩

omit [Gdb W] in
theorem SentOnly.of_same {s s' : Session W} (h : s'.runtime.lines = s.runtime.lines) : SentOnly P s s' :=
  ⟨[], h.trans (List.append_nil _).symm, fun _ h => nomatch h⟩

omit [Gdb W] in
theorem sendsOnly_read (f : SessionRuntime → α) : SendsOnly P (read f : SessionM W α) := Within.gets _

omit [Gdb W] in
theorem sendsOnly_onRuntime {m : RuntimeM α} (hm : m.Within (Same SessionRuntime.lines)) :
    SendsOnly P (onRuntime m : SessionM W α) := by
  refine ⟨fun s => ?_⟩
  rw [onRuntime, wp_zoom]
  exact wp_mono (hm.outcome s.runtime) (fun _ _ h => .of_same h) fun _ _ h => .of_same h

omit [Gdb W] in
theorem sendsOnly_quiet {starts : Int → Prop} {m : RuntimeM α} (hm : QuietUpdate starts m) :
    SendsOnly P (onRuntime m : SessionM W α) :=
  sendsOnly_onRuntime (Within.mono hm.keepsLife fun _ _ h => SessionRuntime.lines_of_life h)

omit [Gdb W] in
theorem sendsOnly_update {f : SessionRuntime → SessionRuntime} (hf : ∀ rt : SessionRuntime, (f rt).lines = rt.lines) :
    SendsOnly P (update f : SessionM W Unit) :=
  sendsOnly_onRuntime (Within.modify hf)

omit [Gdb W] in
theorem sendsOnly_mutate {f : SessionRuntime → SessionRuntime} (m : SessionRuntime → Mutator)
    (hf : ∀ rt, f rt = rt.apply (m rt)) : SendsOnly P (update f : SessionM W Unit) :=
  sendsOnly_update fun rt => hf rt ▸ rt.lines_apply (m rt)

omit [Gdb W] in
theorem sendsOnly_onChannel {m : ChannelM W α} (hm : SendsNothing m) : SendsOnly P (onChannel m) := by
  refine ⟨fun s => ?_⟩
  have hsent : ∀ c : Channel W, OnClient (Same MiClient.sent) s.channel c → SentOnly P s (s.withChannel c) :=
    fun c h => .of_same (congrArg (List.map Prod.snd) h)
  rw [onChannel, wp_zoom]
  exact wp_mono (hm.outcome s.channel) (fun _ c h => hsent c h) fun _ c h => hsent c h

theorem sendsOnly_isGdbAlive : SendsOnly P (isGdbAlive : SessionM W Bool) := sendsOnly_onChannel silent_isAlive

theorem sendsOnly_time : SendsOnly P (time : SessionM W Nat) := sendsOnly_onChannel (within_observe _)

omit [Gdb W] in
theorem sendsOnly_handleDeadTransport (message : String) : SendsOnly P (handleDeadTransport message : SessionM W Unit) :=
  sendsOnly_mutate (fun _ => .markTransportTerminated message) fun _ => rfl

/-- The lines behind a send from the session. -/
theorem lines_send (command : String) (timeoutSec : Nat) (s : Session W) :
    ((sendCommandAndWaitForPrompt command timeoutSec).run s).2.runtime.lines =
      if s.runtime.hasController then s.runtime.lines ++ [command] else s.runtime.lines := by
  have hsent := sent_send command timeoutSec s.channel
  have hlines : ((sendCommandAndWaitForPrompt command timeoutSec).run s).2.runtime.lines =
      ((MiClient.sendCommandAndWaitForPrompt command timeoutSec).run s.channel).2.client.sent.map Prod.snd := by
    simp only [Session.sendCommandAndWaitForPrompt, transportCall, bind, run_onChannel]
    rcases (MiClient.sendCommandAndWaitForPrompt command timeoutSec).run s.channel with ⟨e | response, c⟩
    · rfl
    · cases hfatal : response.fatal <;> simp [hfatal] <;> rfl
  rw [hlines, hsent]
  cases hcontroller : s.runtime.hasController with
  | false =>
      rw [if_neg (show ¬s.channel.client.controller.isSome = true from Bool.eq_false_iff.mp hcontroller), if_neg (by decide)]
      rfl
  | true =>
      rw [if_pos (show s.channel.client.controller.isSome = true from hcontroller), if_pos rfl, List.map_append]
      rfl

theorem sendsOnly_send {command : String} (hcommand : P command) (timeoutSec : Nat) :
    SendsOnly P (sendCommandAndWaitForPrompt command timeoutSec : SessionM W _) := by
  refine Within.of_run fun s => ?_
  have hlines := lines_send command timeoutSec s
  split at hlines
  · exact ⟨[command], hlines, fun line hline => List.mem_singleton.mp hline ▸ hcommand⟩
  · exact .of_same hlines

omit [Gdb W] in
theorem sendsOnly_applyInventory (result : MiTransportResponse) :
    SendsOnly P (applyInventory result : SessionM W Unit) := by
  unfold applyInventory
  refine Within.ite (Within.pure _) ((sendsOnly_read _).bind fun current => ?_)
  refine (sendsOnly_onRuntime (Within.ofExcept _)).bind fun payload => ?_
  exact sendsOnly_mutate (fun _ => .updateInferiorInventory _ _ _) fun _ => rfl

theorem sendsOnly_recordTranscript (entry : CommandTranscriptEntry) :
    SendsOnly P (recordTranscript entry : SessionM W Unit) :=
  sendsOnly_time.bind fun _ => sendsOnly_mutate (fun _ => .recordCommandTranscript _) fun _ => rfl

/-- The query of the inferiors, as it is sent. -/
def inventoryLine : String := wrapCliCommand "info inferiors"

section Settled

variable (hquery : P inventoryLine)
include hquery

theorem sendsOnly_refresh : SendsOnly P (refreshInferiorInventoryFromGdb : SessionM W Unit) := by
  refine (sendsOnly_read _).bind fun _ => Within.ite ?_ (Within.pure _)
  exact (sendsOnly_send hquery _).bind fun result => sendsOnly_applyInventory result

theorem sendsOnly_applyScan (command : String) (resultClass : Option String) (scan : StopScan) :
    SendsOnly P (applyScan command resultClass scan : SessionM W Unit) := by
  unfold applyScan
  cases scan.stop with
  | some stop =>
      refine (Within.ite (sendsOnly_refresh hquery) (Within.pure _)).bind fun _ => sendsOnly_time.bind fun now => ?_
      exact sendsOnly_update fun rt => SessionRuntime.lines_of_life (rt.life_applyStop command stop now)
  | none =>
      refine Within.ite ?_ (Within.pure _)
      exact sendsOnly_mutate (fun rt => .markInferiorRunning rt.currentInferiorId) fun _ => rfl

theorem sendsOnly_updateRuntimeAfterCommand (command : String) (parsed : ParsedMiResponse) :
    SendsOnly P (updateRuntimeAfterCommand command parsed : SessionM W Unit) := by
  refine (sendsOnly_quiet (quiet_scanNotifies {} parsed.notify)).bind fun scan => ?_
  refine (sendsOnly_applyScan hquery command _ scan).bind fun _ => ?_
  exact sendsOnly_quiet (@quiet_applyCommandText (fun _ => False) command parsed)

theorem sendsOnly_settleTimeout (command : String) (timeoutSec : Nat) (allow : Bool) (parsed : ParsedMiResponse) :
    SendsOnly P (settleTimeout command timeoutSec allow parsed : SessionM W _) := by
  refine (sendsOnly_updateRuntimeAfterCommand hquery command parsed).bind fun _ => (sendsOnly_read _).bind fun _ => ?_
  exact Within.ite ((sendsOnly_recordTranscript _).bind fun _ => Within.pure _)
    ((sendsOnly_recordTranscript _).bind fun _ => Within.pure _)

theorem sendsOnly_settleAnswer (command : String) (parsed : ParsedMiResponse) :
    SendsOnly P (settleAnswer command parsed : SessionM W _) := by
  refine Within.ite ((sendsOnly_recordTranscript _).bind fun _ => Within.pure _) ?_
  refine (sendsOnly_updateRuntimeAfterCommand hquery command parsed).bind fun _ => ?_
  exact (sendsOnly_recordTranscript _).bind fun _ => Within.pure _

theorem sendsOnly_settleCommand (command : String) (timeoutSec : Nat) (allow : Bool) (result : MiTransportResponse) :
    SendsOnly P (settleCommand command timeoutSec allow result : SessionM W _) := by
  unfold settleCommand
  cases result.error with
  | some error => exact (sendsOnly_recordTranscript _).bind fun _ => Within.pure _
  | none => exact Within.ite (sendsOnly_settleTimeout hquery _ _ _ _) (sendsOnly_settleAnswer hquery _ _)

theorem sendsOnly_executeCommandResult {command : String} (hcommand : P (actualCommand command)) (timeoutSec : Nat)
    (allow : Bool) : SendsOnly P (executeCommandResult command timeoutSec allow : SessionM W _) := by
  refine (sendsOnly_read _).bind fun _ => Within.ite ?_ (Within.pure _)
  refine sendsOnly_isGdbAlive.bind fun _ => Within.ite ?_ ?_
  · exact (sendsOnly_send hcommand _).bind fun result => sendsOnly_settleCommand hquery _ _ _ result
  · refine (sendsOnly_handleDeadTransport _).bind fun _ => ?_
    exact (sendsOnly_recordTranscript _).bind fun _ => Within.pure _

end Settled

/-- To ask whether the process lives always returns, and changes the debugger's part of the session only. -/
theorem run_isGdbAlive_client (s : Session W) :
    ∃ alive w, isGdbAlive.run s = (.ok alive, { s with gdb := w }) := by
  cases hcontroller : s.runtime.hasController with
  | false => exact ⟨false, s.gdb, isGdbAlive_detached hcontroller⟩
  | true =>
      have halive : (MiClient.isAlive : ChannelM W Bool).run s.channel =
          (.ok (Gdb.liveness s.gdb).1.alive, { s.channel with gdb := (Gdb.liveness s.gdb).2 }) := by
        rw [MiClient.isAlive, run_bind_ok (run_hasController s), hcontroller]
        rfl
      exact ⟨_, _, by rw [isGdbAlive, run_onChannel, halive]; rfl⟩

omit [Gdb W] in
theorem SentOnly.same {s s' : Session W} (h : SentOnly (fun _ => False) s s') : s'.runtime.lines = s.runtime.lines := by
  obtain ⟨later, hlines, hnone⟩ := h
  cases later with
  | nil => exact hlines.trans (List.append_nil _)
  | cons line rest => exact (hnone line List.mem_cons_self).elim

/-- The line of a command is sent once, ahead of all others, and it is sent if the command succeeds. -/
theorem lines_executeCommandResult (command : String) (timeoutSec : Nat) (allow : Bool) (s : Session W) :
    let outcome := (executeCommandResult command timeoutSec allow).run s
    (outcome.2.runtime.lines = s.runtime.lines ∧ ∀ info warnings, outcome.1 ≠ .ok (.success info warnings)) ∨
      ∃ behind, outcome.2.runtime.lines = s.runtime.lines ++ actualCommand command :: behind ∧
        ∀ line ∈ behind, line = inventoryLine := by
  have hcontrolled : hasController.run s = (.ok s.runtime.hasController, s) := rfl
  intro outcome
  simp only [outcome]
  rw [executeCommandResult, run_bind_ok hcontrolled]
  cases hcontroller : s.runtime.hasController with
  | false => exact .inl ⟨rfl, fun _ _ h => by cases Except.ok.inj h⟩
  | true =>
      obtain ⟨alive, w, halive⟩ := run_isGdbAlive_client s
      rw [if_pos rfl, run_bind_ok halive]
      cases alive with
      | false =>
          refine .inl ⟨?_, fun info warnings h => ?_⟩
          · refine SentOnly.same (Within.run (R := SentOnly _) ?_ { s with gdb := w })
            refine (sendsOnly_handleDeadTransport _).bind fun _ => ?_
            exact (sendsOnly_recordTranscript _).bind fun _ => Within.pure _
          · obtain ⟨_, t, -, hrest⟩ := ok_of_run_bind (Prod.ext h rfl)
            obtain ⟨_, u, -, hpure⟩ := ok_of_run_bind hrest
            cases Except.ok.inj (Prod.mk.inj hpure).1
      | true =>
          have hsent := lines_send (actualCommand command) timeoutSec { s with gdb := w }
          rw [if_pos hcontroller] at hsent
          obtain ⟨behind, hlines, hquery⟩ := Within.run_bind (R := SentOnly (· = inventoryLine))
            (m := sendCommandAndWaitForPrompt (actualCommand command) timeoutSec)
            (fun result => sendsOnly_settleCommand (P := (· = inventoryLine)) rfl command timeoutSec allow result)
            { s with gdb := w }
          refine .inr ⟨behind, ?_, hquery⟩
          rw [hsent] at hlines
          exact hlines.trans (List.append_assoc _ _ _)

end Session

end GdbMcp
