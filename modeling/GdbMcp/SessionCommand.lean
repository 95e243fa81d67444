import GdbMcp.BaseTextFacts
import GdbMcp.SessionWait

/-! One command of a session, cut in two: the response that it hears, and what is made of it. -/

namespace GdbMcp

open Eff

namespace Session

variable {W : Type}

theorem run_onChannel (m : ChannelM W α) (s : Session W) :
    (onChannel m).run s = ((m.run s.channel).1, s.withChannel (m.run s.channel).2) := rfl

theorem ok_of_onRuntime {m : RuntimeM α} {a : α} {s s' : Session W} (hrun : (onRuntime m).run s = (.ok a, s')) :
    m.run s.runtime = (.ok a, s'.runtime) := by
  have hzoom : (onRuntime m).run s = ((m.run s.runtime).1, { s with runtime := (m.run s.runtime).2 }) := rfl
  rw [hzoom] at hrun
  obtain ⟨hvalue, rfl⟩ := Prod.mk.inj hrun
  exact Prod.ext hvalue rfl

theorem gdb_of_onRuntime {m : RuntimeM α} {a : α} {s s' : Session W} (hrun : (onRuntime m).run s = (.ok a, s')) :
    s'.gdb = s.gdb :=
  (congrArg (fun x => x.2.gdb) hrun).symm

variable [Gdb W] {s s' s₁ : Session W} {command : String} {timeoutSec : Nat} {response : MiTransportResponse}

theorem actualCommand_of_dash {command : String} (h : PyStr.startswith command "-" = true) :
    actualCommand command = command := by
  have hstrip : PyStr.startswith (PyStr.strip command) "-" = true := PyStr.startswith_strip h (by decide)
  rw [actualCommand, isCliCommand, hstrip]
  rfl

/-- A command that begins with no dash is sent as an argument of the interpreter. -/
theorem actualCommand_cli {command p : String} (h : PyStr.startswith command p = true) (hsolid : PyStr.solid p = true)
    (hp : PyStr.apart p "-" = true) : actualCommand command = wrapCliCommand command := by
  rw [actualCommand, isCliCommand, PyStr.startswith_apart (PyStr.startswith_strip h hsolid) hp]
  rfl

/-- The response to a command, if the process is alive. -/
def commandHeard (command : String) (timeoutSec : Nat) : SessionM W MiTransportResponse := do
  if ← isGdbAlive then sendCommandAndWaitForPrompt (actualCommand command) timeoutSec
  else return { error := some deadTransportMessage }

/-- A session without a controller is not alive. -/
theorem isGdbAlive_detached (h : s.runtime.hasController = false) : isGdbAlive.run s = (.ok false, s) := by
  have hrun : (MiClient.isAlive : ChannelM W Bool).run s.channel = (.ok false, s.channel) := by
    rw [MiClient.isAlive, run_bind_ok (run_hasController s), h]
    rfl
  rw [isGdbAlive, run_onChannel, hrun]
  rfl

/-- A command whose response carries no error settles that response. -/
theorem executeCommandResult_heard {allow : Bool} {result : OperationResult CommandExecutionInfo}
    (hrun : (executeCommandResult command timeoutSec allow).run s = (.ok result, s'))
    (hheard : (commandHeard command timeoutSec).run s = (.ok response, s₁)) (hnone : response.error = none) :
    (settleCommand command timeoutSec allow response).run s₁ = (.ok result, s') := by
  have hcontroller : hasController.run s = (.ok s.runtime.hasController, s) := rfl
  rw [executeCommandResult, run_bind_ok hcontroller] at hrun
  rw [commandHeard] at hheard
  obtain ⟨alive, s₀, halive, hsend⟩ := ok_of_run_bind hheard
  cases alive with
  | false =>
      obtain ⟨hresponse, -⟩ := Prod.mk.inj hsend
      rw [← Except.ok.inj hresponse] at hnone
      cases hnone
  | true =>
      cases hcontrolled : s.runtime.hasController with
      | false =>
          rw [isGdbAlive_detached hcontrolled] at halive
          cases Except.ok.inj (Prod.mk.inj halive).1
      | true =>
          rw [hcontrolled, if_pos rfl, run_bind_ok halive, if_pos rfl] at hrun
          rw [if_pos rfl] at hsend
          rwa [run_bind_ok hsend] at hrun

/-- A command that succeeds has heard a response without an error. -/
theorem executeCommandResult_succeeded {allow : Bool} {info : CommandExecutionInfo} {warnings : List String}
    (hrun : (executeCommandResult command timeoutSec allow).run s = (.ok (.success info warnings), s')) :
    ∃ response s₁, (commandHeard command timeoutSec).run s = (.ok response, s₁) ∧ response.error = none := by
  have hcontroller : hasController.run s = (.ok s.runtime.hasController, s) := rfl
  rw [executeCommandResult, run_bind_ok hcontroller] at hrun
  split at hrun
  · obtain ⟨alive, s₀, halive, hrest⟩ := ok_of_run_bind hrun
    cases alive with
    | false =>
        obtain ⟨_, t, -, hrest⟩ := ok_of_run_bind hrest
        obtain ⟨_, u, -, hpure⟩ := ok_of_run_bind hrest
        cases Except.ok.inj (Prod.mk.inj hpure).1
    | true =>
        obtain ⟨response, s₁, hsend, hsettle⟩ := ok_of_run_bind hrest
        refine ⟨response, s₁, by rw [commandHeard, run_bind_ok halive, if_pos rfl, hsend], ?_⟩
        cases herror : response.error with
        | none => rfl
        | some error =>
            simp only [settleCommand, herror] at hsettle
            obtain ⟨_, u, -, hpure⟩ := ok_of_run_bind hsettle
            cases Except.ok.inj (Prod.mk.inj hpure).1
  · cases Except.ok.inj (Prod.mk.inj hrun).1

/-! ### A command that is written -/

/-- The response of a wait, as far as its loop has collected it. -/
def waitResponse (token : Nat) (polls : List Poll) : MiTransportResponse where
  commandResponses := (readLoop token {} polls).1.commandResponses
  asyncNotifications := (readLoop token {} polls).1.asyncNotifications

omit [Gdb W] in
/-- A call that goes on as another one from another channel. -/
theorem run_transportCall_of_run {m m' : ChannelM W MiTransportResponse} {c : Channel W}
    (h : m.run s.channel = m'.run c) : (transportCall m).run s = (transportCall m').run (s.withChannel c) := by
  have hcall : (onChannel m).run s = (onChannel m').run (s.withChannel c) := by
    rw [run_onChannel, run_onChannel, h]
    rfl
  simp only [transportCall, bind, hcall]

theorem run_write {c : Channel W} {w : W} {line : String} (h : Gdb.write token line c.gdb = (.ok (), w)) :
    (attempt (Except.ok <$> MiClient.call (Gdb.write token line)) fun e => return .error e :
      ChannelM W (Except PyError Unit)).run c = (.ok (.ok ()), { c with gdb := w }) := by
  refine run_attempt_ok (run_map_ok ?_)
  simp only [MiClient.call, zoom, h]

/-- A command that is written waits for its result. -/
theorem run_send {c : Channel W} {w : W} {line : String} (hcontroller : c.client.controller.isSome = true)
    (hwrite : Gdb.write c.client.commandToken line c.gdb = (.ok (), w)) (hpolls : (Gdb.polls timeoutSec w).1 = polls) :
    ∃ client, (MiClient.sendCommandAndWaitForPrompt line timeoutSec).run c =
        (MiClient.conclude (waitResponse c.client.commandToken polls)
          (readLoop c.client.commandToken {} polls).2).run ⟨client, (Gdb.polls timeoutSec w).2⟩ ∧
      client.controller = c.client.controller ∧
      client.received = c.client.received ++ (readLoop c.client.commandToken {} polls).1.read := by
  have hcontrolled : (MiClient.hasController : ChannelM W Bool).run c = (.ok true, c) := by
    rw [← hcontroller]
    rfl
  let taken : Channel W :=
    { c with
      client :=
        { c.client with
          commandToken := c.client.commandToken + 1, sent := c.client.sent ++ [(c.client.commandToken, line)] } }
  have htoken : (MiClient.takeToken line : ChannelM W Nat).run c = (.ok c.client.commandToken, taken) := rfl
  subst hpolls
  let client : MiClient :=
    { c.client with
      commandToken := c.client.commandToken + 1
      sent := c.client.sent ++ [(c.client.commandToken, line)]
      received := c.client.received ++ (readLoop c.client.commandToken {} (Gdb.polls timeoutSec w).1).1.read }
  refine ⟨client, ?_, rfl, rfl⟩
  rw [MiClient.sendCommandAndWaitForPrompt, run_bind_ok hcontrolled, if_pos rfl, run_bind_ok htoken,
    run_bind_ok (run_write (c := taken) hwrite)]
  rfl

/-! ### The runtime behind the response -/

/-- The calls of the client that only fail fatally with an error in the response. -/
def FatalIsError (m : ChannelM W MiTransportResponse) : Prop :=
  ∀ c response c', m.run c = (.ok response, c') → response.error = none → response.fatal = false

theorem fatalIsError_conclude {base : MiTransportResponse} (hbase : base.fatal = false) (ending : ReadEnd) :
    FatalIsError (MiClient.conclude base ending : ChannelM W _) := by
  intro c response c' hrun hnone
  cases ending with
  | completed =>
      obtain ⟨hresponse, -⟩ := Prod.mk.inj hrun
      exact Except.ok.inj hresponse ▸ hbase
  | timedOut =>
      obtain ⟨hresponse, -⟩ := Prod.mk.inj hrun
      exact Except.ok.inj hresponse ▸ hbase
  | fatal error =>
      obtain ⟨_, t, -, hpure⟩ := ok_of_run_bind hrun
      obtain ⟨hresponse, -⟩ := Prod.mk.inj hpure
      rw [← Except.ok.inj hresponse] at hnone
      exact nomatch hnone
  | raised e => exact nomatch (Prod.mk.inj hrun).1

theorem fatalIsError_awaitResult (token timeoutSec : Nat) :
    FatalIsError (MiClient.awaitResult token timeoutSec : ChannelM W _) := by
  intro c response c' hrun hnone
  rw [MiClient.awaitResult] at hrun
  obtain ⟨polls, c₁, -, hrun⟩ := ok_of_run_bind hrun
  obtain ⟨_, c₂, -, hconclude⟩ := ok_of_run_bind hrun
  exact fatalIsError_conclude (by rfl) _ c₂ response c' hconclude hnone

theorem fatalIsError_send (command : String) (timeoutSec : Nat) :
    FatalIsError (MiClient.sendCommandAndWaitForPrompt command timeoutSec : ChannelM W _) := by
  intro c response c' hrun hnone
  rw [MiClient.sendCommandAndWaitForPrompt] at hrun
  obtain ⟨controlled, c₁, -, hrun⟩ := ok_of_run_bind hrun
  cases controlled with
  | false =>
      obtain ⟨hresponse, -⟩ := Prod.mk.inj hrun
      exact Except.ok.inj hresponse ▸ rfl
  | true =>
      obtain ⟨token, c₂, -, hrun⟩ := ok_of_run_bind hrun
      obtain ⟨written, c₃, -, hrun⟩ := ok_of_run_bind hrun
      cases written with
      | ok _ => exact fatalIsError_awaitResult token timeoutSec c₃ response c' hrun hnone
      | error e =>
          cases e with
          | osError m =>
              obtain ⟨_, c₄, -, hpure⟩ := ok_of_run_bind hrun
              obtain ⟨hresponse, -⟩ := Prod.mk.inj hpure
              rw [← Except.ok.inj hresponse] at hnone
              exact nomatch hnone
          | _ => exact nomatch (Prod.mk.inj hrun).1

/-- A response without an error has changed nothing but the client and the debugger. -/
theorem commandHeard_runtime (hheard : (commandHeard command timeoutSec).run s = (.ok response, s₁))
    (hnone : response.error = none) : ∃ client, s₁.runtime = s.runtime.withTransport client := by
  rw [commandHeard] at hheard
  obtain ⟨alive, s₀, halive, hsend⟩ := ok_of_run_bind hheard
  rw [isGdbAlive, run_onChannel] at halive
  obtain ⟨-, rfl⟩ := Prod.mk.inj halive
  cases alive with
  | false =>
      obtain ⟨hresponse, -⟩ := Prod.mk.inj hsend
      rw [← Except.ok.inj hresponse] at hnone
      exact nomatch hnone
  | true =>
      obtain ⟨c, hcall, -, hcalm⟩ := ok_of_transportCall hsend
      rw [hcalm (fatalIsError_send _ _ _ _ _ hcall hnone)]
      exact ⟨c.client, rfl⟩

end Session
end GdbMcp
