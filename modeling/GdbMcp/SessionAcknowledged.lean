import GdbMcp.SessionFinish
import GdbMcp.TransportAcknowledged

/-! The wait policies of the execution commands. The policy is consulted behind a wait that goes on until a stop or the
deadline, so that a command which is to return on its acknowledgement reads on as well. -/

namespace GdbMcp

open Eff Session Completion

namespace Session

variable {W : Type} [Gdb W] {s s' s₁ : Session W} {command : String} {timeoutSec token : Nat} {polls : List Poll}
  {response : MiTransportResponse}

/-- The command is written under the token, and its wait meets these polls. -/
def Meets (s : Session W) (command : String) (timeoutSec token : Nat) (polls : List Poll) : Prop :=
  ∃ s₀ w, isGdbAlive.run s = (.ok true, s₀) ∧ s₀.runtime.transport.commandToken = token ∧
    Gdb.write token (actualCommand command) s₀.gdb = (.ok (), w) ∧ (Gdb.polls timeoutSec w).1 = polls

theorem hasController_of_alive {s₀ : Session W} (h : isGdbAlive.run s = (.ok true, s₀)) :
    s.runtime.hasController = true := by
  cases hcontrolled : s.runtime.hasController with
  | true => rfl
  | false =>
      rw [isGdbAlive_detached hcontrolled] at h
      exact nomatch Except.ok.inj (Prod.mk.inj h).1

theorem commandHeard_waits (hmeets : s.Meets command timeoutSec token polls) :
    ∃ c : Channel W, (commandHeard command timeoutSec).run s =
        (transportCall (MiClient.conclude (waitResponse token polls) (readLoop token {} polls).2)).run (s.withChannel c) ∧
      c.client.received = StopWait.received s ++ (readLoop token {} polls).1.read := by
  obtain ⟨s₀, w, halive, htoken, hwrite, hpolls⟩ := hmeets
  have hcontroller := hasController_of_alive halive
  have hlive := halive
  rw [isGdbAlive, run_onChannel] at hlive
  obtain ⟨-, hs₀⟩ := Prod.mk.inj hlive
  have hclient : ((MiClient.isAlive : ChannelM W Bool).run s.channel).2.client = s.runtime.transport := by
    rw [MiClient.isAlive, run_bind_ok (run_hasController s), hcontroller]
    rfl
  have hs₀client : s₀.runtime.transport = s.runtime.transport := by
    rw [← hs₀]
    exact hclient
  subst htoken
  obtain ⟨client, hrun, -, hreceived⟩ := @run_send _ _ timeoutSec polls s₀.channel w (actualCommand command)
    ((congrArg (fun client => client.controller.isSome) hs₀client).trans hcontroller) hwrite hpolls
  refine ⟨⟨client, (Gdb.polls timeoutSec w).2⟩, ?_, hreceived.trans ?_⟩
  · rw [commandHeard, run_bind_ok halive, if_pos rfl, sendCommandAndWaitForPrompt, run_transportCall_of_run hrun]
    rw [← hs₀]
    rfl
  · exact congrArg (fun client => client.received ++ _) hs₀client

omit [Gdb W] in
/-- A call notes what it reads, whether it returns or raises. -/
theorem received_transportCall (m : ChannelM W MiTransportResponse) (s : Session W) :
    StopWait.received ((transportCall m).run s).2 = (m.run s.channel).2.client.received := by
  simp only [transportCall, bind, run_onChannel]
  rcases m.run s.channel with ⟨e | response, c⟩
  · rfl
  · cases hfatal : response.fatal <;> simp [hfatal] <;> rfl

theorem received_commandHeard (hmeets : s.Meets command timeoutSec token polls) :
    StopWait.received ((commandHeard command timeoutSec).run s).2 =
      StopWait.received s ++ (readLoop token {} polls).1.read := by
  obtain ⟨c, hrun, hreceived⟩ := commandHeard_waits hmeets
  rw [hrun, received_transportCall, received_conclude, ← hreceived]
  rfl

/-- A wait that has not failed answers with what it has collected. -/
theorem commandHeard_answered (hmeets : s.Meets command timeoutSec token polls)
    (hends : (readLoop token {} polls).2 = .completed ∨ (readLoop token {} polls).2 = .timedOut) :
    ∃ s₁, (commandHeard command timeoutSec).run s =
      (.ok { waitResponse token polls with timedOut := (readLoop token {} polls).2 == .timedOut }, s₁) := by
  obtain ⟨c, hrun, -⟩ := commandHeard_waits hmeets
  rw [hrun]
  rcases hends with h | h
  · rw [h]
    exact ⟨_, rfl⟩
  · rw [h]
    exact ⟨_, rfl⟩

theorem ends_of_heard (hmeets : s.Meets command timeoutSec token polls)
    (hheard : (commandHeard command timeoutSec).run s = (.ok response, s₁)) (hnone : response.error = none) :
    (readLoop token {} polls).2 = .completed ∨ (readLoop token {} polls).2 = .timedOut := by
  obtain ⟨c, hrun, -⟩ := commandHeard_waits hmeets
  rw [hheard] at hrun
  obtain ⟨c', hcall, -, -⟩ := ok_of_transportCall hrun.symm
  cases hending : (readLoop token {} polls).2 with
  | completed => exact .inl rfl
  | timedOut => exact .inr rfl
  | fatal error =>
      rw [hending] at hcall
      obtain ⟨_, t, -, hpure⟩ := ok_of_run_bind hcall
      obtain ⟨hresponse, -⟩ := Prod.mk.inj hpure
      rw [← Except.ok.inj hresponse] at hnone
      exact nomatch hnone
  | raised e =>
      rw [hending] at hcall
      exact nomatch (Prod.mk.inj hcall).1

/-- A live command settles what it has heard. -/
theorem run_executeCommandResult {allow : Bool} {s₀ : Session W} (halive : isGdbAlive.run s = (.ok true, s₀))
    (hheard : (commandHeard command timeoutSec).run s = (.ok response, s₁)) :
    (executeCommandResult command timeoutSec allow).run s = (settleCommand command timeoutSec allow response).run s₁ := by
  have hcontroller : hasController.run s = (.ok true, s) := by
    rw [← hasController_of_alive halive]
    rfl
  rw [commandHeard, run_bind_ok halive, if_pos rfl] at hheard
  rw [executeCommandResult, run_bind_ok hcontroller, if_pos rfl, run_bind_ok halive, if_pos rfl, run_bind_ok hheard]

theorem run_recordTranscript (entry : CommandTranscriptEntry) (s : Session W) :
    (recordTranscript entry).run s = (.ok (), ((recordTranscript entry).run s).2) := rfl

/-- A running command succeeds when its records have been taken in. -/
theorem settleCommand_running (hnone : response.error = none)
    (hclass : (parseResponse response).resultClass = some "running")
    (htaken : ∃ t, (updateRuntimeAfterCommand command (parseResponse response)).run s = (.ok (), t)) :
    ∃ info warnings s', (settleCommand command timeoutSec true response).run s = (.ok (.success info warnings), s') := by
  obtain ⟨t, hupdate⟩ := htaken
  simp only [settleCommand, hnone]
  split
  · have hread : (read SessionRuntime.executionState).run t = (.ok t.runtime.executionState, t) := rfl
    rw [settleTimeout, run_bind_ok hupdate, run_bind_ok hread, hclass]
    exact ⟨_, _, _, run_bind_ok (run_recordTranscript _ t)⟩
  · have haccepted : (parseResponse response).isErrorResult = false := by
      rw [ParsedMiResponse.isErrorResult, hclass]
      rfl
    rw [settleAnswer, haccepted, if_neg Bool.false_ne_true, run_bind_ok hupdate]
    exact ⟨_, _, _, run_bind_ok (run_recordTranscript _ t)⟩

/-! ### The policies -/

/-- The command returns a success, and its wait reads these polls and no more. -/
structure ReturnsBehind (s : Session W) (command : String) (timeoutSec : Nat) (polls : List Poll) : Prop where
  succeeds : ∃ info warnings s', (executeCommandResult command timeoutSec true).run s = (.ok (.success info warnings), s')
  consumes : StopWait.received ((commandHeard command timeoutSec).run s).2 =
    StopWait.received s ++ (batches polls).flatten

/-- Where the command returns a success, its wait has read a stop behind the own `^running`. -/
def ReturnsOnStop (s : Session W) (command : String) (timeoutSec token : Nat) : Prop :=
  ∀ info warnings s', (executeCommandResult command timeoutSec false).run s = (.ok (.success info warnings), s') →
    ∃ records, StopWait.received ((commandHeard command timeoutSec).run s).2 = StopWait.received s ++ records ∧
      laterStops token records ≠ []

/-- What the policy of an execution command promises. -/
def KeepsPolicy (s : Session W) (command : String) (timeoutSec token : Nat) (acknowledged : List Poll) :
    (waitForStop : Bool) → Prop
  | true => s.ReturnsOnStop command timeoutSec token
  | false => s.ReturnsBehind command timeoutSec acknowledged

/-- No record of the response keeps the update of the runtime from returning. -/
def TakesIn (s : Session W) (command : String) (timeoutSec : Nat) : Prop :=
  ∀ response s₁, (commandHeard command timeoutSec).run s = (.ok response, s₁) →
    ∃ t, (updateRuntimeAfterCommand command (parseResponse response)).run s₁ = (.ok (), t)

section Policy

variable {before after : List Poll} {p : Poll} {batch : List MiRecord}

/-- The response of a wait that has read the own result tells of `^running`. -/
theorem resultClass_running (harrives : RunningArrives token polls before p after batch)
    (hread : (readLoop token {} polls).1.read.any (·.isResultOf token) = true) (timedOut : Bool) :
    (parseResponse { waitResponse token polls with timedOut }).resultClass = some "running" := by
  have hclass : (parseResponse { waitResponse token polls with timedOut }).resultClass =
      ((heardResults token (readLoop token {} polls).1.read).getLast?).bind MiRecord.message := by
    rw [← (readLoop_sorts token polls).results]
    exact (result_parseMiResponses _).1
  obtain ⟨own, hmem, hown⟩ := List.any_eq_true.mp hread
  have hne : heardResults token (readLoop token {} polls).1.read ≠ [] :=
    List.ne_nil_of_mem (mem_heardResults hmem hown)
  rw [hclass, List.getLast?_eq_getLast_of_ne_nil hne, Option.bind_some]
  refine harrives.results _ ?_
  obtain ⟨hlast, hresult⟩ := List.mem_filter.mp (List.getLast_mem hne)
  exact List.mem_filter.mpr ⟨(readLoop_read {} polls).2.subset hlast, hresult⟩

theorem stop_returnsOnStop (hmeets : s.Meets command timeoutSec token polls)
    (harrives : RunningArrives token polls before p after batch) : s.ReturnsOnStop command timeoutSec token := by
  intro info warnings s' hrun
  obtain ⟨response, s₁, hheard, hnone⟩ := executeCommandResult_succeeded hrun
  refine ⟨_, received_commandHeard hmeets, ?_⟩
  have hsettle := executeCommandResult_heard hrun hheard hnone
  have hends := ends_of_heard hmeets hheard hnone
  obtain ⟨s₂, hanswered⟩ := commandHeard_answered hmeets hends
  obtain ⟨hresponse, rfl⟩ := Prod.mk.inj (hheard.symm.trans hanswered)
  obtain rfl := Except.ok.inj hresponse
  have hcompleted : (readLoop token {} polls).2 = .completed := by
    refine hends.resolve_right fun htime => ?_
    rw [htime] at hsettle
    obtain ⟨_, t, -, hrest⟩ := ok_of_run_bind hsettle
    obtain ⟨_, t, -, hrest⟩ := ok_of_run_bind hrest
    obtain ⟨_, t, -, hpure⟩ := ok_of_run_bind hrest
    exact nomatch Except.ok.inj (Prod.mk.inj hpure).1
  have hcomplete := (readLoop_tracks token polls).complete_iff.mp (readLoop_completed hcompleted)
  have honly : OnlyRuns token (readLoop token {} polls).1.read :=
    harrives.onlyRuns (readLoop_read {} polls).2.subset
  rw [foreign_answeredStops honly, runningAfter_of_onlyRuns honly] at hcomplete
  intro hnone
  refine hcomplete.2 (by simpa using hcomplete.1) ?_
  rw [hnone]
  rfl

end Policy

end Session

/-! ### A step whose stop comes later -/

def runningBatch : List MiRecord := [resultRecord "running" 1000]

/-- The polls that a step meets: the `^running`, and the later batches. -/
def stepPolls (later : List (List MiRecord)) : List Poll :=
  { read := .ok runningBatch } :: later.map fun batch => { read := .ok batch }

/-- A ready session whose debugger acknowledges a step, and goes on with these batches. -/
def acknowledging (later : List (List MiRecord)) : Session Scripted where
  runtime := ({ transport := { controller := some {} } } : SessionRuntime).markReady
  gdb := Script.play { rounds := fun _ => { own := { replies := fun _ => stepPolls later } } }

theorem acknowledging_meets (later : List (List MiRecord)) :
    (acknowledging later).Meets "-exec-next" 1 1000 (stepPolls later) :=
  ⟨_, _, rfl, rfl, rfl, rfl⟩

end GdbMcp
