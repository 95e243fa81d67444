import GdbMcp.InspectionSelection
import GdbMcp.RunnerAnswers
import GdbMcp.SessionCommand

/-! A command that the debugger answers in one batch, as one step of the session. -/

namespace GdbMcp

open Eff

namespace Session

variable {W : Type} [Gdb W] {s : Session W} {command : String} {others : List MiRecord} {result : MiRecord} {w : W}

/-- The debugger answers the next command with these records in one batch, and is `w` behind it. -/
structure AnsweredWith (s : Session W) (command : String) (others : List MiRecord) (result : MiRecord) (w : W) : Prop where
  hasController : s.runtime.hasController = true
  liveness : Gdb.liveness s.gdb = (.running, s.gdb)
  exchange : ∃ v, Gdb.write s.runtime.transport.commandToken (actualCommand command) s.gdb = (.ok (), v) ∧
    Gdb.polls defaultTimeoutSec v = ([{ read := .ok (others ++ [result]) }], w)
  notFatal : ∀ r ∈ others, r.isFatal = false
  notResult : ∀ r ∈ others, r.type ≠ .result
  stream : ∀ r ∈ others, r.type = .console → r.token = none
  own : result.isResultOf s.runtime.transport.commandToken = true
  notRunning : result.message ≠ some "running"

/-- What the runner reads of such an answer. -/
structure ReadsAs (others : List MiRecord) (result : MiRecord) (parsed : ParsedMiResponse) : Prop where
  resultClass : parsed.resultClass = result.message
  result : parsed.result = result.payload
  notify : ∀ n ∈ parsed.notify, ∃ r ∈ others, r.notification = some n
  console : parsed.console = (others.filter (·.type == .console)).map MiRecord.payload

/-- The console output of a command, as the runner returns it. -/
def consoleOutput (others : List MiRecord) : String :=
  let text := streamText ((others.filter (·.type == .console)).map MiRecord.payload)
  if text = "" then "(no output)" else PyStr.strip text

theorem output_of_reads {parsed : ParsedMiResponse} (hcli : isCliCommand command = true)
    (hreads : ReadsAs others result parsed) : (commandInfo command parsed).output.getD "" = consoleOutput others := by
  rw [commandInfo, if_pos hcli, consoleOutput, ← hreads.console]
  rfl

theorem payload_of_reads {parsed : ParsedMiResponse} (hmi : isCliCommand command = false)
    (hreads : ReadsAs others result parsed) : extractMiResultPayload (commandInfo command parsed) = result.payload := by
  rw [commandInfo, hmi]
  exact hreads.result

theorem run_isGdbAlive (h : s.AnsweredWith command others result w) : isGdbAlive.run s = (.ok true, s) := by
  have hcontrolled : (MiClient.hasController : ChannelM W Bool).run s.channel = (.ok true, s.channel) := by
    rw [← h.hasController]
    rfl
  have hlive : (MiClient.observe Gdb.liveness : ChannelM W ProcessStatus).run s.channel = (.ok .running, s.channel) := by
    simp only [MiClient.observe, MiClient.call, zoom, channel, h.liveness]
  have hrun : (MiClient.isAlive : ChannelM W Bool).run s.channel = (.ok true, s.channel) := by
    rw [MiClient.isAlive, run_bind_ok hcontrolled, if_pos rfl, run_bind_ok hlive]
    rfl
  rw [isGdbAlive, run_onChannel, hrun]
  rfl

theorem settleCommand_answered {timeoutSec : Nat} {allow : Bool} {response : MiTransportResponse}
    (herror : response.error = none) (hintime : response.timedOut = false) :
    (settleCommand command timeoutSec allow response : SessionM W _) = settleAnswer command (parseResponse response) := by
  rw [settleCommand, herror, hintime]
  rfl

/-- A command that is answered is sent, and heard. -/
theorem run_send_answered (h : s.AnsweredWith command others result w) :
    ∃ client response, client.controller = s.runtime.transport.controller ∧ response.error = none ∧ response.timedOut = false ∧
      ReadsAs others result (parseResponse response) ∧
      (sendCommandAndWaitForPrompt (actualCommand command) defaultTimeoutSec).run s =
        (.ok response, { runtime := s.runtime.withTransport client, gdb := w }) := by
  have hc : s.channel.client.controller.isSome = true := h.hasController
  obtain ⟨v, hwrite, hpolls⟩ := h.exchange
  obtain ⟨hcompleted, hread⟩ := readLoop_answered h.notFatal h.own h.notRunning
  let polls : List Poll := [{ read := .ok (others ++ [result]) }]
  obtain ⟨client, hrun, hclient, -⟩ := @run_send _ _ defaultTimeoutSec polls s.channel v (actualCommand command) hc hwrite
    (congrArg Prod.fst hpolls)
  change (readLoop s.channel.client.commandToken {} polls).2 = .completed at hcompleted
  obtain ⟨hclass, hpayload, hnotify⟩ := parseResponse_answered h.notResult h.own (readLoop_sorts _ _) hread
  have hconsole := console_answered h.stream h.own (readLoop_console _ _) hread
  refine ⟨client, waitResponse s.runtime.transport.commandToken polls, hclient, rfl, rfl,
    ⟨hclass, hpayload, hnotify, hconsole⟩, ?_⟩
  rw [sendCommandAndWaitForPrompt, run_transportCall_of_run hrun, hcompleted, hpolls]
  rfl

/-- A command that is answered settles the answer. -/
theorem run_query_answered (h : s.AnsweredWith command others result w) :
    ∃ client parsed, client.controller = s.runtime.transport.controller ∧ ReadsAs others result parsed ∧
      (query command).run s =
        (settleAnswer command parsed).run { runtime := s.runtime.withTransport client, gdb := w } := by
  obtain ⟨client, response, hclient, herror, hintime, hreads, hsend⟩ := run_send_answered h
  have hcontroller : Session.hasController.run s = (.ok true, s) := by
    rw [← h.hasController]
    rfl
  refine ⟨client, parseResponse response, hclient, hreads, ?_⟩
  rw [query, executeCommandResult, run_bind_ok hcontroller, if_pos rfl, run_bind_ok (run_isGdbAlive h), if_pos rfl,
    run_bind_ok hsend, settleCommand_answered herror hintime]

end Session

end GdbMcp
