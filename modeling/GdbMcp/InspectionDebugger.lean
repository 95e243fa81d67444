import GdbMcp.InspectionSource
import GdbMcp.RunnerAnswers

/-! A debugger with a selected thread and frame, and what a command to it does. It may answer every command
as it likes; the two select commands move the selection where they are accepted. -/

namespace GdbMcp

open Eff Completion ReadState

/-- The thread and the frame that are selected in the debugger. -/
structure Selection where
  thread : Int
  frame : Int
  deriving DecidableEq

/-- A record that may come before a result: no result, no fatal text, and no news of the inferiors. -/
structure MiRecord.Plain (r : MiRecord) : Prop where
  notResult : r.type ≠ .result
  notFatal : r.isFatal = false
  notStop : r.isStop = false
  notThreadGroup : ∀ n, r.notification = some n → n.isThreadGroup = false

theorem MiRecord.plain_of_mem_nil : ∀ r ∈ ([] : List MiRecord), r.Plain := fun _ h => absurd h List.not_mem_nil

/-- The answer to one command: `^done` or `^error`, with its payload and the records before it. -/
structure Answer where
  accepted : Bool := true
  payload : Value := .dict []
  others : List MiRecord := []
  plain : ∀ r ∈ others, r.Plain := by exact MiRecord.plain_of_mem_nil

/-- A debugger. The field `answers` says how it answers a command, given the number of commands before it
and the selection; the field `log` is history: the command lines, each with the selection it met. -/
structure Debugger where
  answers : Nat → String → Selection → Answer
  selection : Selection
  log : List (String × Selection) := []
  pending : List MiRecord := []

/-- The number behind the name of a command. -/
def operandOf (command line : String) : Option Int :=
  if PyStr.startswith line command then PyStr.readInt (line.toList.drop command.toList.length) else none

/-- The selection behind an accepted command: another thread is selected in its frame 0. -/
def Selection.moved (selection : Selection) (line : String) : Selection :=
  match operandOf "-thread-select " line, operandOf "-stack-select-frame " line with
  | some thread, _ => { thread, frame := if thread = selection.thread then selection.frame else 0 }
  | none, some frame => { selection with frame }
  | none, none => selection

namespace Debugger

def answer (d : Debugger) (line : String) : Answer := d.answers d.log.length line d.selection

/-- The debugger once it has answered a command. -/
def asked (d : Debugger) (line : String) : Debugger :=
  { d with
    selection := if (d.answer line).accepted then d.selection.moved line else d.selection
    log := d.log ++ [(line, d.selection)]
    pending := [] }

/-- The result record of an answer. -/
def result (d : Debugger) (token : Nat) (line : String) : MiRecord where
  type := .result
  token := some token
  message := some (if (d.answer line).accepted then "done" else "error")
  payload := (d.answer line).payload

theorem isResultOf_result (d : Debugger) (token : Nat) (line : String) :
    (d.result token line).isResultOf token = true := by
  simp [result, MiRecord.isResultOf]

end Debugger

/-- A debugger process that stays alive, and answers every command in one batch. -/
instance : Gdb Debugger where
  spawn _ _ d := (.ok (), d)
  connect _ d := (.ok (), d)
  exit d := (.ok (), d)
  write token line d := (.ok (), { d.asked line with pending := (d.answer line).others ++ [d.result token line] })
  polls _ d := ([{ read := .ok d.pending }], { d with pending := [] })
  liveness d := (.running, d)
  hasProcess _ := true
  kill d := (.ok (), d)
  environ _ := fun _ => none
  isdir _ := fun _ => true
  time d := (0, d)

/-! ### A command to the debugger -/

namespace Session

/-- An update that brings no news changes nothing. -/
theorem update_silent {W : Type} [Gdb W] {s : Session W} {command : String} {parsed : ParsedMiResponse}
    (htext : applyCommandText command parsed = pure ()) (hclass : parsed.resultClass ≠ some "running")
    (hsilent : ∀ n ∈ parsed.notify, n.isThreadGroup = false ∧ n.isStop = false) :
    wp (updateRuntimeAfterCommand command parsed) (fun _ s' => s' = s) (fun _ _ => False) s := by
  have hreadable : ∀ n ∈ parsed.notify, n.Readable := fun n hn =>
    MiNotifyRecord.readable_of_stop (hsilent n hn).1 fun hstop => by simp [(hsilent n hn).2] at hstop
  have hnone : parsed.notify.find? MiNotifyRecord.isStop = none :=
    List.find?_eq_none.mpr fun n hn => by simp [(hsilent n hn).2]
  have hfirst : firstStop parsed.notify = none := by rw [firstStop, hnone]; rfl
  rw [updateRuntimeAfterCommand, wp_bind, onRuntime, wp_zoom]
  refine wp_mono (wp_and (scanNotifies_stop hreadable {} s.runtime)
    (scanNotifies_plain (fun n hn => (hsilent n hn).1) {} s.runtime)) (fun scan rt hscan => ?_)
    fun _ _ h => h.1
  obtain ⟨hstop, _, hrt⟩ := hscan
  subst hrt
  rw [hfirst] at hstop
  rw [htext, wp_bind, applyScan, hstop]
  simp only [hclass, if_false]
  rfl

variable {s : Session Debugger} {command : String}

/-- The answer of the debugger to a command line. -/
def answerTo (s : Session Debugger) (line : String) : Answer := s.gdb.answer line

/-- The session behind a command line: the debugger has answered it, and the runtime is the one before but
for the client and the transcript. -/
structure Asked (s : Session Debugger) (line : String) (s' : Session Debugger) : Prop where
  gdb : s'.gdb = s.gdb.asked line
  runtime : ∃ client entry, s'.runtime = (s.runtime.withTransport client).recordCommandTranscript entry
  hasController : s'.runtime.hasController = true

/-- A command that the runner sends as it is, or wrapped, and that changes nothing by its text. -/
def Silent (command : String) : Prop := ∀ parsed, applyCommandText command parsed = pure ()

/-- The wait for the result of the next command. -/
def waitFor (s : Session Debugger) (line : String) : ReadState :=
  let token := s.runtime.transport.commandToken
  (readLoop token {} [{ read := .ok ((s.answerTo line).others ++ [s.gdb.result token line]) }]).1

/-- The response to the next command. -/
def responseTo (s : Session Debugger) (line : String) : MiTransportResponse where
  commandResponses := (s.waitFor line).commandResponses
  asyncNotifications := (s.waitFor line).asyncNotifications

/-- The session behind the exchange of a command. -/
def exchangedWith (s : Session Debugger) (line : String) : Session Debugger where
  runtime := s.runtime.withTransport
    { s.runtime.transport with
      commandToken := s.runtime.transport.commandToken + 1
      sent := s.runtime.transport.sent ++ [(s.runtime.transport.commandToken, line)]
      received := s.runtime.transport.received ++ (s.waitFor line).read }
  gdb := s.gdb.asked line

theorem readLoop_answer (s : Session Debugger) (line : String) :
    readLoop s.runtime.transport.commandToken {}
        [{ read := .ok ((s.answerTo line).others ++ [s.gdb.result s.runtime.transport.commandToken line]) }] =
      (s.waitFor line, .completed) ∧
    (s.waitFor line).read =
      (s.answerTo line).others ++ [s.gdb.result s.runtime.transport.commandToken line] := by
  have hown : (s.gdb.result s.runtime.transport.commandToken line).isResultOf
      s.runtime.transport.commandToken = true := s.gdb.isResultOf_result _ line
  have h := readLoop_answered (fun r hr => ((s.answerTo line).plain r hr).notFatal) hown
    (by rw [Debugger.result]; cases (s.gdb.answer line).accepted <;> simp)
  exact ⟨Prod.ext rfl h.1, h.2⟩

theorem wp_polls_debugger {timeoutSec : Nat} {c : Channel Debugger} {Q : List Poll → Channel Debugger → Prop}
    {R : PyError → Channel Debugger → Prop} :
    wp (MiClient.observe (Gdb.polls timeoutSec)) Q R c ↔
      Q [{ read := .ok c.gdb.pending }] { c with gdb := { c.gdb with pending := [] } } := Iff.rfl

/-- A command to the debugger is answered. -/
theorem wp_send_debugger {line : String} {timeoutSec : Nat}
    {Q : MiTransportResponse → Session Debugger → Prop} {R : PyError → Session Debugger → Prop}
    (hs : s.runtime.hasController = true) (hQ : Q (s.responseTo line) (s.exchangedWith line)) :
    wp (sendCommandAndWaitForPrompt line timeoutSec) Q R s := by
  have hc : s.channel.client.controller.isSome = true := hs
  rw [sendCommandAndWaitForPrompt, transportCall, wp_bind, onChannel, wp_zoom,
    MiClient.sendCommandAndWaitForPrompt, wp_bind, MiClient.hasController, wp_gets, if_pos hc]
  simp only [wp_bind, MiClient.takeToken, wp_gets, MiClient.updateClient, wp_modify, wp_pure, wp_attempt,
    wp_map, MiClient.call, wp_zoom]
  change wp (MiClient.awaitResult _ _) _ _ _
  rw [MiClient.awaitResult, wp_bind, wp_polls_debugger]
  have hloop := (s.readLoop_answer line).1
  simp only [answerTo] at hloop
  simp only [channel, hloop, MiClient.recordRead, MiClient.updateClient, wp_bind, wp_modify]
  exact hQ

/-- What the runner reads in the response. -/
theorem parseResponse_responseTo (s : Session Debugger) (line : String) :
    let parsed := parseResponse (s.responseTo line)
    parsed.resultClass = some (if (s.answerTo line).accepted then "done" else "error") ∧
      parsed.result = (s.answerTo line).payload ∧
      ∀ n ∈ parsed.notify, n.isThreadGroup = false ∧ n.isStop = false := by
  have hplain := (s.answerTo line).plain
  obtain ⟨hclass, hpayload, hnotify⟩ := parseResponse_answered (fun r hr => (hplain r hr).notResult)
    (s.gdb.isResultOf_result s.runtime.transport.commandToken line) (readLoop_sorts _ _) (s.readLoop_answer line).2
  refine ⟨hclass, hpayload, fun n hn => ?_⟩
  obtain ⟨r, hr, heq⟩ := hnotify n hn
  obtain ⟨hnotice, rfl⟩ := notification_eq_some heq
  refine ⟨(hplain r hr).notThreadGroup _ heq, ?_⟩
  simpa [MiRecord.isStop, MiNotifyRecord.isStop, hnotice] using (hplain r hr).notStop

/-- A command to the debugger returns what the debugger says. -/
theorem query_asked (hs : s.runtime.hasController = true) (hsilent : Silent command) :
    wp (query command)
      (fun result s' => Asked s (actualCommand command) s' ∧
        if (s.answerTo (actualCommand command)).accepted then
          ∃ parsed, result = .success (commandInfo command parsed) ∧
            parsed.result = (s.answerTo (actualCommand command)).payload
        else result.isSuccess = false)
      (fun _ _ => False) s := by
  obtain ⟨hclass, hpayload, hnews⟩ := s.parseResponse_responseTo (actualCommand command)
  rw [query, executeCommandResult, wp_bind, hasController, read, wp_gets, if_pos hs, wp_bind, isGdbAlive,
    onChannel, wp_zoom, MiClient.isAlive, wp_bind, MiClient.hasController, wp_gets,
    if_pos (show s.channel.client.controller.isSome = true from hs)]
  change wp (sendCommandAndWaitForPrompt _ _ >>= _) _ _ s
  rw [wp_bind]
  refine wp_send_debugger hs ?_
  have hnoted : ∀ entry, wp (recordTranscript entry)
      (fun _ s' => Asked s (actualCommand command) s') (fun _ _ => False)
      (s.exchangedWith (actualCommand command)) := fun entry => ⟨rfl, ⟨_, _, rfl⟩, hs⟩
  rw [settleCommand]
  change wp (settleAnswer command (parseResponse (s.responseTo (actualCommand command)))) _ _ _
  rw [settleAnswer]
  extract_lets entry
  cases haccepted : (s.answerTo (actualCommand command)).accepted with
  | true =>
      rw [haccepted] at hclass
      have herror : (parseResponse (s.responseTo (actualCommand command))).isErrorResult = false := by
        rw [ParsedMiResponse.isErrorResult, hclass]
        rfl
      rw [if_neg (by simp [herror]), wp_bind]
      refine wp_mono (update_silent (hsilent _) (by rw [hclass]; decide) hnews) (fun _ s' hs' => ?_)
        fun _ _ h => h
      subst hs'
      rw [wp_bind]
      exact wp_mono (hnoted _) (fun _ s' h => ⟨h, by simpa using ⟨_, rfl, hpayload⟩⟩) fun _ _ h => h
  | false =>
      rw [haccepted] at hclass
      have herror : (parseResponse (s.responseTo (actualCommand command))).isErrorResult = true := by
        rw [ParsedMiResponse.isErrorResult, hclass]
        rfl
      rw [if_pos herror, wp_bind]
      exact wp_mono (hnoted _) (fun _ s' h => ⟨h, rfl⟩) fun _ _ h => h

end Session

end GdbMcp
