import GdbMcp.MiCommand
import GdbMcp.RunnerInferiors
import GdbMcp.RunnerUpdate

/-! Command execution for one debugger session: sending, the update of the runtime, the internal
inventory refresh and the normalization of results. -/

namespace GdbMcp

/-- A session: its runtime, which owns the client, and the world behind the client. -/
structure Session (W : Type) where
  runtime : SessionRuntime
  gdb : W

abbrev SessionM (W : Type) := Eff (Session W) PyError

/-- Typed result of an operation. -/
inductive OperationResult (α : Type) where
  | success (value : α) (warnings : List String := [])
  | error (message : String) (fatal : Bool := false) (details : List (String × Value) := [])
      (code : String := "error")

def OperationResult.isSuccess {α : Type} : OperationResult α → Bool
  | .success .. => true
  | .error .. => false

/-- Structured result for command execution. -/
structure CommandExecutionInfo where
  command : String
  output : Option String := none
  result : Option Value := none

def CommandExecutionInfo.toValue (info : CommandExecutionInfo) : Value :=
  .dict [("command", .str info.command), ("output", .ofOption .str info.output),
    ("result", info.result.getD .none)]

/-- The default timeout, in seconds. -/
def defaultTimeoutSec : Nat := 30

def deadTransportMessage : String := "GDB process has exited - session is no longer active"

namespace Session

variable {W : Type} [Gdb W]

def channel {W : Type} (s : Session W) : Channel W := ⟨s.runtime.transport, s.gdb⟩

def withChannel {W : Type} (s : Session W) (c : Channel W) : Session W where
  runtime := s.runtime.withTransport c.client
  gdb := c.gdb

def onChannel {α : Type} (m : ChannelM W α) : SessionM W α :=
  Eff.zoom channel (fun c s => s.withChannel c) m

def onRuntime {α : Type} (m : RuntimeM α) : SessionM W α :=
  Eff.zoom Session.runtime (fun rt s => { s with runtime := rt }) m

def update (f : SessionRuntime → SessionRuntime) : SessionM W Unit := onRuntime (Eff.modify f)

def read {α : Type} (f : SessionRuntime → α) : SessionM W α := Eff.gets fun s => f s.runtime

def hasController : SessionM W Bool := read SessionRuntime.hasController

def time : SessionM W Nat := onChannel (MiClient.observe Gdb.time)

/-- Check if the GDB process is still running. -/
def isGdbAlive : SessionM W Bool := onChannel MiClient.isAlive

/-- Transition the session into a terminal state after GDB has exited. -/
def handleDeadTransport (message : String) : SessionM W Unit := update (·.markTransportTerminated message)

/-- A transport call, after which a fatal response ends the session. -/
def transportCall (m : ChannelM W MiTransportResponse) : SessionM W MiTransportResponse := do
  let result ← onChannel m
  if result.fatal then
    update (·.markTransportTerminated (result.error.getD "GDB transport failed"))
    return result
  else
    return result

/-- Send a command through transport and update fatal session state. -/
def sendCommandAndWaitForPrompt (command : String) (timeoutSec : Nat) : SessionM W MiTransportResponse :=
  transportCall (MiClient.sendCommandAndWaitForPrompt command timeoutSec)

/-- Interrupt the inferior while reusing transport serialization rules. -/
def interruptAndWaitForStop (timeoutSec : Nat) : SessionM W MiTransportResponse :=
  transportCall (MiClient.interruptAndWaitForStop timeoutSec)

/-- Wait for a stopped notification without sending a debugger command. -/
def waitForStopNotification (timeoutSec : Nat) : SessionM W MiTransportResponse :=
  transportCall (MiClient.waitForStop timeoutSec)

/-- Record transcript metadata; the execution state is the one after the command. -/
def recordTranscript (entry : CommandTranscriptEntry) : SessionM W Unit := do
  let now ← time
  update fun rt => rt.recordCommandTranscript
    { entry with
      executionState := some rt.executionState, stopReason := rt.stopReason, timestamp := some now }

/-- Take over the inventory that GDB has printed; without an answer the cached one stays. -/
def applyInventory (result : MiTransportResponse) : SessionM W Unit := do
  let parsed := parseMiResponses result.commandResponses
  if result.error.isSome || result.timedOut || parsed.isErrorResult then
    return ()
  else
    let current ← read SessionRuntime.currentInferiorId
    let payload ← onRuntime (Eff.ofExcept (parseInferiorsOutput (streamText parsed.console) current))
    update (·.updateInferiorInventory payload.currentInferiorId payload.count (some (inferiorIds payload)))

/-- Refresh cached inferior selection/inventory from authoritative GDB output. -/
def refreshInferiorInventoryFromGdb : SessionM W Unit := do
  if ← hasController then
    let result ← sendCommandAndWaitForPrompt (wrapCliCommand "info inferiors") defaultTimeoutSec
    applyInventory result

/-- Apply what the scan of the notifications has found: the stop, or else a `^running` result. -/
def applyScan (command : String) (resultClass : Option String) (scan : StopScan) : SessionM W Unit := do
  match scan.stop with
  | some stop => do
    (if scan.sawInferiorTopologyChange then refreshInferiorInventoryFromGdb else return ())
    let now ← time
    update (·.applyStop command stop now)
  | none =>
    if resultClass = some "running" then update fun rt => rt.markInferiorRunning rt.currentInferiorId
    else return ()

/-- Update inferior execution state based on the parsed MI response. -/
def updateRuntimeAfterCommand (command : String) (parsed : ParsedMiResponse) : SessionM W Unit := do
  let scan ← onRuntime (scanNotifies {} parsed.notify)
  applyScan command parsed.resultClass scan
  onRuntime (applyCommandText command parsed)

/-- The records of a response with those of its async notifications behind its own. -/
def parseResponse (result : MiTransportResponse) : ParsedMiResponse :=
  let parsed := parseMiResponses result.commandResponses
  { parsed with notify := parsed.notify ++ (parseMiResponses result.asyncNotifications).notify }

def stillRunningWarning : String :=
  "Command acknowledged and inferior is still running. " ++
    "Use gdb_wait_for_stop or gdb_interrupt to observe a stop event."

/-- The outcome of a command that GDB has accepted. -/
def commandInfo (command : String) (parsed : ParsedMiResponse) : CommandExecutionInfo :=
  if isCliCommand command then
    let consoleOutput := streamText parsed.console
    { command, output := some (if consoleOutput = "" then "(no output)" else PyStr.strip consoleOutput) }
  else { command, result := some parsed.toValue }

/-- The command line that is sent for a command. -/
def actualCommand (command : String) : String :=
  if isCliCommand command then wrapCliCommand command else command

/-- The result of a command whose response has not come in time. -/
def settleTimeout (command : String) (timeoutSec : Nat) (allowRunningTimeout : Bool)
    (parsed : ParsedMiResponse) : SessionM W (OperationResult CommandExecutionInfo) := do
  let entry : CommandTranscriptEntry :=
    { command, sentCommand := some (actualCommand command), resultClass := parsed.resultClass
      timedOut := true, error := some s!"Timeout waiting for command response after {timeoutSec}s" }
  updateRuntimeAfterCommand command parsed
  let state ← read SessionRuntime.executionState
  if allowRunningTimeout && (parsed.resultClass == some "running" || state == .running) then
    recordTranscript entry
    return .success { command, result := some parsed.toValue } [stillRunningWarning]
  else
    recordTranscript { entry with status := "timeout" }
    return .error s!"Timeout waiting for command response after {timeoutSec}s" false
      [("command", .str command)]

/-- The result of a command that GDB has answered. -/
def settleAnswer (command : String) (parsed : ParsedMiResponse) :
    SessionM W (OperationResult CommandExecutionInfo) := do
  let entry : CommandTranscriptEntry :=
    { command, sentCommand := some (actualCommand command), resultClass := parsed.resultClass }
  if parsed.isErrorResult then
    let message := parsed.errorMessage.getD "GDB returned an error"
    recordTranscript { entry with status := "error", error := some message }
    return .error message false [("command", .str command)]
  else
    updateRuntimeAfterCommand command parsed
    recordTranscript entry
    return .success (commandInfo command parsed)

/-- Turn the response of the transport into the result of the command. -/
def settleCommand (command : String) (timeoutSec : Nat) (allowRunningTimeout : Bool)
    (result : MiTransportResponse) : SessionM W (OperationResult CommandExecutionInfo) := do
  match result.error with
  | some error => do
    recordTranscript
      { command, sentCommand := some (actualCommand command), status := "error", error := some error
        fatal := result.fatal }
    return .error error result.fatal [("command", .str command)]
  | none =>
    if result.timedOut then settleTimeout command timeoutSec allowRunningTimeout (parseResponse result)
    else settleAnswer command (parseResponse result)

/-- Execute a GDB command and normalize CLI vs MI results. -/
def executeCommandResult (command : String) (timeoutSec : Nat) (allowRunningTimeout : Bool := false) :
    SessionM W (OperationResult CommandExecutionInfo) := do
  if ← hasController then
    if ← isGdbAlive then
      let result ← sendCommandAndWaitForPrompt (actualCommand command) timeoutSec
      settleCommand command timeoutSec allowRunningTimeout result
    else
      handleDeadTransport deadTransportMessage
      recordTranscript
        { command, sentCommand := some command, status := "error", error := some deadTransportMessage }
      return .error deadTransportMessage false [("command", .str command)]
  else
    return .error "No active GDB session"

/-- A command of a session without a controller is refused. -/
theorem executeCommandResult_detached {s : Session W}
    (hs : s.runtime.hasController = false) (command : String) (timeoutSec : Nat) (allow : Bool) :
    (executeCommandResult command timeoutSec allow).run s = (.ok (.error "No active GDB session"), s) := by
  simp [executeCommandResult, hasController, read, Eff.gets, bind, hs, pure]

end Session
end GdbMcp
