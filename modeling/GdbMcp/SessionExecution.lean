import GdbMcp.RunnerCommand

/-! Execution control of a session: running, stepping, waiting, interrupting and calling functions. -/

namespace GdbMcp

/-- Structured response for waiting on the next or current stop event. -/
structure WaitForStopInfo where
  message : String
  matched : Bool
  timedOut : Bool := false
  source : String := "waited"
  executionState : ExecutionState
  stopReason : Option String
  reasonFilter : Option (List String)
  lastStopEvent : Option StopEvent

/-- Structured response for finishing the current frame. -/
structure FinishInfo where
  message : String
  returnValue : Option String
  gdbResultVar : Option String
  frame : Option Value
  executionState : ExecutionState
  stopReason : Option String
  lastStopEvent : Option StopEvent

/-- Message plus structured result payload. -/
structure MessageResult where
  message : String
  result : Value
  status : String := "success"

/-- Function-call payload. -/
structure FunctionCallInfo where
  functionCall : String
  result : String

/-- The arguments that the execution commands share. -/
structure ExecArgs where
  waitForStop : Bool := true
  timeoutSec : Nat := defaultTimeoutSec
  reverse : Bool := false

/-- The reply timeout of an interrupt, in seconds. -/
def interruptResponseTimeoutSec : Nat := 2

/-- One MI execution command, optionally in the reverse direction. -/
def execCommand (base : String) (reverse : Bool) : String := if reverse then base ++ " --reverse" else base

/-- Add a cast hint when GDB cannot infer the called function's return type. -/
def augmentCallError (message functionCall : String) : String :=
  if !PyStr.contains (PyStr.lower message) "unknown return type" then message
  else if PyStr.startswith (PyStr.lstrip functionCall) "(" then message
  else s!"{message} (cast the call, e.g. 'call (int){functionCall}')"

/-- The reason of the first `stopped` notification that has one. -/
def extractStopReason (notifies : List MiNotifyRecord) : Option String :=
  notifies.findSome? fun n => if n.message = some "stopped" then asText (n.payload.get "reason") else none

/-- Build a human-readable wait result message. -/
def waitResultMessage (matched timedOut : Bool) (stopReason : Option String) (source : String) : String :=
  let reason := stopReason.filter (· ≠ "")
  if timedOut then "Timed out waiting for the inferior to stop"
  else if matched then
    match reason with
    | some r =>
      if source = "waited" then s!"Inferior stopped for reason {r}"
      else s!"Inferior is already stopped for reason {r}"
    | none => "Inferior stopped"
  else
    match reason with
    | some r => s!"Inferior stopped for reason {r}, but it did not match the requested filter"
    | none => "Inferior is not running and no matching stop reason is available"

/-- Extract the MI result payload of a command result. -/
def extractMiResultPayload (info : CommandExecutionInfo) : Value := (info.result.getD (.dict [])).get "result"

namespace Session

variable {W : Type} [Gdb W]

/-- Execute a GDB command and return the parsed response. -/
def executeCommand (command : String) (timeoutSec : Nat) : SessionM W (OperationResult CommandExecutionInfo) :=
  executeCommandResult command timeoutSec

/-- Set the arguments of the program, if there are any. -/
def setArguments (args : List String) (timeoutSec : Nat) :
    SessionM W (OperationResult CommandExecutionInfo) :=
  if args.isEmpty then return .success { command := "" }
  else executeCommandResult (buildExecArgumentsCommand args) timeoutSec

/-- Run the program. -/
def run (args : List String) (timeoutSec : Nat) (waitForStop : Bool) :
    SessionM W (OperationResult CommandExecutionInfo) := do
  if ← hasController then
    let prepared ← setArguments args timeoutSec
    if prepared.isSuccess then
      executeCommandResult "-exec-run" timeoutSec !waitForStop
    else
      return prepared
  else
    return .error "No active GDB session"

def alreadyRunningMessage : String :=
  "Inferior is already running. Use gdb_wait_for_stop to wait for the next " ++
    "stop event or gdb_interrupt to force a pause."

/-- One execution command. -/
def exec (base : String) (a : ExecArgs) : SessionM W (OperationResult CommandExecutionInfo) :=
  executeCommandResult (execCommand base a.reverse) a.timeoutSec !a.waitForStop

/-- Continue execution of the program, forward or backward. -/
def continueExecution (a : ExecArgs) : SessionM W (OperationResult CommandExecutionInfo) := do
  if ← hasController then
    if (← read SessionRuntime.executionState) = .running then
      return .error alreadyRunningMessage
    else
      exec "-exec-continue" a
  else
    return .error "No active GDB session"

/-- Step into the next source line, forward or backward. -/
def step (a : ExecArgs) : SessionM W (OperationResult CommandExecutionInfo) := exec "-exec-step" a

/-- Step over the next source line, forward or backward. -/
def next (a : ExecArgs) : SessionM W (OperationResult CommandExecutionInfo) := exec "-exec-next" a

/-- What a finish reports, from the result of its command and the last stop. -/
def finishInfo (info : CommandExecutionInfo) (rt : SessionRuntime) : FinishInfo :=
  let own := (extractMiResultPayload info).asDict
  let stopDetails := rt.lastStopEvent.elim (.dict []) StopEvent.details
  let payload := if own.isFalsy && rt.lastStopEvent.isSome then stopDetails else own
  { message := "Frame finished"
    returnValue := asText (payload.get "return-value")
    gdbResultVar := asText (payload.get "gdb-result-var")
    frame := asOptionalMapping (payload.get "frame") <|> rt.lastStopEvent.bind StopEvent.frame
    executionState := rt.executionState
    stopReason := rt.stopReason
    lastStopEvent := rt.lastStopEvent }

/-- Finish the current frame and stop in the caller, forward or backward. -/
def finish (a : ExecArgs) : SessionM W (OperationResult FinishInfo) := do
  match ← exec "-exec-finish" a with
  | .error message fatal details code => return .error message fatal details code
  | .success info _ => return .success (finishInfo info (← read id))

def waitInfo (rt : SessionRuntime) (matched timedOut : Bool) (source : String) (stopReasons : List String) :
    WaitForStopInfo where
  message := waitResultMessage matched timedOut rt.stopReason source
  matched := matched
  timedOut := timedOut
  source := source
  executionState := rt.executionState
  stopReason := rt.stopReason
  reasonFilter := if stopReasons.isEmpty then none else some stopReasons
  lastStopEvent := rt.lastStopEvent

/-- Whether the stop reason passes the filter; an empty filter passes all. -/
def stopMatches (rt : SessionRuntime) (stopReasons : List String) : Bool :=
  stopReasons.isEmpty || rt.stopReason.any stopReasons.contains

/-- The part of a wait behind its checks, for an inferior that runs. -/
def awaitStop (timeoutSec : Nat) (stopReasons : List String) : SessionM W (OperationResult WaitForStopInfo) := do
  let entry : CommandTranscriptEntry := { command := "wait_for_stop" }
  let result ← waitForStopNotification timeoutSec
  match result.error with
  | some error => do
    recordTranscript { entry with status := "error", fatal := result.fatal, error := some error }
    return .error error
  | none => do
    updateRuntimeAfterCommand "wait_for_stop" (parseMiResponses result.commandResponses)
    if result.timedOut then
      recordTranscript
        { entry with
          status := "timeout", timedOut := true
          error := some s!"Timeout waiting for stop after {timeoutSec}s" }
      return .success (waitInfo (← read id) false true "waited" stopReasons)
    else
      recordTranscript entry
      let rt ← read id
      return .success (waitInfo rt (stopMatches rt stopReasons) false "waited" stopReasons)

/-- Wait for the inferior to stop, optionally matching one of several reasons. -/
def waitForStop (timeoutSec : Nat) (stopReasons : List String) :
    SessionM W (OperationResult WaitForStopInfo) := do
  if ← hasController then
    if ← isGdbAlive then
      if (← read SessionRuntime.executionState) = .running then
        awaitStop timeoutSec stopReasons
      else
        recordTranscript { command := "wait_for_stop" }
        let rt ← read id
        return .success (waitInfo rt (stopMatches rt stopReasons) false "existing" stopReasons)
    else
      handleDeadTransport deadTransportMessage
      return .error deadTransportMessage
  else
    return .error "No active GDB session"

def interruptTimeoutMessage : String := "Interrupt sent but no stopped notification received"

/-- The part of an interrupt behind its checks. -/
def sendInterrupt : SessionM W (OperationResult MessageResult) := do
  let entry : CommandTranscriptEntry := { command := "interrupt", sentCommand := some "SIGINT" }
  let result ← interruptAndWaitForStop interruptResponseTimeoutSec
  match result.error with
  | some error => do
    recordTranscript { entry with status := "error", fatal := result.fatal, error := some error }
    return .error error
  | none => do
    let parsed := parseMiResponses result.commandResponses
    updateRuntimeAfterCommand "interrupt" parsed
    if result.timedOut then
      update (·.markInferiorRunning none)
      recordTranscript
        { entry with status := "timeout", timedOut := true, error := some interruptTimeoutMessage }
      return .success { message := interruptTimeoutMessage, result := parsed.toValue, status := "warning" }
    else
      update (·.markInferiorPaused (extractStopReason parsed.notify) none)
      recordTranscript { entry with resultClass := parsed.resultClass }
      return .success { message := "Program interrupted (paused)", result := parsed.toValue }

/-- Interrupt (pause) a running program. -/
def interrupt : SessionM W (OperationResult MessageResult) := do
  if ← hasController then
    if ← isGdbAlive then
      if ← (Eff.gets fun s => Gdb.hasProcess s.gdb : SessionM W Bool) then
        sendInterrupt
      else
        return .error "No GDB process running"
    else
      handleDeadTransport deadTransportMessage
      return .error deadTransportMessage
  else
    return .error "No active GDB session"

/-- The result of a function call that GDB has answered. -/
def settleCall (functionCall : String) (parsed : ParsedMiResponse) :
    SessionM W (OperationResult FunctionCallInfo) := do
  let command := "call " ++ functionCall
  let entry : CommandTranscriptEntry :=
    { command, sentCommand := some (wrapCliCommand command), resultClass := parsed.resultClass }
  updateRuntimeAfterCommand command parsed
  if parsed.isErrorResult then
    let message := parsed.errorMessage.getD "GDB returned an error"
    recordTranscript { entry with status := "error", error := some message }
    return .error (augmentCallError message functionCall) false [("function_call", .str functionCall)]
  else
    recordTranscript entry
    let consoleOutput := streamText parsed.console
    return .success
      { functionCall
        result := if consoleOutput = "" then "(no return value)" else PyStr.strip consoleOutput }

/-- The part of a function call behind its checks. -/
def sendCall (functionCall : String) (timeoutSec : Nat) : SessionM W (OperationResult FunctionCallInfo) := do
  let command := "call " ++ functionCall
  let miCommand := wrapCliCommand command
  let entry : CommandTranscriptEntry := { command, sentCommand := some miCommand }
  let details := [("function_call", Value.str functionCall)]
  let result ← sendCommandAndWaitForPrompt miCommand timeoutSec
  match result.error with
  | some error => do
    recordTranscript { entry with status := "error", fatal := result.fatal, error := some error }
    return .error (augmentCallError error functionCall) false details
  | none =>
    if result.timedOut then
      let message := s!"Timeout waiting for call to complete after {timeoutSec}s"
      recordTranscript { entry with status := "timeout", timedOut := true, error := some message }
      return .error message false details
    else
      settleCall functionCall (parseMiResponses result.commandResponses)

/-- Call a function in the target process. -/
def callFunction (functionCall : String) (timeoutSec : Nat) :
    SessionM W (OperationResult FunctionCallInfo) := do
  if ← hasController then
    if ← isGdbAlive then
      sendCall functionCall timeoutSec
    else
      handleDeadTransport deadTransportMessage
      return .error deadTransportMessage
  else
    return .error "No active GDB session"

end Session
end GdbMcp
