import GdbMcp.LifecycleStartup
import GdbMcp.RunnerCommand

/-! Start, stop and status of a session. A start issues the version probe, the confirmation setting,
the environment, the caller's commands and a target probe; failures of the second and of the last are
warnings. -/

namespace GdbMcp

/-- Structured result for a successful session start; an empty list stands for a missing one. -/
structure SessionStartInfo where
  message : String
  program : Option String
  core : Option String
  targetLoaded : Bool
  executionState : ExecutionState
  stopReason : Option String
  exitCode : Option Int
  startupOutput : Option String
  warnings : List String
  envOutput : List Value
  initOutput : List Value
  endpoint : Option String
  rrReplay : Option String

/-- One entry of the inferior summary of a status. -/
structure InferiorStateRecord where
  inferiorId : Int
  isCurrent : Bool
  state : InferiorRuntimeState
  deriving DecidableEq, Repr

/-- Serializable snapshot of the externally visible session status. -/
structure SessionStatusSnapshot where
  isRunning : Bool
  targetLoaded : Bool
  hasController : Bool
  executionState : ExecutionState
  stopReason : Option String
  exitCode : Option Int
  currentInferiorId : Option Int
  inferiorCount : Option Int
  inferiorStates : List InferiorStateRecord
  followForkMode : Option FollowForkMode
  detachOnFork : Option Bool
  deriving DecidableEq, Repr

/-- Sorted runtime state summaries for all known inferiors. -/
def SessionRuntime.inferiorsStateSummary (rt : SessionRuntime) : List InferiorStateRecord :=
  (rt.inferiorStates.keys.mergeSort (· ≤ ·)).map fun k =>
    { inferiorId := k, isCurrent := rt.currentInferiorId == some k, state := rt.inferiorState k }

def SessionRuntime.statusSnapshot (rt : SessionRuntime) : SessionStatusSnapshot where
  isRunning := rt.isRunning
  targetLoaded := rt.targetLoaded
  hasController := rt.hasController
  executionState := rt.executionState
  stopReason := rt.stopReason
  exitCode := rt.exitCode
  currentInferiorId := rt.currentInferiorId
  inferiorCount := rt.inferiorCount
  inferiorStates := rt.inferiorsStateSummary
  followForkMode := rt.followForkMode
  detachOnFork := rt.detachOnFork

/-- The external JSON shape of a command result. -/
def OperationResult.toMapping : OperationResult CommandExecutionInfo → Value
  | .success info warnings =>
    .dict ([("command", .str info.command), ("output", .ofOption .str info.output),
      ("result", info.result.getD .none), ("status", .str "success")] ++
        if warnings.isEmpty then [] else [("warnings", .list (warnings.map .str))])
  | .error message fatal details code =>
    let raised := details.filter fun (key, _) => ["action", "tool"].contains key
    let nested := details.filter fun (key, _) =>
      !(["action", "tool", "status", "code", "message", "fatal"].contains key)
    .dict ([("status", .str "error"), ("code", .str code), ("message", .str message)] ++
      (if fatal then [("fatal", .bool true)] else []) ++ raised ++
        if nested.isEmpty then [] else [("details", .dict nested)])

/-- The timeout for loading core and executable files, in seconds. -/
def fileLoadTimeoutSec : Nat := 300

namespace Session

variable {W : Type} [Gdb W]

/-- Leave the transport, whatever its `exit` does. -/
def exitQuietly : SessionM W Unit := do
  if ← hasController then
    Eff.attempt (onChannel MiClient.exit) fun _ => return ()

/-- Best-effort cleanup after a startup failure. -/
def cleanupFailedStart (message : String) : SessionM W Unit := do
  exitQuietly
  update (·.markFailed message)

/-- Fail a start: clean up and report. -/
def failStart {α : Type} (failure : String) (message : String) (fatal : Bool := false)
    (details : List (String × Value) := []) : SessionM W (OperationResult α) := do
  cleanupFailedStart failure
  return .error message fatal details

/-- Apply inferior environment variables before startup commands run. -/
def applyEnvironment : List (String × String) → List Value → SessionM W (OperationResult (List Value))
  | [], output => return .success output
  | (name, value) :: rest, output =>
    match environmentValidationError name value with
    | some message => failStart message message
    | none => do
      let result ← executeCommandResult s!"set environment {name} {value}" defaultTimeoutSec
      let output := output ++ [result.toMapping]
      match result with
      | .success .. => applyEnvironment rest output
      | .error message fatal _ _ =>
        let failure := s!"Failed to set environment variable {name}: {message}"
        failStart failure failure fatal [("env_output", .list output)]

def initCommandTimeout (command : String) : Nat :=
  if loadsTarget (PyStr.strip (PyStr.lower command)) then fileLoadTimeoutSec else defaultTimeoutSec

/-- The end of a start whose init command has failed. The liveness check is for the log only. -/
def failInitCommand (command message : String) (fatal : Bool) (output : List Value) :
    SessionM W (OperationResult (List Value)) := do
  if !(fatal || PyStr.contains message "GDB process") then
    let _ ← isGdbAlive
  let failure := s!"Init command '{command}' failed: {message}"
  failStart failure failure fatal [("init_output", .list output)]

/-- The end of a start whose init command has raised. -/
def failInitException (command : String) (output : List Value) (e : PyError) :
    SessionM W (OperationResult (List Value)) := do
  let _ ← isGdbAlive
  let failure := s!"Init command '{command}' raised an exception: {e.message}"
  let entry := Value.dict
    [("status", .str "error"), ("command", .str command), ("message", .str e.message)]
  failStart failure failure false [("init_output", .list (output ++ [entry]))]

/-- Run the caller's commands, up to the first failure. -/
def runInitCommands : List String → List Value → SessionM W (OperationResult (List Value))
  | [], output => return .success output
  | command :: rest, output => do
    match ← Eff.attempt (Except.ok <$> executeCommandResult command (initCommandTimeout command))
        (fun e => return .error e) with
    | .error e => failInitException command output e
    | .ok result =>
      let output := output ++ [result.toMapping]
      match result with
      | .success .. => runInitCommands rest output
      | .error message fatal _ _ => failInitCommand command message fatal output

/-- What the output of `info files` says of a loaded target. -/
def outputShowsTarget (info : CommandExecutionInfo) : Bool :=
  let output := PyStr.strip (info.output.getD "")
  !(output == "" || output == "(no output)") &&
    !PyStr.contains (PyStr.lower output) "no executable file now"

/-- Probe whether GDB currently has an executable or core file loaded; a failure is a warning. -/
def probeTargetLoaded : SessionM W (List String) := do
  match ← executeCommandResult "info files" defaultTimeoutSec with
  | .success info _ => do
    update fun rt => { rt with targetLoaded := outputShowsTarget info }
    return []
  | .error message _ _ _ =>
    return [s!"Could not refresh target_loaded from GDB after startup commands: {message}"]

/-- Keep CLI commands non-interactive by default; a failure is a warning. -/
def disableConfirmations : SessionM W (List String) := do
  match ← executeCommandResult "set confirm off" defaultTimeoutSec with
  | .success .. => return []
  | .error message _ _ _ =>
    return [s!"Failed to disable interactive confirmations by default: {message}"]

/-- The execution state of a target that no command has touched. -/
def settleExecutionState (a : StartArgs) (rt : SessionRuntime) : SessionRuntime :=
  if rt.executionState = .unknown then
    if given a.core ||
        a.initCommands.any (fun c => PyStr.startswith (PyStr.strip (PyStr.lower c)) "core-file ") then
      rt.markInferiorPaused (some "core-file") none
    else if rt.targetLoaded then rt.markInferiorNotStarted none
    else rt
  else rt

/-- The commands of a start behind the version probe, from the output collected so far. -/
def configureSession (a : StartArgs) (startup : ParsedMiResponse) (startupNotes : List String) :
    SessionM W (OperationResult SessionStartInfo) := do
  let text := startupOutputText startup
  let confirmNotes ← disableConfirmations
  update fun rt => { rt with targetLoaded := startupTargetLoaded a.program a.core (PyStr.lower text) }
  match ← applyEnvironment a.env [] with
  | .error message fatal details code => return .error message fatal details code
  | .success envOutput _ =>
    match ← runInitCommands a.initCommands [] with
    | .error message fatal details code => return .error message fatal details code
    | .success initOutput _ => do
      let probeNotes ← probeTargetLoaded
      update fun rt => (settleExecutionState a rt).markReady
      let rt ← read id
      let output := PyStr.strip text
      return .success
        { message := "GDB session started"
          program := a.program
          core := a.core
          targetLoaded := rt.targetLoaded
          executionState := rt.executionState
          stopReason := rt.stopReason
          exitCode := rt.exitCode
          startupOutput := if output = "" then none else some output
          warnings := startupNotes ++ startupWarnings (PyStr.lower text) ++ autoLoadWarnings text ++
            confirmNotes ++ probeNotes
          envOutput := envOutput
          initOutput := initOutput
          endpoint := a.endpoint
          rrReplay := a.rrReplay }

/-- Attach a controller: connect to the endpoint, or spawn the debugger. -/
def launch (a : StartArgs) (gdbPath : String) : SessionM W Unit := do
  if given a.endpoint then
    onChannel (MiClient.adopt (textOf a.endpoint))
  else
    let rrPath ← Eff.gets fun s => (Gdb.environ s.gdb "RR_PATH").getD "rr"
    onChannel (MiClient.start (a.buildStartCommand gdbPath rrPath) a.workingDir)

/-- Launch the debugger, wait until it answers, and configure it. -/
def launchSession (a : StartArgs) (gdbPath : String) (startupNotes : List String) :
    SessionM W (OperationResult SessionStartInfo) := do
  launch a gdbPath
  let initial ← onChannel (MiClient.readInitialOutput 1)
  let ready ← sendCommandAndWaitForPrompt "-gdb-version" defaultTimeoutSec
  if ready.error.isSome || ready.timedOut then
    let cause := ready.error.getD "Timeout waiting for GDB to initialize"
    let failure := s!"GDB failed to initialize: {cause}"
    failStart failure failure ready.fatal
  else
    configureSession a (parseMiResponses (initial ++ ready.commandResponses)) startupNotes

/-- The checked part of a start. -/
def startChecked (a : StartArgs) (gdbPath : String) (startupNotes : List String) :
    SessionM W (OperationResult SessionStartInfo) := do
  match a.conflict with
  | some (failure, message) => do
    update (·.markFailed failure)
    return .error message
  | none => do
    let found ← Eff.gets fun s => !given a.workingDir || Gdb.isdir s.gdb (textOf a.workingDir)
    if found then
      launchSession a gdbPath startupNotes
    else
      let message := s!"Working directory does not exist: {textOf a.workingDir}"
      update (·.markFailed message)
      return .error message

def sessionConfig (a : StartArgs) (gdbPath : String) : SessionConfig where
  program := a.program
  args := a.args
  initCommands := a.initCommands
  env := a.env
  gdbPath := some gdbPath
  gdbArgs := a.gdbArgs
  workingDir := a.workingDir
  core := a.core
  endpoint := a.endpoint
  rrReplay := a.rrReplay

/-- The end of a start that has raised. -/
def failStartException (e : PyError) : SessionM W (OperationResult SessionStartInfo) :=
  match e with
  | .endpointError message => failStart message message
  | e => failStart s!"Failed to start GDB: {e.message}" s!"Failed to start GDB: {e.message}"

/-- Start a new GDB session. -/
def start (args : StartArgs) : SessionM W (OperationResult SessionStartInfo) := do
  if ← hasController then
    return .error "Session already running. Stop it first."
  else
    let gdbPath ← Eff.gets fun s => args.gdbPath.getD ((Gdb.environ s.gdb "GDB_PATH").getD "gdb")
    let notes := if args.ignoresProgram then [args.ignoredProgramWarning] else []
    let a := args.withoutIgnoredProgram
    update (·.beginStartup (sessionConfig a gdbPath))
    Eff.attempt (startChecked a gdbPath notes) failStartException

/-- Stop the GDB session. -/
def stop : SessionM W (OperationResult String) := do
  if ← hasController then
    Eff.attempt
      (do
        onChannel MiClient.exit
        update (·.markStopped)
        return .success "GDB session stopped")
      fun e => do
        update (·.markFailed s!"Failed to stop GDB session: {e.message}")
        return .error e.message
  else
    return .error "No active session"

/-- Notice that the process of the debugger is gone. -/
def noticeExit : SessionM W Unit := do
  if ← hasController then
    if ← isGdbAlive then return ()
    else update (·.markTransportTerminated deadTransportMessage)
  else return ()

/-- Get the current status of the GDB session. -/
def getStatus : SessionM W (OperationResult SessionStatusSnapshot) := do
  noticeExit
  let rt ← read id
  return .success rt.statusSnapshot

end Session
end GdbMcp
