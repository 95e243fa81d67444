import GdbMcp.TransportClient
import Mathlib.Data.List.AList
import Mathlib.Order.Basic

/-! The mutable runtime of one debugger session and its mutators. The inferior table is a dictionary;
no operation reads its order. -/

namespace GdbMcp

/-- Lifecycle states for a debugger session. -/
inductive SessionState where
  | created | starting | ready | failed | stopped
  deriving DecidableEq, Repr

inductive ExecutionState where
  | unknown | notStarted | running | paused | exited
  deriving DecidableEq, Repr

/-- The text of an execution state in responses. -/
def ExecutionState.name : ExecutionState → String
  | .unknown => "unknown"
  | .notStarted => "not_started"
  | .running => "running"
  | .paused => "paused"
  | .exited => "exited"

inductive FollowForkMode where
  | parent | child
  deriving DecidableEq, Repr

/-- Normalized launch configuration for a GDB session. -/
structure SessionConfig where
  program : Option String := none
  args : List String := []
  initCommands : List String := []
  env : List (String × String) := []
  gdbPath : Option String := none
  gdbArgs : List String := []
  workingDir : Option String := none
  core : Option String := none
  endpoint : Option String := none
  rrReplay : Option String := none
  deriving DecidableEq, Repr

/-- Structured description of one inferior stop or exit event. -/
structure StopEvent where
  executionState : ExecutionState
  reason : Option String := none
  command : Option String := none
  inferiorId : Option Int := none
  threadId : Option Int := none
  frame : Option Value := none
  signalName : Option String := none
  signalMeaning : Option String := none
  breakpointNumber : Option String := none
  exitCode : Option Int := none
  timestamp : Option Nat := none
  details : Value := .dict []
  deriving Repr

/-- Structured metadata for one debugger command execution. -/
structure CommandTranscriptEntry where
  command : String
  sentCommand : Option String := none
  status : String := "success"
  resultClass : Option String := none
  timedOut : Bool := false
  fatal : Bool := false
  error : Option String := none
  executionState : Option ExecutionState := none
  stopReason : Option String := none
  timestamp : Option Nat := none
  deriving DecidableEq, Repr

/-- Mutable runtime execution state for one inferior. -/
structure InferiorRuntimeState where
  executionState : ExecutionState := .unknown
  stopReason : Option String := none
  exitCode : Option Int := none
  deriving DecidableEq, Repr, Inhabited

abbrev InferiorTable := AList fun _ : Int => InferiorRuntimeState

def defaultStopHistoryLimit : Nat := 50

def defaultCommandTranscriptLimit : Nat := 200

/-- Single source of truth for session lifecycle and transport state. The field `stopEvents` is history:
all stop events ever recorded, in order. -/
structure SessionRuntime where
  transport : MiClient := {}
  config : Option SessionConfig := none
  state : SessionState := .created
  isRunning : Bool := false
  targetLoaded : Bool := false
  attachedPid : Option Int := none
  executionState : ExecutionState := .unknown
  stopReason : Option String := none
  exitCode : Option Int := none
  lastFailureMessage : Option String := none
  currentThreadId : Option Int := none
  currentFrame : Option Int := none
  currentInferiorId : Option Int := none
  inferiorCount : Option Int := none
  inferiorStates : InferiorTable := ∅
  followForkMode : Option FollowForkMode := none
  detachOnFork : Option Bool := none
  disassembleASupported : Option Bool := none
  readMemoryBytesSupported : Option Bool := none
  lastStopEvent : Option StopEvent := none
  stopHistory : List StopEvent := []
  stopHistoryLimit : Nat := defaultStopHistoryLimit
  commandTranscript : List CommandTranscriptEntry := []
  commandTranscriptLimit : Nat := defaultCommandTranscriptLimit
  stopEvents : List StopEvent := []

namespace SessionRuntime

def hasController (rt : SessionRuntime) : Bool := rt.transport.controller.isSome

def withTransport (rt : SessionRuntime) (transport : MiClient) : SessionRuntime :=
  { rt with transport := transport }

/-- Clear per-run transient state shared by startup, stop, and failure. -/
def resetTransient (rt : SessionRuntime) : SessionRuntime :=
  { rt with
    isRunning := false
    targetLoaded := false
    attachedPid := none
    executionState := .unknown
    stopReason := none
    exitCode := none
    currentThreadId := none
    currentFrame := none
    currentInferiorId := none
    inferiorCount := none
    inferiorStates := ∅
    followForkMode := none
    detachOnFork := none
    disassembleASupported := none
    readMemoryBytesSupported := none }

/-- Record a startup attempt and reset transient state. -/
def beginStartup (rt : SessionRuntime) (config : SessionConfig) : SessionRuntime :=
  { rt with config := some config, state := .starting, lastFailureMessage := none }.resetTransient
    |> fun rt => { rt with lastStopEvent := none, stopHistory := [], commandTranscript := [] }

/-- The record of the inferior in the table, a new one if it has none. -/
def inferiorState (rt : SessionRuntime) (inferiorId : Int) : InferiorRuntimeState :=
  (rt.inferiorStates.lookup inferiorId).getD {}

/-- The top-level fields, as a record of an inferior. -/
def selectedState (rt : SessionRuntime) : InferiorRuntimeState :=
  { executionState := rt.executionState, stopReason := rt.stopReason, exitCode := rt.exitCode }

def withSelectedState (rt : SessionRuntime) (state : InferiorRuntimeState) : SessionRuntime :=
  { rt with
    executionState := state.executionState, stopReason := state.stopReason, exitCode := state.exitCode }

/-- Mirror the selected inferior runtime state into top-level fields. -/
def synchronizeSelectedState (rt : SessionRuntime) : SessionRuntime :=
  match rt.currentInferiorId with
  | none => rt.withSelectedState {}
  | some k =>
    { rt with inferiorStates := rt.inferiorStates.insert k (rt.inferiorState k) }.withSelectedState
      (rt.inferiorState k)

/-- Mark the session as ready for requests. -/
def markReady (rt : SessionRuntime) : SessionRuntime :=
  let current := rt.currentInferiorId.getD 1
  let rt := { rt with
    state := .ready
    isRunning := true
    lastFailureMessage := none
    currentInferiorId := some current
    inferiorCount := some (rt.inferiorCount.getD 1)
    inferiorStates :=
      if current ∈ rt.inferiorStates then rt.inferiorStates
      else rt.inferiorStates.insert current rt.selectedState }.synchronizeSelectedState
  { rt with
    followForkMode := some (rt.followForkMode.getD .parent)
    detachOnFork := some (rt.detachOnFork.getD true) }

/-- Record a terminal failure for the current session. -/
def markFailed (rt : SessionRuntime) (message : String) : SessionRuntime :=
  { rt with state := .failed, lastFailureMessage := some message }.resetTransient

def dropController (rt : SessionRuntime) : SessionRuntime :=
  rt.withTransport { rt.transport with controller := none }

/-- Record that the debugger transport has died and clear its controller. -/
def markTransportTerminated (rt : SessionRuntime) (message : String) : SessionRuntime :=
  rt.dropController.markFailed message

/-- Record a clean stop of the current session. -/
def markStopped (rt : SessionRuntime) : SessionRuntime :=
  { rt with state := .stopped, lastFailureMessage := none }.resetTransient

def markThreadSelected (rt : SessionRuntime) (threadId : Option Int) : SessionRuntime :=
  { rt with currentThreadId := threadId }

def markFrameSelected (rt : SessionRuntime) (frameNumber : Option Int) : SessionRuntime :=
  { rt with currentFrame := frameNumber }

/-- The count is raised to the size of the table where it is unknown or too small. -/
def raiseInferiorCount (rt : SessionRuntime) : SessionRuntime :=
  { rt with
    inferiorCount := some (max (rt.inferiorCount.getD 0) rt.inferiorStates.entries.length) }

/-- Ensure one inferior has an allocated runtime state record. -/
def ensureInferior (rt : SessionRuntime) (inferiorId : Int) : SessionRuntime :=
  if inferiorId ≤ 0 then rt
  else
    { rt with
      inferiorStates := rt.inferiorStates.insert inferiorId (rt.inferiorState inferiorId) }.raiseInferiorCount

/-- Track the currently selected inferior and clear stale stack selection. -/
def markInferiorSelected (rt : SessionRuntime) (inferiorId : Option Int) : SessionRuntime :=
  let rt := { rt with currentInferiorId := inferiorId, currentThreadId := none, currentFrame := none }
  (inferiorId.elim rt rt.ensureInferior).synchronizeSelectedState

/-- `min(self.inferior_states)`, or `None` if the table is empty. -/
def lowestInferior (rt : SessionRuntime) : Option Int := rt.inferiorStates.keys.min?

/-- The records of the listed inferiors, new where the table has none. -/
def keepInferiors (rt : SessionRuntime) (inferiorIds : List Int) : InferiorTable :=
  inferiorIds.foldl (fun states k => states.insert k (rt.inferiorState k)) ∅

/-- Track the current inferior inventory snapshot. -/
def updateInferiorInventory (rt : SessionRuntime) (currentInferiorId : Option Int) (count : Int)
    (inferiorIds : Option (List Int)) : SessionRuntime :=
  let rt := { rt with inferiorStates := inferiorIds.elim rt.inferiorStates rt.keepInferiors }
  let rt := { rt with
    currentInferiorId := currentInferiorId <|> rt.lowestInferior, inferiorCount := some count }
  (rt.currentInferiorId.elim rt rt.ensureInferior).synchronizeSelectedState

/-- Remove one inferior from runtime tracking after thread-group removal. -/
def removeInferior (rt : SessionRuntime) (inferiorId : Int) : SessionRuntime :=
  if inferiorId ∈ rt.inferiorStates then
    let rt := { rt with inferiorStates := rt.inferiorStates.erase inferiorId }
    let rt := { rt with inferiorCount := some rt.inferiorStates.entries.length }
    (if rt.currentInferiorId = some inferiorId then
      { rt with currentInferiorId := rt.lowestInferior, currentThreadId := none, currentFrame := none }
    else rt).synchronizeSelectedState
  else rt

def markFollowForkMode (rt : SessionRuntime) (mode : Option FollowForkMode) : SessionRuntime :=
  { rt with followForkMode := mode }

def markDetachOnFork (rt : SessionRuntime) (enabled : Option Bool) : SessionRuntime :=
  { rt with detachOnFork := enabled }

def markAttached (rt : SessionRuntime) (pid : Int) : SessionRuntime := { rt with attachedPid := some pid }

def clearAttachedPid (rt : SessionRuntime) : SessionRuntime := { rt with attachedPid := none }

/-- Update one inferior state and mirror it to the selected fields when applicable. An update without
an inferior goes to the current one; where none is current, the target becomes it. -/
def updateInferiorState (rt : SessionRuntime) (inferiorId : Option Int)
    (state : InferiorRuntimeState) : SessionRuntime :=
  let target := inferiorId.getD (rt.currentInferiorId.getD 1)
  let rt := { rt with
    currentInferiorId := some (rt.currentInferiorId.getD target)
    inferiorStates := rt.inferiorStates.insert target state }.raiseInferiorCount
  if rt.currentInferiorId = some target then rt.withSelectedState state else rt

def markInferiorNotStarted (rt : SessionRuntime) (inferiorId : Option Int) : SessionRuntime :=
  rt.updateInferiorState inferiorId { executionState := .notStarted }

def markInferiorRunning (rt : SessionRuntime) (inferiorId : Option Int) : SessionRuntime :=
  rt.updateInferiorState inferiorId { executionState := .running }

def markInferiorPaused (rt : SessionRuntime) (reason : Option String) (inferiorId : Option Int) :
    SessionRuntime :=
  rt.updateInferiorState inferiorId { executionState := .paused, stopReason := reason }

def markInferiorExited (rt : SessionRuntime) (reason : Option String) (exitCode : Option Int)
    (inferiorId : Option Int) : SessionRuntime :=
  rt.updateInferiorState inferiorId { executionState := .exited, stopReason := reason, exitCode := exitCode }

/-- Trim one history list to the configured maximum size. -/
def trimHistory {α : Type} (items : List α) (limit : Nat) : List α :=
  if limit < 1 then [] else items.drop (items.length - limit)

/-- Remember a structured stop event and keep bounded history. -/
def recordStopEvent (rt : SessionRuntime) (event : StopEvent) : SessionRuntime :=
  { rt with
    lastStopEvent := some event
    stopHistory := trimHistory (rt.stopHistory ++ [event]) rt.stopHistoryLimit
    stopEvents := rt.stopEvents ++ [event] }

/-- Remember command execution metadata and keep bounded transcript history. -/
def recordCommandTranscript (rt : SessionRuntime) (entry : CommandTranscriptEntry) : SessionRuntime :=
  { rt with
    commandTranscript := trimHistory (rt.commandTranscript ++ [entry]) rt.commandTranscriptLimit }

end SessionRuntime
end GdbMcp
