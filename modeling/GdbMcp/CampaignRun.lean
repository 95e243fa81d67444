import GdbMcp.CampaignRequest
import GdbMcp.SessionExecution
import GdbMcp.WorkflowDispatch

/-! Campaigns: fresh sessions are started and run until one failure predicate matches. The capture of a bundle and
the engine of regular expressions are parameters. -/

namespace GdbMcp

/-- Failure predicates evaluated after each iteration. -/
structure RunUntilFailureCriteria where
  failureOnError : Bool := true
  failureOnTimeout : Bool := true
  stopReasons : List String := ["signal-received", "exited-signalled"]
  executionStates : List String := []
  exitCodes : List Int := []
  resultTextRegex : Option String := none

/-- Bundle-capture configuration, with the ranges in the form that a request or a capture needs. -/
structure CaptureOptions (Range : Type) where
  enabled : Bool := true
  outputDir : Option String := none
  bundleNamePrefix : Option String := none
  bundleName : Option String := none
  expressions : List String := []
  memoryRanges : List Range := []
  maxFrames : Nat := 100
  includeThreads : Bool := true
  includeBacktraces : Bool := true
  includeFrame : Bool := true
  includeVariables : Bool := true
  includeRegisters : Bool := true
  includeTranscript : Bool := true
  includeStopHistory : Bool := true

def CaptureOptions.withRanges {Range Range' : Type} (options : CaptureOptions Range) (ranges : List Range') :
    CaptureOptions Range' :=
  { options with memoryRanges := ranges }

/-- The arguments of a campaign that have passed their checks. -/
structure RunUntilFailureArgs where
  startup : StartSessionArgs := {}
  setupSteps : List BatchStepArgs := []
  runArgs : Option RunArgs := none
  runTimeoutSec : Nat := 30
  maxIterations : Nat := 1
  failure : RunUntilFailureCriteria := {}
  capture : CaptureOptions MemoryRangeArgs := {}
  runTimeoutSec_pos : 0 < runTimeoutSec := by decide
  maxIterations_pos : 0 < maxIterations := by decide
  oneBundleName : capture.bundleName = none ∨ capture.bundleNamePrefix = none := by exact .inl rfl

/-- Validated campaign configuration. -/
structure RunUntilFailureRequest (W : Type) where
  program : Option String
  args : List String
  initCommands : List String
  env : List (String × String)
  gdbPath : Option String
  workingDir : Option String
  core : Option String
  setupSteps : List (BatchStepTemplate W)
  runArgs : List String
  runTimeoutSec : Nat
  maxIterations : Nat
  failure : RunUntilFailureCriteria
  capture : CaptureOptions MemoryCaptureRange

/-- Structured summary for one iteration. -/
structure RunUntilFailureIterationInfo where
  iteration : Nat
  status : String
  executionState : Option ExecutionState := none
  stopReason : Option String := none
  exitCode : Option Int := none
  matchedFailure : Bool := false
  trigger : Option String := none
  message : Option String := none

def RunUntilFailureIterationInfo.toValue (info : RunUntilFailureIterationInfo) : Value :=
  .dict [("iteration", .int info.iteration), ("status", .str info.status),
    ("execution_state", .ofOption (fun state => .str state.name) info.executionState),
    ("stop_reason", .ofOption .str info.stopReason), ("exit_code", .ofOption .int info.exitCode),
    ("matched_failure", .bool info.matchedFailure), ("trigger", .ofOption .str info.trigger),
    ("message", .ofOption .str info.message)]

/-- The matched failure that the final response is made of. -/
structure MatchedFailure where
  iteration : Nat
  trigger : Option String
  runPayload : Payload
  status : Option SessionStatusSnapshot := none
  captureBundle : Option Value := none
  captureError : Option String := none

/-- Structured result for one campaign. -/
structure RunUntilFailureInfo where
  message : String
  matchedFailure : Bool
  iterationsRequested : Nat
  iterationsCompleted : Nat
  failureIteration : Option Nat := none
  trigger : Option String := none
  status : Option SessionStatusSnapshot := none
  captureBundle : Option Value := none
  captureError : Option String := none
  lastResult : Option Payload := none
  iterations : List RunUntilFailureIterationInfo

def RunUntilFailureInfo.toValue (info : RunUntilFailureInfo) : Value :=
  .dict [("message", .str info.message), ("matched_failure", .bool info.matchedFailure),
    ("iterations_requested", .int info.iterationsRequested), ("iterations_completed", .int info.iterationsCompleted),
    ("failure_iteration", .ofOption (fun iteration => .int iteration) info.failureIteration),
    ("trigger", .ofOption .str info.trigger),
    ("execution_state", .ofOption (fun status => .str status.executionState.name) info.status),
    ("stop_reason", .ofOption .str (info.status.bind (·.stopReason))),
    ("exit_code", .ofOption .int (info.status.bind (·.exitCode))),
    ("capture_bundle", info.captureBundle.getD .none), ("capture_error", .ofOption .str info.captureError),
    ("last_result", .ofOption .dict info.lastResult),
    ("iterations", .list (info.iterations.map RunUntilFailureIterationInfo.toValue))]

/-! ### Failure predicates -/

/-- The message of a serialized result. -/
def payloadMessage (payload : Payload) : Option String := (payload.lookup "message").bind asText

/-- Whether an outcome matches the failure predicates, and by which. -/
def matchesFailure (criteria : RunUntilFailureCriteria) (payload : Payload) (status : SessionStatusSnapshot)
    (stopEvent : Option StopEvent) (regex : Option (Payload → Bool)) : Option String :=
  let stopReason := (stopEvent.map (·.reason)).getD status.stopReason
  if criteria.failureOnTimeout && (payloadMessage payload).any (fun message => PyStr.contains (PyStr.lower message) "timeout")
  then some "timeout"
  else if criteria.failureOnError && (payload.lookup "status").bind asText == some "error" then some "run_error"
  else if stopReason.any criteria.stopReasons.contains then some ("stop_reason:" ++ stopReason.getD "")
  else if criteria.executionStates.contains status.executionState.name then
    some s!"execution_state:{status.executionState.name}"
  else if status.exitCode.any criteria.exitCodes.contains then some s!"exit_code:{status.exitCode.getD 0}"
  else if regex.any (· payload) then some "result_text_regex"
  else none

/-- A number with at least four digits. -/
def fourDigits (n : Nat) : String := String.ofList (List.replicate (4 - (toString n).length) '0') ++ toString n

def campaignBundleName (bundleName namePrefix : Option String) (iteration : Nat) : Option String :=
  match bundleName, namePrefix with
  | some name, _ => some name
  | none, some start => some (start ++ "-iter-" ++ fourDigits iteration)
  | none, none => none

/-! ### Iterations -/

/-- What a campaign uses besides the session: the capture of a bundle, and `re.compile` with the search in the
serialized payload. -/
structure CampaignTools (W : Type) where
  captureBundle : CaptureOptions MemoryCaptureRange → SessionM W ToolResult
  compile : String → Except PyError (Payload → Bool)

/-- How far a campaign has come. -/
structure CampaignProgress where
  iterations : List RunUntilFailureIterationInfo := []
  matched : Option MatchedFailure := none
  lastPayload : Option Payload := none
  lastStatus : Option SessionStatusSnapshot := none

namespace SessionManager

variable {W : Type}

/-- Create a fresh session without publishing it in the registry. -/
def createUntrackedSession : ManagerM W SessionRef := ⟨fun manager =>
  let session := manager.nextSession
  (.ok session, { manager with
    sessions := Function.update manager.sessions session { manager.sessions session with runtime := {} }
    nextSession := session + 1 })⟩

variable [Gdb W]

/-- Start a session, and note with which parameters. -/
def startWith (session : SessionRef) (a : StartArgs) : ManagerM W (OperationResult SessionStartInfo) := do
  Eff.modify fun manager => { manager with started := manager.started ++ [(session, a)] }
  onSession session (Session.start a)

/-- The status snapshot of a session, which its query always gives. -/
def statusSnapshot (session : SessionRef) : ManagerM W SessionStatusSnapshot := do
  match ← onSession session Session.getStatus with
  | .success status _ => return status
  | .error message _ _ _ => Eff.raise (.other message)

/-- Best-effort cleanup for one temporary session. -/
def cleanupSession (session : SessionRef) : ManagerM W Unit := do
  let rt ← runtimeOf session
  if rt.hasController then
    Eff.attempt (Functor.mapConst () (onSession session Session.stop)) fun _ => return ()

end SessionManager

namespace RunUntilFailureRequest

variable {W : Type} [Gdb W]

/-- The parameters of every start. -/
def startArgs (request : RunUntilFailureRequest W) : StartArgs where
  program := request.program
  args := request.args
  initCommands := request.initCommands
  env := request.env
  gdbPath := request.gdbPath
  workingDir := request.workingDir
  core := request.core

/-- The error of a startup ends the campaign. -/
def startupFailed (iteration : Nat) (message : String) (payload : Payload) (progress : CampaignProgress) :
    CampaignProgress :=
  { progress with
    lastPayload := some payload
    matched := some { iteration, trigger := some "startup_error", runPayload := payload }
    iterations := progress.iterations ++ [
      { iteration, status := "error", matchedFailure := true, trigger := some "startup_error", message := some message }] }

/-- So does a failed setup step. -/
def setupFailed (iteration : Nat) (payload : Payload) (status : SessionStatusSnapshot) (progress : CampaignProgress) :
    CampaignProgress :=
  { progress with
    matched := some { iteration, trigger := some "setup_error", runPayload := payload, status := some status }
    iterations := progress.iterations ++ [
      { iteration, status := "error", executionState := some status.executionState, stopReason := status.stopReason
        exitCode := status.exitCode, matchedFailure := true, trigger := some "setup_error"
        message := some "One or more setup steps failed" }] }

/-- The capture of the matching iteration: its bundle or its error. -/
def captureMatched (tools : CampaignTools W) (capture : CaptureOptions MemoryCaptureRange) (session : SessionRef)
    (iteration : Nat) : ManagerM W (Option Value × Option String) := do
  let name := campaignBundleName capture.bundleName capture.bundleNamePrefix iteration
  match ← SessionManager.onSession session (tools.captureBundle { capture with bundleName := name }) with
  | .success bundle _ => return (some bundle, none)
  | .error message _ _ _ => return (none, some message)

/-- The capture of an iteration, if it matches and captures are enabled. -/
def captureIteration (tools : CampaignTools W) (capture : CaptureOptions MemoryCaptureRange) (session : SessionRef)
    (iteration : Nat) (matched : Bool) : ManagerM W (Option Value × Option String) :=
  if matched && capture.enabled then captureMatched tools capture session iteration else pure (none, none)

/-- The run of one iteration, and what it means. -/
def runProgram (tools : CampaignTools W) (request : RunUntilFailureRequest W) (regex : Option (Payload → Bool))
    (session : SessionRef) (iteration : Nat) (progress : CampaignProgress) : ManagerM W CampaignProgress := do
  let result ← SessionManager.onSession session (Session.run request.runArgs request.runTimeoutSec true)
  let payload := resultToMapping (result.serialize CommandExecutionInfo.toValue)
  let status ← SessionManager.statusSnapshot session
  let rt ← SessionManager.runtimeOf session
  let trigger := matchesFailure request.failure payload status rt.lastStopEvent regex
  let (bundle, captureError) ← captureIteration tools request.capture session iteration trigger.isSome
  let summary : RunUntilFailureIterationInfo :=
    { iteration, status := ((payload.lookup "status").getD (.str "success")).text
      executionState := some status.executionState, stopReason := status.stopReason, exitCode := status.exitCode
      matchedFailure := trigger.isSome, trigger, message := payloadMessage payload }
  return { progress with
    lastPayload := some payload
    lastStatus := some status
    iterations := progress.iterations ++ [summary]
    matched := if trigger.isSome then
      some { iteration, trigger, runPayload := payload, status := some status, captureBundle := bundle, captureError }
      else none }

/-- An iteration behind its successful start. -/
def afterStart (tools : CampaignTools W) (request : RunUntilFailureRequest W) (regex : Option (Payload → Bool))
    (session : SessionRef) (iteration : Nat) (progress : CampaignProgress) : ManagerM W CampaignProgress :=
  if request.setupSteps.isEmpty then runProgram tools request regex session iteration progress
  else do
    let setup ← SessionManager.executeBatchTemplates session request.setupSteps true true
    if 0 < setup.errorCount then
      let status ← SessionManager.statusSnapshot session
      return setupFailed iteration (resultToMapping (.success setup.toValue)) status progress
    else runProgram tools request regex session iteration progress

/-- One attempt with a session. -/
def attemptSession (tools : CampaignTools W) (request : RunUntilFailureRequest W) (regex : Option (Payload → Bool))
    (session : SessionRef) (iteration : Nat) (progress : CampaignProgress) : ManagerM W CampaignProgress := do
  match ← SessionManager.startWith session request.startArgs with
  | .error message fatal details code =>
    return startupFailed iteration message (resultToMapping (.error message fatal details code)) progress
  | .success _ _ => afterStart tools request regex session iteration progress

/-- One iteration: a fresh session, an attempt with it, and its cleanup. -/
def runIteration (tools : CampaignTools W) (request : RunUntilFailureRequest W) (regex : Option (Payload → Bool))
    (iteration : Nat) (progress : CampaignProgress) : ManagerM W CampaignProgress := do
  let session ← SessionManager.createUntrackedSession
  Eff.ensure (attemptSession tools request regex session iteration progress) fun manager =>
    ((SessionManager.cleanupSession session).run manager).2

/-- The iterations that remain, up to the first match. -/
def runIterations (tools : CampaignTools W) (request : RunUntilFailureRequest W) (regex : Option (Payload → Bool)) :
    Nat → Nat → CampaignProgress → ManagerM W CampaignProgress
  | 0, _, progress => return progress
  | remaining + 1, iteration, progress => do
    let progress ← runIteration tools request regex iteration progress
    if progress.matched.isSome then return progress
    else runIterations tools request regex remaining (iteration + 1) progress

/-- The response for a campaign that has ended. -/
def response (request : RunUntilFailureRequest W) (progress : CampaignProgress) : ToolResult :=
  let completed := progress.iterations.length
  match progress.matched with
  | none =>
    let plural := if request.maxIterations = 1 then "" else "s"
    let info : RunUntilFailureInfo :=
      { message := s!"No failure matched after {request.maxIterations} iteration{plural}"
        matchedFailure := false, iterationsRequested := request.maxIterations, iterationsCompleted := completed
        status := progress.lastStatus, lastResult := progress.lastPayload, iterations := progress.iterations }
    .success info.toValue
  | some found =>
    let trigger := found.trigger.getD "None"
    let info : RunUntilFailureInfo :=
      { message := s!"Failure matched on iteration {found.iteration}: {trigger}"
        matchedFailure := true, iterationsRequested := request.maxIterations, iterationsCompleted := completed
        failureIteration := some found.iteration, trigger := found.trigger, status := found.status
        captureBundle := found.captureBundle, captureError := found.captureError
        lastResult := some found.runPayload, iterations := progress.iterations }
    .success info.toValue (found.captureError.toList.map fun error => s!"Capture bundle failed: {error}")

/-- Execute fresh-session attempts until a failure predicate matches or attempts run out. -/
def runUntilFailure (tools : CampaignTools W) (request : RunUntilFailureRequest W) : ManagerM W ToolResult := do
  let regex ← Eff.ofExcept (request.failure.resultTextRegex.mapM tools.compile)
  let progress ← runIterations tools request regex request.maxIterations 1 {}
  return request.response progress

end RunUntilFailureRequest

/-! ### What an attempt keeps

What every operation on the session of an attempt keeps, and every setup step, is kept by the attempt and by its
cleanup. -/

section Frames

open Eff

variable {W : Type} [Gdb W] {R : SessionManager W → SessionManager W → Prop} [Std.Refl R] [IsTrans (SessionManager W) R]
  {session : SessionRef} {campaign : CampaignTools W} {request : RunUntilFailureRequest W}
  {regex : Option (Payload → Bool)} {iteration : Nat} {progress : CampaignProgress}

theorem within_statusSnapshot (h : ∀ {α : Type} (m : SessionM W α), Within R (SessionManager.onSession session m)) :
    Within R (SessionManager.statusSnapshot session) := by
  refine (h _).bind fun result => ?_
  cases result with
  | success status => exact Within.pure _
  | error message => exact Within.raise _

theorem within_cleanupSession (h : ∀ {α : Type} (m : SessionM W α), Within R (SessionManager.onSession session m)) :
    Within R (SessionManager.cleanupSession session) := by
  refine (Within.gets _).bind fun rt => Within.ite ?_ (Within.pure _)
  exact Within.attempt ((h _).map _) fun _ => Within.pure _

theorem within_runProgram (h : ∀ {α : Type} (m : SessionM W α), Within R (SessionManager.onSession session m)) :
    Within R (RunUntilFailureRequest.runProgram campaign request regex session iteration progress) := by
  refine (h _).bind fun result => (within_statusSnapshot h).bind fun status => (Within.gets _).bind fun rt => ?_
  have hcapture : ∀ matched, Within R
      (RunUntilFailureRequest.captureIteration campaign request.capture session iteration matched) := by
    intro matched
    refine Within.ite ((h _).bind fun captured => ?_) (Within.pure _)
    cases captured <;> exact Within.pure _
  exact (hcapture _).bind fun captured => Within.pure _

theorem within_afterStart (h : ∀ {α : Type} (m : SessionM W α), Within R (SessionManager.onSession session m))
    (hsteps : ∀ template ∈ request.setupSteps, template.Keeps R session) :
    Within R (RunUntilFailureRequest.afterStart campaign request regex session iteration progress) := by
  refine Within.ite (within_runProgram h) ?_
  refine (within_executeBatchTemplates hsteps).bind fun setup => Within.ite ?_ (within_runProgram h)
  exact (within_statusSnapshot h).bind fun status => Within.pure _

end Frames
end GdbMcp
