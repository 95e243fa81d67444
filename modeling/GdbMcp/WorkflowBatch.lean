import GdbMcp.WorkflowTools

/-! Batches: the contract of their steps, the templates that validated steps become, and their execution against one
session. -/

namespace GdbMcp

inductive WorkflowStepIssue where
  | sessionIdNotAllowed | sessionQueryListNotAllowed | sessionManageNotAllowed | nestedWorkflowToolNotAllowed
  | unknownTool
  deriving DecidableEq

/-- What forbids a step, whatever its tool makes of the arguments. -/
def validateWorkflowStepContract (toolName : String) (arguments : Payload) : Option WorkflowStepIssue :=
  if "session_id" ∈ Dict.keys arguments then some .sessionIdNotAllowed
  else if toolName = "gdb_session_query" ∧ (arguments.lookup "action").bind asText = some "list" then
    some .sessionQueryListNotAllowed
  else if toolName = "gdb_session_manage" then some .sessionManageNotAllowed
  else if toolName = "gdb_workflow_batch" ∨ toolName = "gdb_run_until_failure" then some .nestedWorkflowToolNotAllowed
  else if toolName ∉ batchStepToolNames then some .unknownTool
  else none

def workflowStepValidationError (toolName : String) (issue : WorkflowStepIssue) (index : Nat) : ToolResult :=
  match issue with
  | .sessionIdNotAllowed =>
    .error (s!"Batch step {index} ({toolName}) must not include session_id. " ++
      "It is inherited from gdb_workflow_batch.") false [] "validation_error"
  | .sessionQueryListNotAllowed =>
    .error "gdb_session_query(action=list) is not valid inside gdb_workflow_batch" false [] "unsupported_combination"
  | .sessionManageNotAllowed =>
    .error "gdb_session_manage is not valid inside gdb_workflow_batch" false [] "unsupported_combination"
  | .nestedWorkflowToolNotAllowed | .unknownTool =>
    .error s!"Unsupported batch step tool: {toolName}" false [] "unknown_tool"

/-- Reusable validated batch step that can be bound to any session instance. -/
structure BatchStepTemplate (W : Type) where
  tool : String
  label : Option String
  execute : SessionRef → ManagerM W ToolResult

/-- Structured result for one step executed by a batch workflow. -/
structure BatchStepResult where
  index : Nat
  tool : String
  status : String
  result : Payload
  label : Option String
  action : Option String
  code : Option String
  stopEvent : Option StopEvent

/-- Structured result for one workflow batch executed in a session. -/
structure BatchExecutionInfo where
  steps : List BatchStepResult
  count : Nat
  completedSteps : Nat
  errorCount : Nat
  stoppedEarly : Bool
  failureStepIndex : Option Nat
  finalExecutionState : ExecutionState
  finalStopReason : Option String
  lastStopEvent : Option StopEvent

namespace Tools

variable {W : Type} [Gdb W] (tools : Tools W)

/-- The template of one step whose arguments are valid. -/
def stepTemplate (step : BatchStepArgs) (spec : ToolSpec W) (args : ToolArgs) : BatchStepTemplate W where
  tool := step.tool
  label := step.label
  execute := fun session => wrapActionResultFor args.action <$> spec.handler { session := some session } args

/-- Validate one step into its template. -/
def buildStepTemplate (sessionId : Int) (index : Nat) (step : BatchStepArgs) : Except ToolResult (BatchStepTemplate W) :=
  match validateWorkflowStepContract step.tool step.arguments with
  | some issue => .error (workflowStepValidationError step.tool issue index)
  | none =>
    match tools.sessionToolSpecs step.tool with
    | none => .error (.error s!"Unsupported batch step tool: {step.tool}" false [] "unknown_tool")
    | some spec =>
      match spec.model.validate (("session_id", .int sessionId) :: step.arguments) with
      | .error message =>
        .error (.error s!"Invalid batch step {index} ({step.tool}): {message}" false [] "validation_error")
      | .ok args => .ok (stepTemplate step spec args)

/-- Validate the steps from the given index on. -/
def buildStepTemplates (sessionId : Int) : Nat → List BatchStepArgs → Except ToolResult (List (BatchStepTemplate W))
  | _, [] => .ok []
  | index, step :: rest => do
    let template ← tools.buildStepTemplate sessionId index step
    let templates ← buildStepTemplates sessionId (index + 1) rest
    return template :: templates

/-- Validate batch-like step definitions into reusable execution templates. -/
def buildBatchStepTemplates (sessionId : Int) (steps : List BatchStepArgs) :
    Except ToolResult (List (BatchStepTemplate W)) := tools.buildStepTemplates sessionId 0 steps

end Tools

/-! ### Execution -/

/-- How far a batch has come. -/
structure BatchProgress where
  results : List BatchStepResult := []
  errorCount : Nat := 0
  stoppedEarly : Bool := false
  failureStepIndex : Option Nat := none

/-- The new stop event produced by the most recent step, if any. -/
def SessionRuntime.stepStopEvent (rt : SessionRuntime) (previousStopHistorySize : Nat) : Option StopEvent :=
  if previousStopHistorySize < rt.stopHistory.length then rt.stopHistory.getLast? else none

/-- The entry of one executed step. -/
def batchStepResult {W : Type} (index : Nat) (step : BatchStepTemplate W) (result : ToolResult)
    (stopEvent : Option StopEvent) : BatchStepResult :=
  let serialized := resultToMapping result
  let text := fun key => (serialized.lookup key).bind asText
  { index
    tool := step.tool
    status := (text "status").getD (if result.isSuccess then "success" else "error")
    result := serialized
    label := step.label
    action := text "action"
    code := text "code"
    stopEvent }

namespace SessionManager

variable {W : Type}

def runtimeOf (session : SessionRef) : ManagerM W SessionRuntime :=
  Eff.gets fun manager => (manager.sessions session).runtime

/-- Execute one step and note its outcome. -/
def executeStep (session : SessionRef) (captureStopEvents : Bool) (index : Nat) (step : BatchStepTemplate W) :
    ManagerM W (BatchStepResult × Bool) := do
  let before ← runtimeOf session
  let result ← step.execute session
  let after ← runtimeOf session
  let stopEvent := if captureStopEvents then after.stepStopEvent before.stopHistory.length else none
  return (batchStepResult index step result stopEvent, result.isSuccess)

/-- Execute the steps from the given index on, up to the first failure when the batch fails fast. -/
def executeSteps (session : SessionRef) (failFast captureStopEvents : Bool) :
    Nat → List (BatchStepTemplate W) → BatchProgress → ManagerM W BatchProgress
  | _, [], progress => return progress
  | index, step :: rest, progress => do
    let (entry, succeeded) ← executeStep session captureStopEvents index step
    let progress := { progress with results := progress.results ++ [entry] }
    if succeeded then executeSteps session failFast captureStopEvents (index + 1) rest progress
    else
      let progress := { progress with errorCount := progress.errorCount + 1 }
      if failFast then return { progress with stoppedEarly := true, failureStepIndex := some index }
      else executeSteps session failFast captureStopEvents (index + 1) rest progress

/-- Execute a validated step sequence within one session. -/
def executeBatchTemplates (session : SessionRef) (steps : List (BatchStepTemplate W))
    (failFast captureStopEvents : Bool) : ManagerM W BatchExecutionInfo := do
  let progress ← executeSteps session failFast captureStopEvents 0 steps {}
  let rt ← runtimeOf session
  return {
    steps := progress.results
    count := steps.length
    completedSteps := progress.results.length
    errorCount := progress.errorCount
    stoppedEarly := progress.stoppedEarly
    failureStepIndex := progress.failureStepIndex
    finalExecutionState := rt.executionState
    finalStopReason := rt.stopReason
    lastStopEvent := rt.lastStopEvent }

end SessionManager

/-! ### What a batch keeps

What the handlers of the session tools and the status keep is kept by every batch of their steps. -/

section Frames

open Eff

variable {W : Type} {R : SessionManager W → SessionManager W → Prop} [Std.Refl R] {session : SessionRef}

/-- The execution of a step follows the relation. -/
abbrev BatchStepTemplate.Keeps (R : SessionManager W → SessionManager W → Prop) (session : SessionRef)
    (template : BatchStepTemplate W) : Prop := Within R (template.execute session)

section Templates

variable [Gdb W] {tools : Tools W}

theorem within_handleSessionQuery (hstatus : Within R (SessionManager.onSession session (Session.getStatus (W := W))))
    (listSessions : ManagerM W ToolResult) (args : ToolArgs) :
    Within R (SessionManager.handleSessionQuery listSessions { session := some session } args) := by
  rw [SessionManager.handleSessionQuery]
  refine Within.ite (Within.pure _) (Within.ite ?_ (Within.pure _))
  exact hstatus.map _

theorem keeps_of_buildStepTemplate (hstatus : Within R (SessionManager.onSession session (Session.getStatus (W := W))))
    (hhandlers : ∀ name args, Within R (SessionManager.onSession session (tools.sessionHandler name args)))
    {sessionId : Int} {index : Nat} {step : BatchStepArgs} {template : BatchStepTemplate W}
    (h : tools.buildStepTemplate sessionId index step = .ok template) : template.Keeps R session := by
  unfold Tools.buildStepTemplate at h
  split at h
  · exact nomatch h
  · split at h
    · exact nomatch h
    · rename_i spec hspec
      split at h
      · exact nomatch h
      · rename_i args hargs
        obtain rfl := Except.ok.inj h
        refine Within.map _ ?_
        unfold Tools.sessionToolSpecs at hspec
        split at hspec
        · obtain rfl := Option.some.inj hspec
          exact within_handleSessionQuery hstatus _ args
        · obtain ⟨-, hspec⟩ := Option.ite_none_right_eq_some.mp hspec
          obtain rfl := Option.some.inj hspec
          exact hhandlers _ args

theorem keeps_of_buildStepTemplates (hstatus : Within R (SessionManager.onSession session (Session.getStatus (W := W))))
    (hhandlers : ∀ name args, Within R (SessionManager.onSession session (tools.sessionHandler name args)))
    {sessionId : Int} {index : Nat} {steps : List BatchStepArgs} {templates : List (BatchStepTemplate W)}
    (h : tools.buildStepTemplates sessionId index steps = .ok templates) :
    ∀ template ∈ templates, template.Keeps R session := by
  induction steps generalizing index templates with
  | nil =>
      obtain rfl := Except.ok.inj h
      simp
  | cons step rest ih =>
      rw [Tools.buildStepTemplates] at h
      cases htemplate : tools.buildStepTemplate sessionId index step with
      | error e =>
          rw [htemplate] at h
          exact nomatch h
      | ok template =>
          cases hrest : tools.buildStepTemplates sessionId (index + 1) rest with
          | error e =>
              rw [htemplate, hrest] at h
              exact nomatch h
          | ok others =>
              rw [htemplate, hrest] at h
              obtain rfl := Except.ok.inj h
              exact List.forall_mem_cons.mpr ⟨keeps_of_buildStepTemplate hstatus hhandlers htemplate, ih hrest⟩

end Templates

variable [IsTrans (SessionManager W) R] {failFast captureStopEvents : Bool} {steps : List (BatchStepTemplate W)}

theorem within_executeSteps (h : ∀ template ∈ steps, template.Keeps R session) (index : Nat) (progress : BatchProgress) :
    Within R (SessionManager.executeSteps session failFast captureStopEvents index steps progress) := by
  induction steps generalizing index progress with
  | nil => exact Within.pure _
  | cons step rest ih =>
      have hrest := ih fun template hmem => h template (List.mem_cons_of_mem _ hmem)
      have hstep : Within R (SessionManager.executeStep session captureStopEvents index step) := by
        refine (Within.gets _).bind fun before => (h step List.mem_cons_self).bind fun result => ?_
        exact (Within.gets _).bind fun after => Within.pure _
      exact hstep.bind fun outcome => Within.ite (hrest _ _) (Within.ite (Within.pure _) (hrest _ _))

theorem within_executeBatchTemplates (h : ∀ template ∈ steps, template.Keeps R session) :
    Within R (SessionManager.executeBatchTemplates session steps failFast captureStopEvents) :=
  (within_executeSteps h 0 {}).bind fun _ => (Within.gets _).bind fun _ => Within.pure _

end Frames
end GdbMcp
