import GdbMcp.WorkflowBatch

/-! The dispatch of a tool call, and what a batch step has in common with the direct call of its tool: the same
handler acts on the same session, but only the direct call annotates a failure. -/

namespace GdbMcp

def StopEvent.toValue (event : StopEvent) : Value :=
  .dict [("execution_state", .str event.executionState.name), ("reason", .ofOption .str event.reason),
    ("command", .ofOption .str event.command), ("inferior_id", .ofOption .int event.inferiorId),
    ("thread_id", .ofOption .int event.threadId), ("frame", event.frame.getD .none),
    ("signal_name", .ofOption .str event.signalName), ("signal_meaning", .ofOption .str event.signalMeaning),
    ("breakpoint_number", .ofOption .str event.breakpointNumber), ("exit_code", .ofOption .int event.exitCode),
    ("timestamp", .ofOption (fun time => .int time) event.timestamp), ("details", event.details)]

def BatchStepResult.toValue (step : BatchStepResult) : Value :=
  .dict [("index", .int step.index), ("tool", .str step.tool), ("status", .str step.status),
    ("result", .dict step.result), ("label", .ofOption .str step.label), ("action", .ofOption .str step.action),
    ("code", .ofOption .str step.code), ("stop_event", .ofOption StopEvent.toValue step.stopEvent)]

def BatchExecutionInfo.toValue (info : BatchExecutionInfo) : Value :=
  .dict [("steps", .list (info.steps.map BatchStepResult.toValue)), ("count", .int info.count),
    ("completed_steps", .int info.completedSteps), ("error_count", .int info.errorCount),
    ("stopped_early", .bool info.stoppedEarly),
    ("failure_step_index", .ofOption (fun index => .int index) info.failureStepIndex),
    ("final_execution_state", .str info.finalExecutionState.name),
    ("final_stop_reason", .ofOption .str info.finalStopReason),
    ("last_stop_event", .ofOption StopEvent.toValue info.lastStopEvent)]

namespace Tools

variable {W : Type} [Gdb W] (tools : Tools W)

/-- Validate one batch request and execute it. -/
def handleBatch (session : SessionRef) (args : BatchArgs) : ManagerM W ToolResult :=
  match tools.buildBatchStepTemplates args.sessionId args.steps with
  | .error error => pure error
  | .ok templates => do
    let info ← SessionManager.executeBatchTemplates session templates args.failFast args.captureStopEvents
    return .success info.toValue

def batchToolSpec : ToolSpec W where
  model := tools.model "gdb_workflow_batch"
  handler := fun context args =>
    match context.session with
    | some session => tools.handleBatch session (tools.batchArgs args)
    | none => Eff.raise (.other "no session")
  scope := .session

/-- The specs of all tools. -/
def toolSpecs (name : String) : Option (ToolSpec W) :=
  if name ∈ ["gdb_session_start", "gdb_session_connect", "gdb_session_manage", "gdb_run_until_failure"] then
    some (SessionManager.registryToolSpec (tools.model name) (tools.registryHandler name))
  else if name = "gdb_workflow_batch" then some tools.batchToolSpec
  else tools.sessionToolSpecs name

/-- The call of a tool on a session that has been resolved. -/
def callInSession (spec : ToolSpec W) (args : ToolArgs) (session : SessionRef) : ManagerM W ToolResult := do
  let result ← spec.handler { registry := true, session := some session } args
  let rt ← SessionManager.runtimeOf session
  return wrapActionResultFor args.action (annotateSessionFailure rt args.sessionId result)

/-- The call of a tool with valid arguments. -/
def callTool (spec : ToolSpec W) (args : ToolArgs) : ManagerM W ToolResult :=
  match spec.scope with
  | .session => do
    match ← SessionManager.resolveSession args.sessionId with
    | .error message fatal details code => return wrapActionResultFor args.action (.error message fatal details code)
    | .success session _ => callInSession spec args session
  | .registry => wrapActionResultFor args.action <$> spec.handler { registry := true } args

/-- Validate one request against its tool spec and invoke the handler. -/
def dispatchTool (name : String) (arguments : Payload) : ManagerM W ToolResult :=
  match tools.toolSpecs name with
  | none => pure (.error s!"Unknown tool: {name}" false [] "unknown_tool")
  | some spec =>
    match spec.model.validate arguments with
    | .error message => Eff.raise (.valueError message)
    | .ok args => callTool spec args

end Tools
end GdbMcp
