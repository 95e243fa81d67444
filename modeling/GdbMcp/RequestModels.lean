import GdbMcp.RequestTypes

/-! The request models of the tools. -/

namespace GdbMcp

namespace RequestModels

open RequestType

def required (name : String) (type : RequestType) : String × Bool × RequestType := (name, true, type)

def optional (name : String) (type : RequestType) : String × Bool × RequestType := (name, false, type)

def literalField (name value : String) : String × Bool × RequestType := required name (.literal [value])

def sessionId : String × Bool × RequestType := required "session_id" .integer

/-- An argument vector, or one text that is split. -/
def argv : RequestType := .nullable (.union [.list .text, .text])

/-! ### Selectors -/

def captureMemoryRangeArgs : RequestType := .model "CaptureMemoryRangeArgs"
  [required "address" .text, required "count" .integer, optional "offset" .integer, optional "name" (.nullable .text)]

def emptyQuery : RequestType := .model "EmptyQuery" []

def breakpointSelectorArgs : RequestType := .model "BreakpointSelectorArgs" [required "number" .integer]

def threadSelectorArgs : RequestType := .model "ThreadSelectorArgs" [required "thread_id" .integer]

def frameSelectorArgs : RequestType := .model "FrameSelectorArgs" [required "frame" .integer]

def threadFrameContextArgs : RequestType := .model "ThreadFrameContextArgs"
  [optional "thread_id" (.nullable .integer), optional "frame" (.nullable .integer)]

/-! ### Dedicated tools -/

def startSessionArgs : RequestType := .model "StartSessionArgs"
  [optional "program" (.nullable .text), optional "args" argv, optional "init_commands" (.nullable (.list .text)),
    optional "env" (.nullable (.mapping (some .text))), optional "gdb_path" (.nullable .text),
    optional "gdb_args" (.nullable (.list .text)), optional "working_dir" (.nullable .text),
    optional "rr_replay" (.nullable .text), optional "core" (.nullable .text)]

def connectSessionArgs : RequestType := .model "ConnectSessionArgs"
  [required "endpoint" .text, optional "init_commands" (.nullable (.list .text))]

def executeCommandArgs : RequestType := .model "ExecuteCommandArgs"
  [sessionId, required "command" .text, optional "timeout_sec" .integer]

def attachProcessArgs : RequestType := .model "AttachProcessArgs"
  [sessionId, required "pid" .integer, optional "timeout_sec" .integer]

def callFunctionArgs : RequestType := .model "CallFunctionArgs"
  [sessionId, required "function_call" .text, optional "timeout_sec" .integer]

/-! ### Sessions and inferiors -/

def sessionQueryArgs : RequestType := .tagged "action"
  [.model "SessionQueryListAction" [literalField "action" "list", optional "query" emptyQuery],
    .model "SessionQueryStatusAction" [sessionId, literalField "action" "status", optional "query" emptyQuery]]

def sessionManageArgs : RequestType := .tagged "action"
  [.model "SessionManageStopAction" [sessionId, literalField "action" "stop", optional "session" emptyQuery]]

def inferiorQueryArgs : RequestType := .tagged "action"
  [.model "InferiorQueryListAction" [sessionId, literalField "action" "list", optional "query" emptyQuery],
    .model "InferiorQueryCurrentAction" [sessionId, literalField "action" "current", optional "query" emptyQuery]]

def inferiorCreatePayload : RequestType := .model "InferiorCreatePayload"
  [optional "executable" (.nullable .text), optional "make_current" .boolean]

def inferiorIdPayload : RequestType := .model "InferiorIdPayload" [required "inferior_id" .integer]

def inferiorFollowForkPayload : RequestType := .model "InferiorFollowForkPayload"
  [required "mode" (.literal ["parent", "child"])]

def inferiorDetachOnForkPayload : RequestType := .model "InferiorDetachOnForkPayload" [required "enabled" .boolean]

def inferiorManageArgs : RequestType := .tagged "action"
  [.model "InferiorManageCreateAction"
      [sessionId, literalField "action" "create", optional "inferior" inferiorCreatePayload],
    .model "InferiorManageRemoveAction" [sessionId, literalField "action" "remove", required "inferior" inferiorIdPayload],
    .model "InferiorManageSelectAction" [sessionId, literalField "action" "select", required "inferior" inferiorIdPayload],
    .model "InferiorManageFollowForkAction"
      [sessionId, literalField "action" "set_follow_fork_mode", required "inferior" inferiorFollowForkPayload],
    .model "InferiorManageDetachOnForkAction"
      [sessionId, literalField "action" "set_detach_on_fork", required "inferior" inferiorDetachOnForkPayload]]

/-! ### Execution -/

def executionWaitPolicy : List (String × Bool × RequestType) :=
  [optional "wait_until" (.literal ["acknowledged", "stop"]), optional "timeout_sec" (.nullable .integer)]

def executionRunPayload : RequestType := .model "ExecutionRunPayload" (executionWaitPolicy ++ [optional "args" argv])

def executionControlPayload : RequestType :=
  .model "ExecutionControlPayload" (executionWaitPolicy ++ [optional "reverse" .boolean])

def executionWaitForStopPayload : RequestType := .model "ExecutionWaitForStopPayload"
  [optional "timeout_sec" .integer, optional "stop_reasons" (.list .text)]

def executionAction (name action : String) (execution : RequestType) : RequestType :=
  .model name [sessionId, literalField "action" action, optional "execution" execution]

def executionManageArgs : RequestType := .tagged "action"
  [executionAction "ExecutionRunAction" "run" executionRunPayload,
    executionAction "ExecutionContinueAction" "continue" executionControlPayload,
    executionAction "ExecutionInterruptAction" "interrupt" emptyQuery,
    executionAction "ExecutionStepAction" "step" executionControlPayload,
    executionAction "ExecutionNextAction" "next" executionControlPayload,
    executionAction "ExecutionFinishAction" "finish" executionControlPayload,
    executionAction "ExecutionWaitForStopAction" "wait_for_stop" executionWaitForStopPayload]

/-! ### Breakpoints and locations -/

def breakpointCreateArgs : RequestType := .tagged "kind"
  [.model "BreakpointCodeCreateArgs"
      [literalField "kind" "code", required "location" .text, optional "condition" (.nullable .text),
        optional "temporary" .boolean],
    .model "BreakpointWatchCreateArgs"
      [literalField "kind" "watch", required "expression" .text, optional "access" (.literal ["write", "read", "access"])],
    .model "BreakpointCatchCreateArgs"
      [literalField "kind" "catch",
        required "event" (.literal ["throw", "rethrow", "catch", "exec", "fork", "vfork", "load", "unload", "signal",
          "syscall"]),
        optional "argument" (.nullable .text), optional "temporary" .boolean]]

def breakpointUpdateChangesArgs : RequestType := .model "BreakpointUpdateChangesArgs"
  [optional "condition" (.nullable .text), optional "clear_condition" .boolean]

def breakpointListQueryArgs : RequestType := .model "BreakpointListQueryArgs"
  [optional "kinds" (.list (.literal ["code", "watch", "catch"])), optional "enabled" (.nullable .boolean)]

def breakpointGetQueryArgs : RequestType := .model "BreakpointGetQueryArgs" [required "number" .integer]

def breakpointManageArgs : RequestType := .tagged "action"
  [.model "BreakpointManageCreateAction"
      [sessionId, literalField "action" "create", required "breakpoint" breakpointCreateArgs],
    .model "BreakpointManageUpdateAction"
      [sessionId, literalField "action" "update", required "breakpoint" breakpointSelectorArgs,
        required "changes" breakpointUpdateChangesArgs],
    .model "BreakpointManageNumberAction"
      [sessionId, required "action" (.literal ["delete", "enable", "disable"]),
        required "breakpoint" breakpointSelectorArgs]]

def breakpointQueryArgs : RequestType := .tagged "action"
  [.model "BreakpointQueryListAction"
      [sessionId, literalField "action" "list", optional "query" breakpointListQueryArgs],
    .model "BreakpointQueryGetAction" [sessionId, literalField "action" "get", required "query" breakpointGetQueryArgs]]

def locationSelectorArgs : RequestType := .tagged "kind"
  [.model "LocationCurrentArgs" [literalField "kind" "current"],
    .model "LocationFunctionArgs" [literalField "kind" "function", required "function" .text],
    .model "LocationAddressArgs" [literalField "kind" "address", required "address" .text],
    .model "LocationAddressRangeArgs"
      [literalField "kind" "address_range", required "start_address" .text, required "end_address" .text],
    .model "LocationFileLineArgs"
      [literalField "kind" "file_line", required "file" .text, required "line" .integer],
    .model "LocationFileRangeArgs"
      [literalField "kind" "file_range", required "file" .text, required "start_line" .integer,
        required "end_line" .integer]]

/-! ### Context -/

def contextBacktraceQueryArgs : RequestType := .model "ContextBacktraceQueryArgs"
  [optional "thread_id" (.nullable .integer), optional "max_frames" .integer]

def contextFrameQueryArgs : RequestType := .model "ContextFrameQueryArgs"
  [optional "thread_id" (.nullable .integer), optional "frame" (.nullable .integer)]

def contextQueryArgs : RequestType := .tagged "action"
  [.model "ContextQueryThreadsAction" [sessionId, literalField "action" "threads", optional "query" emptyQuery],
    .model "ContextQueryBacktraceAction"
      [sessionId, literalField "action" "backtrace", optional "query" contextBacktraceQueryArgs],
    .model "ContextQueryFrameAction"
      [sessionId, literalField "action" "frame", optional "query" contextFrameQueryArgs]]

def contextManageArgs : RequestType := .tagged "action"
  [.model "ContextManageSelectThreadAction"
      [sessionId, literalField "action" "select_thread", required "context" threadSelectorArgs],
    .model "ContextManageSelectFrameAction"
      [sessionId, literalField "action" "select_frame", required "context" frameSelectorArgs]]

/-! ### Inspection -/

def contextOverride : String × Bool × RequestType := optional "context" (.nullable threadFrameContextArgs)

def inspectEvaluateQueryArgs : RequestType := .model "InspectEvaluateQueryArgs"
  [contextOverride, required "expression" .text]

def inspectVariablesQueryArgs : RequestType := .model "InspectVariablesQueryArgs" [contextOverride]

def inspectRegistersQueryArgs : RequestType := .model "InspectRegistersQueryArgs"
  [contextOverride, optional "register_numbers" (.list (.union [.integer, .text])),
    optional "register_names" (.list .text), optional "include_vector_registers" .boolean,
    optional "max_registers" (.nullable .integer), optional "value_format" (.literal ["hex", "natural"])]

def inspectMemoryQueryArgs : RequestType := .model "InspectMemoryQueryArgs"
  [required "address" .text, required "count" .integer, optional "offset" .integer]

def inspectDisassemblyQueryArgs : RequestType := .model "InspectDisassemblyQueryArgs"
  [contextOverride, required "location" locationSelectorArgs, optional "instruction_count" .integer,
    optional "mode" (.literal ["assembly", "mixed"])]

def inspectSourceQueryArgs : RequestType := .model "InspectSourceQueryArgs"
  [contextOverride, required "location" locationSelectorArgs, optional "context_before" .integer,
    optional "context_after" .integer]

def inspectQueryArgs : RequestType := .tagged "action"
  [.model "InspectEvaluateAction"
      [sessionId, literalField "action" "evaluate", required "query" inspectEvaluateQueryArgs],
    .model "InspectVariablesAction"
      [sessionId, literalField "action" "variables", optional "query" inspectVariablesQueryArgs],
    .model "InspectRegistersAction"
      [sessionId, literalField "action" "registers", optional "query" inspectRegistersQueryArgs],
    .model "InspectMemoryAction" [sessionId, literalField "action" "memory", required "query" inspectMemoryQueryArgs],
    .model "InspectDisassemblyAction"
      [sessionId, literalField "action" "disassembly", required "query" inspectDisassemblyQueryArgs],
    .model "InspectSourceAction" [sessionId, literalField "action" "source", required "query" inspectSourceQueryArgs]]

/-! ### Workflows -/

def batchStepToolName : RequestType := .literal
  ["gdb_session_query", "gdb_inferior_query", "gdb_inferior_manage", "gdb_execution_manage", "gdb_breakpoint_query",
    "gdb_breakpoint_manage", "gdb_context_query", "gdb_context_manage", "gdb_inspect_query", "gdb_capture_bundle",
    "gdb_execute_command", "gdb_attach_process", "gdb_call_function"]

def batchStepArgs : RequestType := .model "BatchStepArgs"
  [required "tool" batchStepToolName, optional "arguments" (.mapping none), optional "label" (.nullable .text)]

def batchStepInput : RequestType := .union [batchStepArgs, batchStepToolName]

def batchArgs : RequestType := .model "BatchArgs"
  [sessionId, required "steps" (.list batchStepInput), optional "fail_fast" .boolean,
    optional "capture_stop_events" .boolean]

def captureOptionsArgs : List (String × Bool × RequestType) :=
  [optional "output_dir" (.nullable .text), optional "bundle_name" (.nullable .text),
    optional "expressions" (.list .text), optional "memory_ranges" (.list (.union [captureMemoryRangeArgs, .text])),
    optional "max_frames" .integer, optional "include_threads" .boolean, optional "include_backtraces" .boolean,
    optional "include_frame" .boolean, optional "include_variables" .boolean, optional "include_registers" .boolean,
    optional "include_transcript" .boolean, optional "include_stop_history" .boolean]

def captureBundleArgs : RequestType := .model "CaptureBundleArgs" (captureOptionsArgs ++ [sessionId])

def runUntilFailureFailureArgs : RequestType := .model "RunUntilFailureFailureArgs"
  [optional "failure_on_error" .boolean, optional "failure_on_timeout" .boolean, optional "stop_reasons" (.list .text),
    optional "execution_states" (.list .text), optional "exit_codes" (.list .integer),
    optional "result_text_regex" (.nullable .text)]

def runUntilFailureCaptureArgs : RequestType := .model "RunUntilFailureCaptureArgs"
  (captureOptionsArgs ++ [optional "enabled" .boolean, optional "bundle_name_prefix" (.nullable .text)])

def runUntilFailureArgs : RequestType := .model "RunUntilFailureArgs"
  [optional "startup" startSessionArgs, optional "setup_steps" (.list batchStepInput), optional "run_args" argv,
    optional "run_timeout_sec" .integer, optional "max_iterations" .integer,
    optional "failure" runUntilFailureFailureArgs, optional "capture" runUntilFailureCaptureArgs]

end RequestModels

open RequestModels in
/-- The request models of the tools, by the name of the tool. -/
def toolModels : List (String × RequestType) :=
  [("gdb_session_start", startSessionArgs), ("gdb_session_connect", connectSessionArgs),
    ("gdb_session_query", sessionQueryArgs), ("gdb_session_manage", sessionManageArgs),
    ("gdb_inferior_query", inferiorQueryArgs), ("gdb_inferior_manage", inferiorManageArgs),
    ("gdb_execution_manage", executionManageArgs), ("gdb_breakpoint_query", breakpointQueryArgs),
    ("gdb_breakpoint_manage", breakpointManageArgs), ("gdb_context_query", contextQueryArgs),
    ("gdb_context_manage", contextManageArgs), ("gdb_inspect_query", inspectQueryArgs),
    ("gdb_workflow_batch", batchArgs), ("gdb_capture_bundle", captureBundleArgs),
    ("gdb_run_until_failure", runUntilFailureArgs), ("gdb_execute_command", executeCommandArgs),
    ("gdb_attach_process", attachProcessArgs), ("gdb_call_function", callFunctionArgs)]

end GdbMcp
