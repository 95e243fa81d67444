import GdbMcp.BaseDict
import GdbMcp.SessionLifecycle

/-! Tool results on their way to the client: the external payload of a result, the action envelope around it, and
what the dispatcher adds to the failure of a session. -/

namespace GdbMcp

/-- A `StructuredPayload`. -/
abbrev Payload := List (String × Value)

abbrev ToolResult := OperationResult Value

/-- The result with its value serialized. -/
def OperationResult.serialize {α : Type} (toValue : α → Value) : OperationResult α → ToolResult
  | .success value warnings => .success (toValue value) warnings
  | .error message fatal details code => .error message fatal details code

def reservedErrorKeys : List String := ["status", "code", "message", "fatal"]

def errorTopLevelDetailKeys : List String := ["action", "tool"]

/-- The details of an error that stay under the key `details`. -/
def nestedDetails (details : Payload) : Payload :=
  details.filter fun (key, _) => !(errorTopLevelDetailKeys ++ reservedErrorKeys).elem key

/-- The details of an error that are lifted to its top level. -/
def raisedDetails (details : Payload) : Payload := details.filter fun (key, _) => errorTopLevelDetailKeys.elem key

/-- `result_to_mapping`: the external JSON payload of a result. -/
def resultToMapping : ToolResult → Payload
  | .success value warnings =>
    let payload := match value with
      | .dict fields => fields
      | value => [("value", value)]
    let payload := Dict.setDefault payload "status" (.str "success")
    if warnings.isEmpty then payload else Dict.setDefault payload "warnings" (.list (warnings.map .str))
  | .error message fatal details code =>
    [("status", .str "error"), ("code", .str code), ("message", .str message)] ++
      (if fatal then [("fatal", .bool true)] else []) ++ raisedDetails details ++
        if (nestedDetails details).isEmpty then [] else [("details", .dict (nestedDetails details))]

/-- Wrap a tool result in the action envelope. -/
def wrapActionResult (action : String) : ToolResult → ToolResult
  | .success value warnings => .success (.dict [("action", .str action), ("result", value)]) warnings
  | .error message fatal details code =>
    .error message fatal (Dict.setDefault details "action" (.str action)) code

/-- Wrap a tool result when the request has an action. -/
def wrapActionResultFor (action : Option String) (result : ToolResult) : ToolResult :=
  match action with
  | some action => wrapActionResult action result
  | none => result

/-- Conditions that GDB reports as free-form text, and the codes a caller can branch on. -/
def gdbFailureCodes : List (String × String) :=
  [("no registers", "no_registers"),
    ("the program is not being run", "inferior_not_running"),
    ("you can" ++ String.singleton PyStr.apostrophe ++ "t do that without a process to debug", "inferior_not_running"),
    ("while the selected thread is running", "inferior_running"),
    ("no stack", "no_stack_frame"),
    ("no frame selected", "no_stack_frame"),
    ("cannot access memory at address", "memory_unavailable"),
    ("no symbol table is loaded", "no_symbols_loaded"),
    ("no symbol", "symbol_unavailable"),
    ("optimized out", "value_unavailable"),
    ("timeout", "command_timeout")]

/-- A branchable code for one free-form GDB failure message. -/
def failureCode (message : String) : Option String :=
  gdbFailureCodes.findSome? fun (fragment, code) => if PyStr.contains (PyStr.lower message) fragment then some code else none

/-- The JSON-safe execution state of one live session. -/
def sessionStateDetails (rt : SessionRuntime) : Payload :=
  [("execution_state", .str rt.executionState.name)] ++
    rt.stopReason.toList.map (fun reason => ("stop_reason", .str reason)) ++
    rt.exitCode.toList.map fun exitCode => ("exit_code", .int exitCode)

/-- The fields a failure gets where it does not have them. -/
def failureFields (rt : SessionRuntime) (sessionId : Int) : Payload :=
  ("session_id", .int sessionId) :: sessionStateDetails rt

/-- Attach session state and a specific code to one session-scoped failure. -/
def annotateSessionFailure (rt : SessionRuntime) (sessionId : Int) : ToolResult → ToolResult
  | .success value warnings => .success value warnings
  | .error message fatal details code =>
    .error message fatal
      ((failureFields rt sessionId).foldl (fun details field => Dict.setDefault details field.1 field.2) details)
      (if code = "error" then (failureCode message).getD code else code)

end GdbMcp
