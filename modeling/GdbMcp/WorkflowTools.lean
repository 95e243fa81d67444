import GdbMcp.RegistryState
import GdbMcp.WorkflowResult
import Mathlib.Logic.Function.Basic

/-! The session objects behind the registry, and the tools that may be a step of a batch. A session object is known
by its address. What a tool does to a session is a parameter, as is the validation of its arguments. -/

namespace GdbMcp

/-- The registry and the session objects. The field `started` is history: the parameters of every start so far. -/
structure SessionManager (W : Type) where
  registry : SessionRegistry
  sessions : SessionRef → Session W
  nextSession : SessionRef := 0
  started : List (SessionRef × StartArgs) := []

abbrev ManagerM (W : Type) := Eff (SessionManager W) PyError

/-- Validated arguments of a tool: the session and the action they name, and the class of their payload. -/
structure ToolArgs where
  sessionId : Int := 0
  action : Option String := none
  typeName : String := ""
  fields : Payload := []

/-- The request model of a tool. The session id and the action of valid arguments are those that have been given. -/
structure ToolModel where
  validate : Payload → Except String ToolArgs
  sessionId_eq : ∀ {id : Int} {arguments : Payload} {args : ToolArgs},
    validate (("session_id", .int id) :: arguments) = .ok args → args.sessionId = id
  action_eq : ∀ {arguments : Payload} {args : ToolArgs}, validate arguments = .ok args →
    args.action = (arguments.lookup "action").bind asText

inductive ToolScope where
  | session | registry
  deriving DecidableEq

/-- Invocation context handed to a tool handler. -/
structure ToolContext where
  registry : Bool := false
  session : Option SessionRef := none

/-- Declarative definition for one tool. -/
structure ToolSpec (W : Type) where
  model : ToolModel
  handler : ToolContext → ToolArgs → ManagerM W ToolResult
  scope : ToolScope

/-- One step of a batch request; a shorthand is a step with nothing but its tool. -/
structure BatchStepArgs where
  tool : String
  arguments : Payload := []
  label : Option String := none

/-- Arguments for executing a structured batch against one live session. -/
structure BatchArgs where
  sessionId : Int
  steps : List BatchStepArgs
  failFast : Bool := true
  captureStopEvents : Bool := true

/-- What the tools do: their request models, and their handlers by name. A batch reads its arguments as its own
type. -/
structure Tools (W : Type) where
  model : String → ToolModel
  batchArgs : ToolArgs → BatchArgs
  sessionHandler : String → ToolArgs → SessionM W ToolResult
  registryHandler : String → ToolArgs → ManagerM W ToolResult

namespace SessionRegistry

/-- Resolve a session for one call, rejecting sessions that are closing. -/
def resolveSession (r : SessionRegistry) (id : Int) : OperationResult SessionRef :=
  if r.isClosing id then closingError id
  else
    match r.getSession id with
    | some session => .success session
    | none => r.unknownSessionError id

end SessionRegistry

/-- The entry of a status for one inferior. -/
def InferiorStateRecord.toValue (record : InferiorStateRecord) : Value :=
  .dict [("inferior_id", .int record.inferiorId), ("is_current", .bool record.isCurrent),
    ("execution_state", .str record.state.executionState.name),
    ("stop_reason", .ofOption .str record.state.stopReason), ("exit_code", .ofOption .int record.state.exitCode)]

def FollowForkMode.name : FollowForkMode → String
  | .parent => "parent"
  | .child => "child"

def SessionStatusSnapshot.toValue (status : SessionStatusSnapshot) : Value :=
  .dict [("is_running", .bool status.isRunning), ("target_loaded", .bool status.targetLoaded),
    ("has_controller", .bool status.hasController), ("execution_state", .str status.executionState.name),
    ("stop_reason", .ofOption .str status.stopReason), ("exit_code", .ofOption .int status.exitCode),
    ("current_inferior_id", .ofOption .int status.currentInferiorId),
    ("inferior_count", .ofOption .int status.inferiorCount),
    ("inferior_states", if status.inferiorStates.isEmpty then .none
      else .list (status.inferiorStates.map InferiorStateRecord.toValue)),
    ("follow_fork_mode", .ofOption (fun mode => .str mode.name) status.followForkMode),
    ("detach_on_fork", .ofOption .bool status.detachOnFork)]

namespace SessionManager

variable {W : Type}

/-- Act on one session object. -/
def onSession {α : Type} (session : SessionRef) (m : SessionM W α) : ManagerM W α :=
  Eff.zoom (·.sessions session) (fun s manager => { manager with sessions := Function.update manager.sessions session s }) m

def sessionToolSpec (model : ToolModel) (handler : ToolArgs → SessionM W ToolResult) : ToolSpec W where
  model := model
  handler := fun context args =>
    match context.session with
    | some session => onSession session (handler args)
    | none => Eff.raise (.other "no session")
  scope := .session

def registryToolSpec (model : ToolModel) (handler : ToolArgs → ManagerM W ToolResult) : ToolSpec W where
  model := model
  handler := fun _ args => handler args
  scope := .registry

def contextToolSpec (model : ToolModel) (handler : ToolContext → ToolArgs → ManagerM W ToolResult) : ToolSpec W where
  model := model
  handler := handler
  scope := .registry

/-- The registry as a tool handler reads it. -/
def resolveSession (id : Int) : ManagerM W (OperationResult SessionRef) := Eff.gets (·.registry.resolveSession id)

def unsupportedAction (scope typeName : String) : ToolResult :=
  .error s!"Unsupported {scope}: {typeName}" false [] "validation_error"

variable [Gdb W]

def sessionStatus (session : SessionRef) : ManagerM W ToolResult :=
  OperationResult.serialize SessionStatusSnapshot.toValue <$> onSession session Session.getStatus

def resolvedStatus (id : Int) : ManagerM W ToolResult := do
  match ← resolveSession id with
  | .success session _ => sessionStatus session
  | .error message fatal details code => return .error message fatal details code

/-- Route one session query action. A direct call resolves its session for the status; a batch supplies it. -/
def handleSessionQuery (listSessions : ManagerM W ToolResult) (context : ToolContext) (args : ToolArgs) :
    ManagerM W ToolResult :=
  if args.action = some "list" then
    if context.registry then listSessions
    else pure (.error "gdb_session_query(action=list) is not valid inside a workflow batch" false []
      "unsupported_combination")
  else if args.action = some "status" then
    match context.session with
    | some session => sessionStatus session
    | none =>
      if context.registry then resolvedStatus args.sessionId
      else pure (.error "No session registry available")
  else pure (unsupportedAction "session query action" args.typeName)

end SessionManager

/-! ### The tool registry -/

/-- The tools whose handlers get a session. -/
def sessionToolNames : List String :=
  ["gdb_inferior_query", "gdb_inferior_manage", "gdb_execution_manage", "gdb_breakpoint_query",
    "gdb_breakpoint_manage", "gdb_context_query", "gdb_context_manage", "gdb_inspect_query", "gdb_capture_bundle",
    "gdb_execute_command", "gdb_attach_process", "gdb_call_function"]

/-- The tools that may be a step of a batch. -/
def batchStepToolNames : List String := "gdb_session_query" :: sessionToolNames

namespace Tools

variable {W : Type} [Gdb W] (tools : Tools W)

/-- The specs of the tools that may be a step of a batch. -/
def sessionToolSpecs (name : String) : Option (ToolSpec W) :=
  if name = "gdb_session_query" then
    some (SessionManager.contextToolSpec (tools.model name)
      (SessionManager.handleSessionQuery (tools.registryHandler name {})))
  else if name ∈ sessionToolNames then
    some (SessionManager.sessionToolSpec (tools.model name) (tools.sessionHandler name))
  else none

end Tools
end GdbMcp
