import GdbMcp.BreakpointManage
import GdbMcp.ClientAssign
import GdbMcp.ClientSteps
import GdbMcp.WorkflowTools

/-! From the flags of a command line to the payload of a tool. Every tool has one set of flags for all its actions; a
validator refuses the flags that an action does not take, and a builder writes the others into the payload. The inputs
hold what the argument parser leaves of the flags: a flag that is not given is `None`, or an empty list. -/

namespace GdbMcp

/-! ### Refusals -/

/-- The flags that are given, of some that should not be. -/
def invalidFlags (checks : List (Bool × String)) : List String := (checks.filter (·.1)).map (·.2)

/-- Render one namespace field name as a CLI flag. -/
def formatCliFlag (name : String) : String :=
  "--" ++ String.ofList (name.toList.map fun c => if c = '_' then '-' else c)

def joinFlags (flags : List String) : String := String.intercalate ", " (flags.mergeSort fun s t => decide (s ≤ t))

def raiseInvalidFlags (context : String) (invalid : List String) : Except CliUsageError Unit :=
  if invalid = [] then .ok () else .error ⟨s!"{joinFlags invalid} not valid with {context}"⟩

def raiseInvalidActionFlags (action : String) (invalid : List String) : Except CliUsageError Unit :=
  raiseInvalidFlags s!"--action {action}" invalid

def requireFlag (given : Bool) (flag context : String) : Except CliUsageError Unit :=
  if given then .ok () else .error ⟨s!"{flag} required with {context}"⟩

/-! ### Values -/

namespace Value

def isGiven : Value → Bool
  | .none => false
  | _ => true

/-- A list that counts only with an item in it. -/
def ofItems {α : Type} (f : α → Value) (items : List α) : Value :=
  if items.isEmpty then .none else .list (items.map f)

/-- A flag that counts only when it is set. -/
def ofTrue (b : Bool) : Value := if b then .bool true else .none

/-- A mapping that counts only with a field in it. -/
def ofFields (fields : List (String × Value)) : Value := if fields.isEmpty then .none else .dict fields

end Value

/-- The fields with a value, each set in its turn. -/
def givenFields (fields : List (String × Value)) : Payload := fields.filter (·.2.isGiven)

/-- The fields that every payload has. -/
def toolFields (sessionId : Option Int) (action : String) : Payload :=
  [("session_id", .ofOption .int sessionId), ("action", .str action)]

/-! ### Sessions -/

inductive SessionQueryAction where
  | list | status
  deriving DecidableEq, Repr

def SessionQueryAction.text : SessionQueryAction → String
  | .list => "list"
  | .status => "status"

/-- Parsed input for `gdb_session_query`. -/
structure SessionQueryInput where
  action : SessionQueryAction
  sessionId : Option Int := none

def buildSessionQuery (typedInput : SessionQueryInput) : Except CliUsageError Payload := do
  let payload := [("action", .str typedInput.action.text)] ++
    givenFields [("session_id", .ofOption .int typedInput.sessionId)]
  if typedInput.action = .list ∧ typedInput.sessionId.isSome then .error ⟨"--session-id not valid with --action list"⟩
  else return payload

/-- Parsed input for `gdb_session_start`. -/
structure SessionStartInput where
  program : Option String := none
  args : List String := []
  initCommands : List String := []
  env : Option (List (String × String)) := none
  core : Option String := none
  gdbPath : Option String := none
  gdbArgs : List String := []
  workingDir : Option String := none
  rrReplay : Option String := none

/-- An environment that counts only with a variable in it. -/
def environmentValue (env : List (String × String)) : Value := .ofFields (env.map fun field => (field.1, .str field.2))

def buildSessionStart (typedInput : SessionStartInput) : Payload :=
  givenFields [
    ("program", .ofOption .str typedInput.program),
    ("args", .ofItems .str typedInput.args),
    ("init_commands", .ofItems .str typedInput.initCommands),
    ("env", .ofOption environmentValue typedInput.env),
    ("core", .ofOption .str typedInput.core),
    ("gdb_path", .ofOption .str typedInput.gdbPath),
    ("gdb_args", .ofItems .str typedInput.gdbArgs),
    ("working_dir", .ofOption .str typedInput.workingDir),
    ("rr_replay", .ofOption .str typedInput.rrReplay)]

/-! ### Inferiors -/

inductive InferiorQueryAction where
  | list | current
  deriving DecidableEq, Repr

def InferiorQueryAction.text : InferiorQueryAction → String
  | .list => "list"
  | .current => "current"

/-- Parsed input for `gdb_inferior_query`. -/
structure InferiorQueryInput where
  action : InferiorQueryAction
  sessionId : Option Int := none

def buildInferiorQuery (typedInput : InferiorQueryInput) : Payload :=
  toolFields typedInput.sessionId typedInput.action.text

inductive InferiorManageAction where
  | create | remove | select | setFollowForkMode | setDetachOnFork
  deriving DecidableEq, Repr

def InferiorManageAction.text : InferiorManageAction → String
  | .create => "create"
  | .remove => "remove"
  | .select => "select"
  | .setFollowForkMode => "set_follow_fork_mode"
  | .setDetachOnFork => "set_detach_on_fork"

/-- Parsed input for `gdb_inferior_manage`. -/
structure InferiorManageInput where
  action : InferiorManageAction
  sessionId : Option Int := none
  executable : Option String := none
  makeCurrent : Option Bool := none
  inferiorId : Option Int := none
  mode : Option FollowForkMode := none
  enabled : Option Bool := none

namespace InferiorManageInput

variable (typedInput : InferiorManageInput)

def validateRemoveOrSelect : Except CliUsageError (List String) := do
  requireFlag typedInput.inferiorId.isSome "--inferior-id" s!"--action {typedInput.action.text}"
  return invalidFlags [
    (typedInput.executable.isSome, "--executable"),
    (typedInput.makeCurrent.isSome, "--make-current"),
    (typedInput.mode.isSome, "--mode"),
    (typedInput.enabled.isSome, "--enabled")]

def validateAction : Except CliUsageError (List String) :=
  match typedInput.action with
  | .create => return invalidFlags [
      (typedInput.inferiorId.isSome, "--inferior-id"),
      (typedInput.mode.isSome, "--mode"),
      (typedInput.enabled.isSome, "--enabled")]
  | .remove => typedInput.validateRemoveOrSelect
  | .select => typedInput.validateRemoveOrSelect
  | .setFollowForkMode => do
    requireFlag typedInput.mode.isSome "--mode" "--action set_follow_fork_mode"
    return invalidFlags [
      (typedInput.inferiorId.isSome, "--inferior-id"),
      (typedInput.executable.isSome, "--executable"),
      (typedInput.makeCurrent.isSome, "--make-current"),
      (typedInput.enabled.isSome, "--enabled")]
  | .setDetachOnFork => return invalidFlags [
      (typedInput.inferiorId.isSome, "--inferior-id"),
      (typedInput.executable.isSome, "--executable"),
      (typedInput.makeCurrent.isSome, "--make-current"),
      (typedInput.mode.isSome, "--mode")]

def validate : Except CliUsageError Unit := do
  raiseInvalidActionFlags typedInput.action.text (← typedInput.validateAction)

def inferior : Payload :=
  match typedInput.action with
  | .create => givenFields [
      ("executable", .ofOption .str typedInput.executable), ("make_current", .ofOption .bool typedInput.makeCurrent)]
  | .remove => givenFields [("inferior_id", .ofOption .int typedInput.inferiorId)]
  | .select => givenFields [("inferior_id", .ofOption .int typedInput.inferiorId)]
  | .setFollowForkMode => givenFields [("mode", .ofOption (fun mode => .str (FollowForkMode.name mode)) typedInput.mode)]
  | .setDetachOnFork => [("enabled", .bool (typedInput.enabled.getD true))]

end InferiorManageInput

def buildInferiorManage (typedInput : InferiorManageInput) : Except CliUsageError Payload := do
  typedInput.validate
  return toolFields typedInput.sessionId typedInput.action.text ++ [("inferior", .dict typedInput.inferior)]

/-! ### Execution -/

inductive ExecutionManageAction where
  | run | continue | interrupt | step | next | finish | waitForStop
  deriving DecidableEq, Repr

def ExecutionManageAction.text : ExecutionManageAction → String
  | .run => "run"
  | .continue => "continue"
  | .interrupt => "interrupt"
  | .step => "step"
  | .next => "next"
  | .finish => "finish"
  | .waitForStop => "wait_for_stop"

inductive ExecutionWaitUntil where
  | acknowledged | stop
  deriving DecidableEq, Repr

def ExecutionWaitUntil.text : ExecutionWaitUntil → String
  | .acknowledged => "acknowledged"
  | .stop => "stop"

/-- Parsed input for `gdb_execution_manage`. -/
structure ExecutionManageInput where
  action : ExecutionManageAction
  sessionId : Option Int := none
  args : List String := []
  waitUntil : Option ExecutionWaitUntil := none
  timeoutSec : Option Int := none
  stopReasons : List String := []
  reverse : Bool := false

namespace ExecutionManageInput

variable (typedInput : ExecutionManageInput)

def validate : Except CliUsageError Unit :=
  let argsCheck := (!typedInput.args.isEmpty, "--arg")
  let waitUntilCheck := (typedInput.waitUntil.isSome, "--wait-until")
  let timeoutSecCheck := (typedInput.timeoutSec.isSome, "--timeout-sec")
  let stopReasonsCheck := (!typedInput.stopReasons.isEmpty, "--stop-reason")
  let reverseCheck := (typedInput.reverse, "--reverse")
  raiseInvalidActionFlags typedInput.action.text <| invalidFlags <|
    match typedInput.action with
    | .interrupt => [argsCheck, waitUntilCheck, timeoutSecCheck, stopReasonsCheck, reverseCheck]
    | .run => [reverseCheck, stopReasonsCheck]
    | .waitForStop => [argsCheck, waitUntilCheck, reverseCheck]
    | .continue | .step | .next | .finish => [argsCheck, stopReasonsCheck]

def execution : Payload :=
  match typedInput.action with
  | .interrupt => []
  | .waitForStop =>
    [("timeout_sec", .int (typedInput.timeoutSec.getD 30))] ++
      givenFields [("stop_reasons", .ofItems .str typedInput.stopReasons)]
  | action => givenFields [
      ("args", if action = .run then .ofItems .str typedInput.args else .none),
      ("wait_until", .ofOption (fun value => .str (ExecutionWaitUntil.text value)) typedInput.waitUntil),
      ("timeout_sec", .ofOption .int typedInput.timeoutSec),
      ("reverse", .ofTrue typedInput.reverse)]

end ExecutionManageInput

def buildExecutionManage (typedInput : ExecutionManageInput) : Except CliUsageError Payload := do
  typedInput.validate
  return toolFields typedInput.sessionId typedInput.action.text ++ [("execution", .dict typedInput.execution)]

/-! ### Contexts -/

inductive ContextQueryAction where
  | threads | backtrace | frame
  deriving DecidableEq, Repr

def ContextQueryAction.text : ContextQueryAction → String
  | .threads => "threads"
  | .backtrace => "backtrace"
  | .frame => "frame"

/-- Parsed input for `gdb_context_query`. -/
structure ContextQueryInput where
  action : ContextQueryAction
  sessionId : Option Int := none
  threadId : Option Int := none
  frame : Option Int := none
  maxFrames : Option Int := none

namespace ContextQueryInput

variable (typedInput : ContextQueryInput)

def validate : Except CliUsageError Unit :=
  raiseInvalidActionFlags typedInput.action.text <| invalidFlags <|
    match typedInput.action with
    | .threads => [
        (typedInput.threadId.isSome, "--thread-id"),
        (typedInput.frame.isSome, "--frame"),
        (typedInput.maxFrames.isSome, "--max-frames")]
    | .backtrace => [(typedInput.frame.isSome, "--frame")]
    | .frame => [(typedInput.maxFrames.isSome, "--max-frames")]

def query : Payload :=
  match typedInput.action with
  | .threads => []
  | .backtrace => givenFields [
      ("thread_id", .ofOption .int typedInput.threadId), ("max_frames", .ofOption .int typedInput.maxFrames)]
  | .frame => givenFields [("thread_id", .ofOption .int typedInput.threadId), ("frame", .ofOption .int typedInput.frame)]

end ContextQueryInput

def buildContextQuery (typedInput : ContextQueryInput) : Except CliUsageError Payload := do
  typedInput.validate
  return toolFields typedInput.sessionId typedInput.action.text ++ givenFields [("query", .ofFields typedInput.query)]

inductive ContextManageAction where
  | selectThread | selectFrame
  deriving DecidableEq, Repr

def ContextManageAction.text : ContextManageAction → String
  | .selectThread => "select_thread"
  | .selectFrame => "select_frame"

/-- Parsed input for `gdb_context_manage`. -/
structure ContextManageInput where
  action : ContextManageAction
  sessionId : Option Int := none
  threadId : Option Int := none
  frame : Option Int := none

namespace ContextManageInput

variable (typedInput : ContextManageInput)

def validateAction : Except CliUsageError (List String) :=
  match typedInput.action with
  | .selectThread => do
    requireFlag typedInput.threadId.isSome "--thread-id" "--action select_thread"
    return invalidFlags [(typedInput.frame.isSome, "--frame")]
  | .selectFrame => do
    requireFlag typedInput.frame.isSome "--frame" "--action select_frame"
    return invalidFlags [(typedInput.threadId.isSome, "--thread-id")]

def validate : Except CliUsageError Unit := do
  raiseInvalidActionFlags typedInput.action.text (← typedInput.validateAction)

def context : Payload :=
  match typedInput.action with
  | .selectThread => givenFields [("thread_id", .ofOption .int typedInput.threadId)]
  | .selectFrame => givenFields [("frame", .ofOption .int typedInput.frame)]

end ContextManageInput

def buildContextManage (typedInput : ContextManageInput) : Except CliUsageError Payload := do
  typedInput.validate
  return toolFields typedInput.sessionId typedInput.action.text ++ [("context", .dict typedInput.context)]

end GdbMcp
