import GdbMcp.ClientDotted
import GdbMcp.WorkflowBatch

/-! The workflow steps on the command line of the client. The options `--step`, `--step-label` and `--step-arg` are events
in the order in which they were given; every step has its own mapping of arguments, which the loop goes on to write. -/

namespace GdbMcp

/-- One option with its value. The options of setup steps have the same three forms. -/
inductive StepEvent where
  | step (setup : Bool) (name : String)
  | label (setup : Bool) (label : String)
  | arg (setup : Bool) (path value : String)
  deriving DecidableEq, Repr

namespace StepEvent

def option : StepEvent → String
  | .step setup _ => if setup then "--setup-step" else "--step"
  | .label setup _ => if setup then "--setup-step-label" else "--step-label"
  | .arg setup _ _ => if setup then "--setup-step-arg" else "--step-arg"

/-- The event under the option that `_WORKFLOW_STEP_OPTION_MAP` has for its own. -/
def normalize : StepEvent → StepEvent
  | .step _ name => .step false name
  | .label _ text => .label false text
  | .arg _ path value => .arg false path value

end StepEvent

def normalizeStepEvents (events : Option (List StepEvent)) : Option (List StepEvent) :=
  events.map fun events => events.map StepEvent.normalize

def publicToolNames : List String :=
  ["gdb_session_start", "gdb_session_connect", "gdb_session_query", "gdb_session_manage", "gdb_inferior_query",
    "gdb_inferior_manage", "gdb_execution_manage", "gdb_breakpoint_query", "gdb_breakpoint_manage", "gdb_context_query",
    "gdb_context_manage", "gdb_inspect_query", "gdb_workflow_batch", "gdb_capture_bundle", "gdb_run_until_failure",
    "gdb_execute_command", "gdb_attach_process", "gdb_call_function"]

/-- Accept the gdb_-less tool spelling inside workflow steps. -/
def normalizeStepToolName (toolName : String) : String :=
  if PyStr.startswith toolName "gdb_" then toolName
  else if "gdb_" ++ toolName ∈ publicToolNames then "gdb_" ++ toolName
  else toolName

/-- Typed workflow/setup step used by batch-oriented commands. -/
structure SessionStepInput where
  tool : String
  label : Option String
  arguments : Mapping

/-- A step while the events are read: its arguments are at an address, where the loop writes them. -/
structure StepDraft where
  tool : String
  label : Option String
  arguments : Nat
  deriving DecidableEq

/-- The variables of the loop and the mappings it has made. The field `handed` is history: the tool and the arguments of
every validation so far. -/
structure StepParse where
  mappings : List Mapping := []
  steps : List StepDraft := []
  currentTool : Option String := none
  currentLabel : Option String := none
  currentArguments : Option Nat := none
  handed : List (String × Mapping) := []

/-- The request models of the step tools: the validated payload, or the text of what is wrong with it. -/
abbrev StepModels := String → Option (Mapping → Except String Mapping)

def stepIssueMessage (toolName : String) (index : Nat) : WorkflowStepIssue → String
  | .sessionIdNotAllowed =>
    s!"Workflow step {index} ({toolName}) must not include session_id; it is inherited from the enclosing command"
  | .sessionQueryListNotAllowed => "gdb_session_query(action=list) is not valid inside workflow steps"
  | .sessionManageNotAllowed => "gdb_session_manage is not valid inside workflow steps"
  | .nestedWorkflowToolNotAllowed => s!"{toolName} is not valid inside workflow steps"
  | .unknownTool => s!"Unsupported workflow step tool: {toolName}"

def validateWorkflowStep (models : StepModels) (toolName : String) (arguments : Mapping) (index : Nat) :
    Except CliUsageError Mapping :=
  match validateWorkflowStepContract toolName arguments with
  | some issue => .error ⟨stepIssueMessage toolName index issue⟩
  | none =>
    match models toolName with
    | none => .error ⟨s!"Unsupported workflow step tool: {toolName}"⟩
    | some validate =>
      match validate (("session_id", .int 1) :: arguments) with
      | .error problem => .error ⟨s!"Invalid workflow step {index} ({toolName}): {problem}"⟩
      | .ok validated => .ok (Dict.erase validated "session_id")

open Eff

abbrev StepM := Eff StepParse CliUsageError

/-- The tool of the step at hand and the address of its arguments. -/
def currentStep (event : StepEvent) (stepFlag : String) : StepM (String × Nat) := do
  match (← gets (·.currentTool)), ← gets (·.currentArguments) with
  | some tool, some arguments => return (tool, arguments)
  | _, _ => raise ⟨s!"{event.option} requires a preceding {stepFlag}"⟩

/-- One event of the loop. -/
def parseStepEvent (stepFlag : String) : StepEvent → StepM Unit
  | .step _ name => modify fun s =>
    { s with
      mappings := s.mappings ++ [[]]
      steps := s.steps ++ [⟨normalizeStepToolName name, none, s.mappings.length⟩]
      currentTool := some (normalizeStepToolName name)
      currentLabel := none
      currentArguments := some s.mappings.length }
  | .label setup label => do
    let (tool, arguments) ← currentStep (.label setup label) stepFlag
    -- `steps[-1] = …`: the last step is made anew, on the same arguments.
    modify fun s => { s with currentLabel := some label, steps := s.steps.dropLast ++ [⟨tool, some label, arguments⟩] }
  | .arg setup path value => do
    let (_, arguments) ← currentStep (.arg setup path value) stepFlag
    zoom (fun s => s.mappings.getD arguments []) (fun m s => { s with mappings := s.mappings.set arguments m })
      (assignDottedValue path (.str value))

def parseStepEvents (stepFlag : String) : List StepEvent → StepM Unit
  | [] => return ()
  | event :: rest => do
    parseStepEvent stepFlag event
    parseStepEvents stepFlag rest

/-- Validate the steps from the given index on. -/
def validateSteps (models : StepModels) : Nat → List StepDraft → StepM (List SessionStepInput)
  | _, [] => return []
  | index, step :: rest => do
    let arguments ← gets fun s => s.mappings.getD step.arguments []
    modify fun s => { s with handed := s.handed ++ [(step.tool, arguments)] }
    let validated ← ofExcept (validateWorkflowStep models step.tool arguments index)
    let others ← validateSteps models (index + 1) rest
    return ⟨step.tool, step.label, validated⟩ :: others

def parseStepInputs (models : StepModels) (events : Option (List StepEvent)) (required : Bool) (stepFlag : String) :
    StepM (Option (List SessionStepInput)) :=
  match normalizeStepEvents events with
  | none | some [] => if required then raise ⟨s!"At least one {stepFlag} is required"⟩ else return none
  | some events => do
    parseStepEvents stepFlag events
    let drafts ← gets (·.steps)
    some <$> validateSteps models 0 drafts

end GdbMcp
