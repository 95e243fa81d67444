import GdbMcp.InspectionSelection

/-! Inferiors that a session adds: the new one gets its executable while it is selected, and then the selection
goes back, or stays. -/

namespace GdbMcp

/-- Structured response for inferior creation. -/
structure InferiorAddInfo where
  inferiorId : Int
  isCurrent : Bool
  display : Option String := none
  description : Option String := none
  connection : Option String := none
  executable : Option String := none
  currentInferiorId : Option Int := none
  inferiorCount : Int
  message : String

def inferiorCommand (inferiorId : Int) : String := s!"inferior {inferiorId}"

def execFileCommand (executable : String) : String := s!"exec-file {quoteMiString executable}"

def missingInferiorMessage : String := "GDB returned no inferior identifier for -add-inferior"

namespace Session

variable {W : Type} [Gdb W]

/-- Refresh runtime inferior metadata from `info inferiors` output. -/
def refreshInferiorInventory : SessionM W (OperationResult InferiorListInfo) := do
  orReturn (← query "info inferiors") fun info => do
    let current ← read SessionRuntime.currentInferiorId
    let payload ← narrow (parseInferiorsOutput (info.output.getD "") current)
    update (·.updateInferiorInventory payload.currentInferiorId payload.count (some (inferiorIds payload)))
    return .success payload

/-- A command whose value does not matter. -/
def require (command : String) : SessionM W (OperationResult Unit) := do
  orReturn (← query command) fun _ => return .success ()

/-- Load the executable into the new inferior, which is selected for it. -/
def loadExecutable (inferiorId : Int) : Option String → SessionM W (OperationResult Unit)
  | none => return .success ()
  | some executable => do
    orReturn (← require (inferiorCommand inferiorId)) fun _ => require (execFileCommand executable)

/-- Select the new inferior if it is to be the current one, and else the one before. -/
def settleSelection (previous : Option Int) (inferiorId : Int) (executable : Option String) (makeCurrent : Bool) :
    SessionM W (OperationResult Unit) :=
  if makeCurrent then
    if executable.isNone && previous != some inferiorId then require (inferiorCommand inferiorId)
    else return .success ()
  else
    match executable, previous with
    | some _, some k => if k ≠ inferiorId then require (inferiorCommand k) else return .success ()
    | _, _ => return .success ()

/-- What the refreshed inventory says of the new inferior. -/
def addReport (inferiorId : Int) (executable : Option String) (makeCurrent : Bool) (inventory : InferiorListInfo) :
    OperationResult InferiorAddInfo :=
  let message := s!"Inferior {inferiorId} added"
  match inventory.inferiors.find? fun record => record.inferiorId = inferiorId with
  | none =>
    .success
      { inferiorId, isCurrent := makeCurrent, executable, currentInferiorId := inventory.currentInferiorId
        inferiorCount := inventory.count, message }
      [s!"Inferior {inferiorId} was added, but it was missing from the refreshed inventory."]
  | some record =>
    .success
      { inferiorId
        isCurrent := record.isCurrent
        display := some record.display
        description := record.description
        connection := record.connection
        executable := record.executable
        currentInferiorId := inventory.currentInferiorId
        inferiorCount := inventory.count
        message }

/-- What follows once the identifier of the new inferior is known. -/
def settleInferior (inferiorId : Int) (executable : Option String) (makeCurrent : Bool) :
    SessionM W (OperationResult InferiorAddInfo) := do
  let previous ← read SessionRuntime.currentInferiorId
  update (·.ensureInferior inferiorId)
  orReturn (← loadExecutable inferiorId executable) fun _ => do
    orReturn (← settleSelection previous inferiorId executable makeCurrent) fun _ => do
      orReturn (← refreshInferiorInventory) fun inventory =>
        return addReport inferiorId executable makeCurrent inventory

/-- Create a new inferior and return the refreshed inventory summary. -/
def addInferior (executable : Option String) (makeCurrent : Bool) : SessionM W (OperationResult InferiorAddInfo) := do
  orReturn (← query "-add-inferior") fun added => do
    match ← narrow (parseInferiorIdFromThreadGroup ((extractMiResultPayload added).get "inferior")) with
    | none => return .error missingInferiorMessage
    | some inferiorId => settleInferior inferiorId executable makeCurrent

end Session
end GdbMcp
