import GdbMcp.SessionExecution

/-! The thread and frame selection of an inspection: it is captured, switched for the queries, and
restored. -/

namespace GdbMcp

/-- Current thread/frame selection captured for temporary inspection changes. -/
structure SelectionSnapshot where
  threadId : Option Int
  frameNumber : Option Int

/-- The kinds of code locations. -/
inductive CodeScope where
  | currentContext | function | address | addressRange | fileLine | fileRange
  deriving DecidableEq, Repr

/-- The text of a scope in responses. -/
def CodeScope.name : CodeScope → String
  | .currentContext => "current_context"
  | .function => "function"
  | .address => "address"
  | .addressRange => "address_range"
  | .fileLine => "file_line"
  | .fileRange => "file_range"

/-- One normalized code location used by disassembly and source lookup. -/
structure ResolvedCodeLocation where
  scope : CodeScope
  threadId : Option Int := none
  frame : Option Int := none
  function : Option String := none
  address : Option String := none
  file : Option String := none
  fullname : Option String := none
  line : Option Int := none
  startAddress : Option String := none
  endAddress : Option String := none

/-- `a or b` of two optional texts: an empty text counts as missing. -/
def textOr (a b : Option String) : Option String := a.filter (· ≠ "") <|> b

/-- `items[:n]`. -/
def sliceTo {α : Type} (items : List α) (n : Int) : List α :=
  items.take (if 0 ≤ n then n.toNat else items.length - n.natAbs)

def threadSelectCommand (threadId : Int) : String := s!"-thread-select {threadId}"

def frameSelectCommand (frameNumber : Int) : String := s!"-stack-select-frame {frameNumber}"

namespace OperationResult

variable {α : Type} {P : α → Prop}

theorem forall_success {value : α} {warnings : List String} :
    (∀ v w, (success value warnings : OperationResult α) = .success v w → P v) ↔ P value := by
  constructor
  · intro h
    exact h _ _ rfl
  · intro h v w heq
    exact (success.inj heq).1 ▸ h

theorem forall_error {message code : String} {fatal : Bool} {details : List (String × Value)} :
    ∀ v w, (error message fatal details code : OperationResult α) = .success v w → P v := nofun

end OperationResult

namespace Session

variable {W : Type} [Gdb W] {α β : Type}

/-- A command with the default timeout. -/
def query (command : String) : SessionM W (OperationResult CommandExecutionInfo) :=
  executeCommandResult command defaultTimeoutSec

def narrow (x : Except PyError α) : SessionM W α := onRuntime (Eff.ofExcept x)

omit [Gdb W] in
theorem ok_of_narrow {x : Except PyError α} {a : α} {s s' : Session W}
    (hrun : (narrow x).run s = (.ok a, s')) : x = .ok a ∧ s' = s := by
  obtain ⟨hx, rfl⟩ := Prod.mk.inj hrun
  exact ⟨hx, rfl⟩

/-- `if isinstance(result, OperationError): return result`. -/
def orReturn (result : OperationResult β) (next : β → SessionM W (OperationResult α)) :
    SessionM W (OperationResult α) :=
  match result with
  | .success value _ => next value
  | .error message fatal details code => return .error message fatal details code

omit [Gdb W] in
/-- An operation that returns the error of its first part, or goes on with the value. -/
theorem ok_of_orReturn {result : OperationResult β} {next : β → SessionM W (OperationResult α)}
    {final : OperationResult α} {s s' : Session W} (hrun : (orReturn result next).run s = (.ok final, s')) :
    (result.isSuccess = false ∧ final.isSuccess = false ∧ s' = s) ∨
      ∃ value warnings, result = .success value warnings ∧ (next value).run s = (.ok final, s') := by
  cases result with
  | success value warnings => exact .inr ⟨value, warnings, rfl, hrun⟩
  | error message fatal details code =>
      obtain ⟨hfinal, rfl⟩ := Prod.mk.inj hrun
      exact .inl ⟨rfl, Except.ok.inj hfinal ▸ rfl, rfl⟩

/-- Capture the currently selected thread and frame for later restoration. -/
def captureSelection : SessionM W (OperationResult SelectionSnapshot) := do
  orReturn (← query "-thread-info") fun thread => do
    let currentThread ← narrow (asInt ((extractMiResultPayload thread).get "current-thread-id"))
    orReturn (← query "-stack-info-frame") fun frame => do
      let currentFrame ← narrow (readFrameLevel ((extractMiResultPayload frame).get "frame"))
      update (·.markThreadSelected currentThread)
      update (·.markFrameSelected currentFrame)
      return .success { threadId := currentThread, frameNumber := currentFrame }

/-- Select what was captured, where it was known. -/
def reselect (what : String) : Option String → SessionM W (OperationResult Unit)
  | none => return .success ()
  | some command => do
    match ← query command with
    | .success _ _ => return .success ()
    | .error message _ _ _ =>
      return .error s!"Inspection completed but failed to restore the original {what} selection: {message}"

/-- Restore a previously captured debugger selection. -/
def restoreSelection (selection : SelectionSnapshot) : SessionM W (OperationResult Unit) := do
  orReturn (← reselect "thread" (selection.threadId.map threadSelectCommand)) fun _ => do
    orReturn (← reselect "frame" (selection.frameNumber.map frameSelectCommand)) fun _ => do
      update (·.markThreadSelected selection.threadId)
      update (·.markFrameSelected selection.frameNumber)
      return .success ()

/-- Select what is requested and differs from what was captured; the flag says whether the selection has
been changed so far. -/
def selectUnlessCurrent (command : Int → String) (current requested : Option Int) (changed : Bool) :
    SessionM W (Bool × OperationResult Unit) := do
  match requested with
  | none => return (changed, .success ())
  | some k =>
    if current = some k then return (changed, .success ())
    else
      match ← query (command k) with
      | .success _ _ => return (true, .success ())
      | .error message fatal details code => return (changed, .error message fatal details code)

/-- Temporarily switch thread/frame for one inspection call. -/
def selectForInspection (selection : Option SelectionSnapshot) (threadId frame : Option Int) :
    SessionM W (Bool × OperationResult Unit) := do
  match selection with
  | none => return (false, .success ())
  | some captured =>
    let (changed, result) ← selectUnlessCurrent threadSelectCommand captured.threadId threadId false
    if result.isSuccess then selectUnlessCurrent frameSelectCommand captured.frameNumber frame changed
    else return (changed, result)

/-- Restore a captured selection only when it was actually changed. -/
def restoreSelectionIfChanged (selection : Option SelectionSnapshot) (changed : Bool) :
    SessionM W (OperationResult Unit) :=
  match selection with
  | some captured => if changed then restoreSelection captured else return .success ()
  | none => return .success ()

/-- Return an error, restoring the original context when possible. -/
def selectionErrorWithRestore (selection : Option SelectionSnapshot) (message : String) (fatal : Bool)
    (details : List (String × Value)) (code : String) : SessionM W (OperationResult α) := do
  match selection with
  | none => return .error message fatal details code
  | some captured =>
    match ← restoreSelection captured with
    | .success _ _ => return .error message fatal details code
    | .error restoreMessage _ _ _ =>
      return .error s!"{message}. Also failed to restore the original thread/frame selection: {restoreMessage}"

/-- How an inspection leaves the selection behind when its queries have failed: it is restored in any
case, or only where it was changed, and then a failure to restore is the only one reported. -/
inductive FailurePolicy where
  | restoreAlways
  | restoreIfChanged

/-- The end of an inspection whose queries have ended. -/
def concludeInspection (policy : FailurePolicy) (selection : Option SelectionSnapshot) (changed : Bool)
    (result : OperationResult α) : SessionM W (OperationResult α) := do
  match result with
  | .success value _ => orReturn (← restoreSelectionIfChanged selection changed) fun _ => return .success value
  | .error message fatal details code =>
    match policy with
    | .restoreAlways => selectionErrorWithRestore selection message fatal details code
    | .restoreIfChanged =>
      orReturn (← restoreSelectionIfChanged selection changed) fun _ =>
        return .error message fatal details code

/-- The selection that an inspection captures: none if it asks for the current context. -/
def captureIf (captures : Bool) : SessionM W (OperationResult (Option SelectionSnapshot)) := do
  if captures then
    orReturn (← captureSelection) fun captured => return .success (some captured)
  else return .success none

/-- The shape of an inspection with a requested thread and frame: its queries run behind the switch to
the requested context and before the way back. -/
def inspecting (policy : FailurePolicy) (captures : Bool) (threadId frame : Option Int)
    (queries : Option SelectionSnapshot → SessionM W (OperationResult α)) : SessionM W (OperationResult α) := do
  orReturn (← captureIf captures) fun selection => do
    let (changed, selected) ← selectForInspection selection threadId frame
    match selected with
    | .error message fatal details code => selectionErrorWithRestore selection message fatal details code
    | .success _ _ =>
      let result ← queries selection
      concludeInspection policy selection changed result

end Session
end GdbMcp
