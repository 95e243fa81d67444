import GdbMcp.BreakpointOperations

/-! The requests about the breakpoints that exist: they are listed and looked up in the inventory, and deleted, enabled,
disabled and changed by their numbers. -/

namespace GdbMcp

structure SessionMessage where
  message : String

def SessionMessage.toValue (message : SessionMessage) : Value := .dict [("message", .str message.message)]

def BreakpointInfo.toValue (info : BreakpointInfo) : Value := .dict [("breakpoint", info.breakpoint)]

/-- The kinds to which a listing may be narrowed. -/
inductive BreakpointKind where
  | code | watch | «catch»
  deriving DecidableEq, Repr

/-- The kind that the type of a record says. -/
def breakpointKind (type : String) : BreakpointKind :=
  if PyStr.contains (PyStr.lower type) "watch" then .watch
  else if PyStr.contains (PyStr.lower type) "catch" then .catch
  else .code

/-- `value in {True, "y", "Y", "1"}`. A list and a mapping have no hash. -/
def isEnabledValue : Value → Except PyError Bool
  | .none => .ok false
  | .bool b => .ok b
  | .int i => .ok (i == 1)
  | .str s => .ok (["y", "Y", "1"].contains s)
  | .list _ => .error (.other "unhashable type: list")
  | .dict _ => .error (.other "unhashable type: dict")

/-- The records of some kinds, where any are given, and with a given state, where one is given. -/
def filterBreakpoints (kinds : List BreakpointKind) (enabled : Option Bool) : List Value → Except PyError (List Value)
  | [] => .ok []
  | record :: rest => do
    if !kinds.isEmpty && !kinds.contains (breakpointKind (record.getOr "type" (.str "")).text) then
      filterBreakpoints kinds enabled rest
    else
      let isEnabled ← isEnabledValue (record.get "enabled")
      let kept ← filterBreakpoints kinds enabled rest
      return if enabled.all (· == isEnabled) then record :: kept else kept

def notFoundError {α : Type} (number : Int) : OperationResult α :=
  .error s!"Breakpoint {number} not found" false [("breakpoint_number", .int number)] "not_found"

namespace Session

open SessionBreakpointService

variable {W : Type} [Gdb W]

/-- Return one breakpoint by its numeric identifier. -/
def getBreakpoint (number : Int) : SessionM W (OperationResult BreakpointInfo) := do
  orReturn (← listBreakpoints) fun listing => do
    match ← narrow (findBreakpointRecord number listing.breakpoints) with
    | none => return notFoundError number
    | some record => return .success ⟨record⟩

/-- A command on one breakpoint, and what is said of it. -/
def changeBreakpoint (command message : String) : SessionM W (OperationResult SessionMessage) := do
  orReturn (← query command) fun _ => return .success ⟨message⟩

/-- Delete a breakpoint by its number. -/
def deleteBreakpoint (number : Int) : SessionM W (OperationResult SessionMessage) :=
  changeBreakpoint s!"-break-delete {number}" s!"Breakpoint {number} deleted"

/-- Delete a watchpoint by its breakpoint number. -/
def deleteWatchpoint (number : Int) : SessionM W (OperationResult SessionMessage) :=
  changeBreakpoint s!"-break-delete {number}" s!"Watchpoint {number} deleted"

/-- Enable a breakpoint by its number. -/
def enableBreakpoint (number : Int) : SessionM W (OperationResult SessionMessage) :=
  changeBreakpoint s!"-break-enable {number}" s!"Breakpoint {number} enabled"

/-- Disable a breakpoint by its number. -/
def disableBreakpoint (number : Int) : SessionM W (OperationResult SessionMessage) :=
  changeBreakpoint s!"-break-disable {number}" s!"Breakpoint {number} disabled"

/-- List the breakpoints that pass the filters. -/
def queryBreakpoints (kinds : List BreakpointKind) (enabled : Option Bool) : SessionM W ToolResult := do
  orReturn (← listBreakpoints) fun listing => do
    if kinds.isEmpty && enabled.isNone then return .success listing.toValue
    else
      let kept ← narrow (filterBreakpoints kinds enabled listing.breakpoints)
      return .success (.dict [("breakpoints", .list kept), ("count", .int kept.length)])

end Session

/-- The requests about the breakpoints that exist. -/
inductive BreakpointRequest where
  | list (kinds : List BreakpointKind) (enabled : Option Bool)
  | get (number : Int)
  | delete (number : Int)
  | enable (number : Int)
  | disable (number : Int)
  | deleteWatch (number : Int)
  | update (number : Int) (condition : Option String) (clearCondition : Bool)

/-- Serve a request. -/
def BreakpointRequest.perform {W : Type} [Gdb W] : BreakpointRequest → SessionM W ToolResult
  | list kinds enabled => Session.queryBreakpoints kinds enabled
  | get number => (·.serialize BreakpointInfo.toValue) <$> Session.getBreakpoint number
  | delete number => (·.serialize SessionMessage.toValue) <$> Session.deleteBreakpoint number
  | enable number => (·.serialize SessionMessage.toValue) <$> Session.enableBreakpoint number
  | disable number => (·.serialize SessionMessage.toValue) <$> Session.disableBreakpoint number
  | deleteWatch number => (·.serialize SessionMessage.toValue) <$> Session.deleteWatchpoint number
  | update number condition clearCondition =>
    (·.serialize BreakpointInfo.toValue) <$> Session.updateBreakpoint number condition clearCondition

end GdbMcp
