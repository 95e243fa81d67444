import GdbMcp.InspectionQueries
import GdbMcp.WorkflowResult

/-! Breakpoints and catchpoints that a session sets. Where GDB refuses an insertion on account of other breakpoints, or
does not say the number of a catchpoint, the new one is looked up in the inventory. -/

namespace GdbMcp

/-! ### The commands -/

/-- Quote one MI operand, ending option parsing when it starts with `-`. -/
def miOperand (argument : String) : String :=
  if PyStr.startswith argument "-" then "-- " ++ quoteMiString argument else quoteMiString argument

/-- The command that sets a breakpoint. An empty condition is none. -/
def breakInsertCommand (location : String) (condition : Option String) (temporary : Bool) : String :=
  String.intercalate " "
    (["-break-insert"] ++ (if temporary then ["-t"] else []) ++
      (condition.filter (· ≠ "")).elim [] (fun text => ["-c", quoteMiString text]) ++ [miOperand location])

inductive WatchpointAccessType where
  | read | write | access
  deriving DecidableEq, Repr

/-- The command that sets a watchpoint. -/
def breakWatchCommand (expression : String) (kind : WatchpointAccessType) : String :=
  let option := match kind with
    | .read => ["-r"]
    | .access => ["-a"]
    | .write => []
  String.intercalate " " (["-break-watch"] ++ option ++ [miOperand expression])

/-- The command that changes the condition of a breakpoint, or clears it. -/
def breakConditionCommand (number : Int) (condition : Option String) : String :=
  condition.elim s!"-break-condition {number}" fun text => s!"-break-condition {number} {quoteMiString text}"

inductive CatchpointType where
  | throw | rethrow | «catch» | exec | fork | vfork | load | unload | signal | syscall
  deriving DecidableEq, Repr

def CatchpointType.name : CatchpointType → String
  | throw => "throw"
  | rethrow => "rethrow"
  | «catch» => "catch"
  | exec => "exec"
  | fork => "fork"
  | vfork => "vfork"
  | load => "load"
  | unload => "unload"
  | signal => "signal"
  | syscall => "syscall"

/-- The command that sets a catchpoint. An empty argument is none. -/
def catchCommand (kind : CatchpointType) (argument : Option String) (temporary : Bool) : String :=
  let command := (if temporary then "tcatch" else "catch") ++ " " ++ kind.name
  (argument.filter (· ≠ "")).elim command fun text => command ++ " " ++ text

/-! ### Records -/

/-- `value.get(key, default)` of a mapping. -/
def Value.getOr : Value → String → Value → Value
  | .dict fields, key, default => (fields.lookup key).getD default
  | _, _, default => default

/-- Normalize a single breakpoint payload. -/
def breakpointRecord (payload : Value) : Value := (payload.asDict.getOr "bkpt" payload.asDict).asDict

/-- Normalize a list of breakpoint payloads. -/
def breakpointRecords (payload : Value) : List Value := asRecordList ((payload.get "BreakpointTable").get "body")

structure BreakpointInfo where
  breakpoint : Value

structure BreakpointListInfo where
  breakpoints : List Value
  count : Nat

def BreakpointListInfo.toValue (info : BreakpointListInfo) : Value :=
  .dict [("breakpoints", .list info.breakpoints), ("count", .int info.count)]

/-- Build a breakpoint list from raw MI data. -/
def breakpointListInfoFromPayload (payload : Value) : BreakpointListInfo where
  breakpoints := breakpointRecords payload
  count := (breakpointRecords payload).length

namespace SessionBreakpointService

/-- Extract a breakpoint number from a raw breakpoint-like payload. -/
def extractBreakpointNumber (payload : Value) : Except PyError (Option Int) := asInt ((breakpointRecord payload).get "number")

/-- The number of the first watchpoint that the payload has under one of the keys. -/
def firstWatchpointNumber (payload : Value) : List String → Except PyError (Option Int)
  | [] => .ok none
  | key :: rest =>
    if (payload.get key).isDict then do
      match ← extractBreakpointNumber (payload.get key) with
      | some number => return some number
      | none => firstWatchpointNumber payload rest
    else firstWatchpointNumber payload rest

/-- Extract the created breakpoint number from MI result payloads. -/
def extractCreatedBreakpointNumber (payload : Value) : Except PyError (Option Int) := do
  match ← extractBreakpointNumber (breakpointRecord payload) with
  | some number => return some number
  | none => firstWatchpointNumber payload ["wpt", "awpt", "hw-awpt", "hw-rwpt"]

/-- Find one breakpoint record by its numeric number field. -/
def findBreakpointRecord (number : Int) : List Value → Except PyError (Option Value)
  | [] => .ok none
  | record :: rest => do
    if (← extractBreakpointNumber record) = some number then return some record
    else findBreakpointRecord number rest

/-- A text without its quotes, where it has the same one on both ends. -/
def unquote (text : String) : String :=
  let cs := text.toList
  if 2 ≤ cs.length ∧ cs.head? = cs.getLast? ∧ (cs.head? = some '"' ∨ cs.head? = some PyStr.apostrophe) then
    PyStr.strip (String.ofList cs.tail.dropLast)
  else text

/-- Normalize a breakpoint location so comparisons tolerate GDB's formatting. -/
def normalizeLocation (location : String) : String := unquote (PyStr.strip location)

/-- Whether GDB stored this `original-location` for a record. -/
def hasLocation (location : String) (record : Value) : Bool :=
  match record.get "original-location" with
  | .str stored => normalizeLocation stored == normalizeLocation location
  | _ => false

/-- Find one breakpoint record by the `original-location` GDB stored for it. -/
def findBreakpointForLocation (breakpoints : List Value) (location : String) : Option Value :=
  breakpoints.find? (hasLocation location)

/-- Whether the type of a record is that of a catchpoint. -/
def isCatchpoint (record : Value) : Bool := PyStr.contains (PyStr.lower (record.getOr "type" (.str "")).text) "catch"

/-- The numbers of the catchpoints among the records; only membership in them counts. -/
def catchpointNumbersOf : List Value → Except PyError (List Int)
  | [] => .ok []
  | record :: rest => do
    if isCatchpoint record then
      let number ← extractBreakpointNumber record
      return number.toList ++ (← catchpointNumbersOf rest)
    else catchpointNumbersOf rest

/-! ### Numbers in texts -/

/-- One character, without its case, as a case-insensitive pattern sees it: the dotted capital and the dotless small
letter count as an `i`. -/
def foldLetter (c : Char) : Char := if c.toNat = 0x130 ∨ c.toNat = 0x131 then 'i' else foldCase c

/-- The digits behind the phrase and some blanks, where the text begins so. -/
def numberBehind (phrase : String) (cs : List Char) : Option String :=
  let rest := cs.drop phrase.toList.length
  let digits := (rest.dropWhile PyStr.isSpace).takeWhile fun c => (PyStr.decimalValue c).isSome
  if (phrase.toList.map foldLetter).isPrefixOf (cs.map foldLetter) && rest.head?.any PyStr.isSpace && !digits.isEmpty then
    some (String.ofList digits)
  else none

/-- All matches of the phrase with a number behind it. Neither phrase begins anew inside a match, so that no two matches
overlap. -/
def numbersBehind (phrase text : String) : List String := text.toList.tails.filterMap (numberBehind phrase)

/-- `_INSERT_BLOCKED_RE`, with the matches of `finditer`. -/
def insertBlocked (text : String) : List String := numbersBehind "Cannot insert breakpoint" text

/-- Return the breakpoint numbers GDB reported it cannot insert, in order. -/
def blockedBreakpointNumbers (message : String) : Except PyError (List Int) := do
  return (← (insertBlocked message).mapM (PyStr.int 10)).foldl addNumber []

/-- Parse a catchpoint number from CLI catch/tcatch output. The optional word before `catchpoint` does not change which
number comes first. -/
def extractCatchpointNumber (output : String) : Except PyError (Option Int) :=
  match (numbersBehind "catchpoint" output).head? with
  | none => .ok none
  | some digits => some <$> PyStr.int 10 digits

/-- Extract the concrete reason from a GDB insert-blocked warning: the text behind the first such line, or else the
first line that is neither. -/
def insertBlockedReason (message : String) : String :=
  let lines := (PyStr.splitlines message).map PyStr.strip
  let isBlocked := fun text => !(insertBlocked text).isEmpty
  let following := (lines.dropWhile fun text => !isBlocked text).tail.find? (· ≠ "")
  let other := lines.find? fun text => text ≠ "" && !PyStr.startswith (PyStr.lower text) "warning" && !isBlocked text
  (following <|> other).getD "GDB could not insert the breakpoint"

/-- Render breakpoint numbers for a human-readable message. -/
def formatBreakpointNumbers (numbers : List Int) : String := String.intercalate ", " (numbers.map toString)

/-! ### The blocked insertion -/

/-- What every message on a blocked insertion says of the blockers. -/
def blockers (blocked : List Int) (error : String) : String :=
  s!"existing breakpoint(s) {formatBreakpointNumbers blocked} cannot be inserted ({insertBlockedReason error})"

def blockedDetails (location : String) (blocked : List Int) : Payload :=
  [("requested_location", .str location), ("blocked_breakpoint_numbers", .list (blocked.map .int))]

def unconfirmedMessage (location error : String) (blocked : List Int) : String :=
  s!"Could not insert a breakpoint at {location}: {blockers blocked error}; the breakpoint " ++
    "inventory could not be refreshed to confirm the result"

def notCreatedMessage (location error : String) (blocked : List Int) : String :=
  s!"Could not insert a breakpoint at {location}: {blockers blocked error}. Delete or fix them before retrying."

def createdBlockedMessage (location error : String) (number : Int) : String :=
  s!"Breakpoint {number} at {location} cannot be inserted ({insertBlockedReason error})"

def createdWarning (location error : String) (blocked : List Int) (number : Option Int) : String :=
  let label := number.elim "the requested breakpoint" fun number => s!"breakpoint {number}"
  s!"Created {label} at {location}, but {blockers blocked error}; delete or fix them before continuing."

/-- What the inventory behind a blocked insertion says of the requested breakpoint. -/
def confirmInsert (location error : String) (blocked : List Int) (records : List Value) :
    Except PyError (OperationResult BreakpointInfo) := do
  let blockedRecords ← blocked.filterMapM fun number => findBreakpointRecord number records
  let details := blockedDetails location blocked ++
    [("blocked_breakpoints", .list blockedRecords), ("raw_error", .str error)]
  match findBreakpointForLocation records location with
  | none => return .error (notCreatedMessage location error blocked) false details "breakpoint_insert_blocked"
  | some created =>
    let number ← extractBreakpointNumber created
    match number.filter (· ∈ blocked) with
    | some number =>
      return .error (createdBlockedMessage location error number) false (details ++ [("created_breakpoint", created)])
        "breakpoint_insert_blocked"
    | none => return .success ⟨created⟩ [createdWarning location error blocked number]

end SessionBreakpointService

/-! ### The operations -/

namespace Session

open SessionBreakpointService

variable {W : Type} [Gdb W]

/-- List all breakpoints with structured data. -/
def listBreakpoints : SessionM W (OperationResult BreakpointListInfo) := do
  orReturn (← query "-break-list") fun info =>
    return .success (breakpointListInfoFromPayload (extractMiResultPayload info))

/-- Rewrite a `-break-insert` failure so it names the real blocker. -/
def attributeInsertFailure (location message : String) (fatal : Bool) (details : Payload) (code : String) :
    SessionM W (OperationResult BreakpointInfo) := do
  let blocked ← narrow (blockedBreakpointNumbers message)
  if blocked.isEmpty then return .error message fatal details code
  else
    match ← listBreakpoints with
    | .error listMessage listFatal listDetails listCode =>
      return .error (unconfirmedMessage location message blocked) false
        (blockedDetails location blocked ++ [("raw_error", .str message),
          ("refresh_error", .dict (resultToMapping (.error listMessage listFatal listDetails listCode)))])
        "breakpoint_insert_blocked"
    | .success listing _ => narrow (confirmInsert location message blocked listing.breakpoints)

/-- What a successful insertion reports. -/
def insertReport (location : String) (info : CommandExecutionInfo) : OperationResult BreakpointInfo :=
  match extractMiResultPayload info with
  | .none => .error s!"Failed to set breakpoint at {location}: no result from GDB" false [("raw_result", info.toValue)]
  | payload =>
    if (breakpointRecord payload).isFalsy then
      .error s!"Breakpoint set but no info returned for {location}" false [("raw_result", info.toValue)]
    else .success ⟨breakpointRecord payload⟩

/-- Set a breakpoint at the specified location. -/
def setBreakpoint (location : String) (condition : Option String) (temporary : Bool) :
    SessionM W (OperationResult BreakpointInfo) := do
  match ← query (breakInsertCommand location condition temporary) with
  | .error message fatal details code => attributeInsertFailure location message fatal details code
  | .success info _ => return insertReport location info

/-- Confirm one breakpoint number from the current breakpoint inventory. -/
def breakpointInfoForNumber (number : Int) (createDetails : Payload) : SessionM W (OperationResult BreakpointInfo) := do
  match ← listBreakpoints with
  | .error message fatal details code =>
    return .error s!"Breakpoint {number} could not be confirmed because gdb_list_breakpoints failed" false
      (createDetails ++ [("refresh_error", .dict (resultToMapping (.error message fatal details code)))])
  | .success listing _ => do
    match ← narrow (findBreakpointRecord number listing.breakpoints) with
    | none =>
      return .error
        (s!"Breakpoint {number} could not be confirmed because " ++
          s!"gdb_list_breakpoints did not return breakpoint {number}") false
        (createDetails ++ [("refreshed_breakpoints", .list listing.breakpoints)])
    | some record => return .success ⟨record⟩

/-- Set a watchpoint and return the normalized breakpoint record. -/
def setWatchpoint (expression : String) (kind : WatchpointAccessType) : SessionM W (OperationResult BreakpointInfo) := do
  orReturn (← query (breakWatchCommand expression kind)) fun info => do
    match ← narrow (extractCreatedBreakpointNumber (extractMiResultPayload info)) with
    | none =>
      return .error s!"Watchpoint set for {expression}, but GDB did not report its number" false
        [("raw_result", info.toValue)]
    | some number =>
      breakpointInfoForNumber number
        [("created_breakpoint_number", .int number), ("create_payload", extractMiResultPayload info)]

/-- Update one existing breakpoint and return the refreshed record. -/
def updateBreakpoint (number : Int) (condition : Option String) (clearCondition : Bool) :
    SessionM W (OperationResult BreakpointInfo) := do
  if condition.isSome && clearCondition then
    return .error "condition and clear_condition are mutually exclusive" false [] "unsupported_combination"
  else if condition.isNone && !clearCondition then
    return .error "At least one breakpoint change is required" false [] "validation_error"
  else
    orReturn (← query (breakConditionCommand number condition)) fun _ =>
      breakpointInfoForNumber number [("updated_breakpoint_number", .int number)]

/-- Return the current catchpoint-number set when breakpoint inventory is available. -/
def catchpointNumbers : SessionM W (Option (List Int)) := do
  match ← listBreakpoints with
  | .error .. => return none
  | .success listing _ => some <$> narrow (catchpointNumbersOf listing.breakpoints)

/-- The number to take for the created catchpoint, from the inventories before and after. -/
def newestNumber (previous : Option (List Int)) (current : List Int) : Option Int :=
  match previous with
  | none => current.max?
  | some previous => (current.filter (· ∉ previous)).max?

/-- Infer the created catchpoint by diffing catchpoint inventory before/after creation. -/
def inferNewCatchpointNumber (previous : Option (List Int)) : SessionM W (Option Int) := do
  match ← catchpointNumbers with
  | none => return none
  | some current => return newestNumber previous current

/-- Confirm the catchpoint that was set, by the number in the output or else by the inventory. -/
def confirmCatchpoint (kind : CatchpointType) (previous : Option (List Int)) (output : String) :
    SessionM W (OperationResult BreakpointInfo) := do
  let named ← narrow (extractCatchpointNumber output)
  match ← (match named with
    | some number => return some number
    | none => inferNewCatchpointNumber previous : SessionM W (Option Int)) with
  | none =>
    return .error s!"Catchpoint {kind.name} set, but GDB did not report its number" false [("output", .str output)]
  | some number =>
    breakpointInfoForNumber number
      [("created_breakpoint_number", .int number), ("create_output", .str (PyStr.strip output))]

/-- Set a catchpoint for a validated debugger event. -/
def setCatchpoint (kind : CatchpointType) (argument : Option String) (temporary : Bool) :
    SessionM W (OperationResult BreakpointInfo) := do
  let previous ← catchpointNumbers
  orReturn (← query (catchCommand kind argument temporary)) fun info =>
    confirmCatchpoint kind previous (info.output.getD "")

end Session
end GdbMcp
