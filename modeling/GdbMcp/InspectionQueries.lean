import GdbMcp.InspectionSelection
import Mathlib.Data.List.Sort

/-! Inspections of the expression, the variables, the registers and the stack of a context. -/

namespace GdbMcp

/-- Expression evaluation payload. -/
structure ExpressionValueInfo where
  expression : String
  value : Value

/-- Local variable inspection payload. -/
structure VariablesInfo where
  threadId : Option Int
  frame : Int
  variableRecords : List Value

/-- Register inspection payload. -/
structure RegistersInfo where
  registers : List Value

/-- Structured backtrace response. -/
structure BacktraceInfo where
  threadId : Option Int
  frames : List Value

/-- Structured thread-list response. -/
structure ThreadListInfo where
  threads : List Value
  currentThreadId : Option String

/-- Current frame details. -/
structure FrameInfo where
  frame : Option Value

def defaultMaxBacktraceFrames : Int := 100

/-! ### Registers -/

/-- Numbers and names of registers, and how much of them is wanted. -/
structure RegisterFilter where
  registerNumbers : List Int := []
  registerNames : List String := []
  includeVectorRegisters : Bool := true
  maxRegisters : Option Int := none
  hex : Bool := true

/-- One character, without its case, as a case-insensitive pattern sees it. -/
def foldCase (c : Char) : Char :=
  if c.toNat = 0x212A then 'k' else if c.toNat = 0x17F then 's' else c.toLower

def allDigits (cs : List Char) : Bool := !cs.isEmpty && cs.all fun c => '0' ≤ c && c ≤ '9'

/-- The text in parentheses, if that is the whole text. -/
def unparenthesized (cs : List Char) : Option (List Char) :=
  if cs.head? = some '(' && cs.getLast? = some ')' then some cs.tail.dropLast else none

/-- Whether a register name is one of a vector, SIMD or floating-point register. -/
def isVectorRegisterName (name : String) : Bool :=
  let cs := name.toList.map foldCase
  let behind := fun (p : String) => if p.toList.isPrefixOf cs then some (cs.drop p.toList.length) else none
  let numbered := ["xmm", "ymm", "zmm", "mm", "st", "k", "v", "q", "d", "s"].any fun p =>
    (behind p).any allDigits
  numbered || (behind "st").any fun rest =>
    rest.isEmpty || ((unparenthesized rest).any fun digits => allDigits digits)

/-- Add a number that is not there yet. -/
def addNumber (selected : List Int) (number : Int) : List Int :=
  if selected.contains number then selected else selected ++ [number]

/-- The numbers and the unknown names that a list of register names adds. -/
def selectNames (index : List (String × Int)) (names : List String) (selected : List Int) :
    List Int × List String :=
  names.foldl (fun (selected, missing) name =>
    match index.lookup name with
    | some number => (addNumber selected number, missing)
    | none => (selected, missing ++ [name])) (selected, [])

/-- Number the register names; of two equal names the later one counts. -/
def registerNameIndex (names : List Value) : List (String × Int) :=
  names.zipIdx.foldl (fun index (name, number) =>
    match name with
    | .str raw => if PyStr.strip raw = "" then index else (PyStr.strip raw, (number : Int)) :: index
    | _ => index) []

/-- The names of the registers with the given numbers; of two equal numbers the later one counts. -/
def registerNameMap (numbers : List Int) (names : List Value) : List (Int × String) :=
  (numbers.zip names).foldl (fun mapping (number, name) =>
    match name with
    | .str raw => (number, PyStr.strip raw) :: mapping
    | _ => mapping) []

def spaceSeparated (numbers : List Int) : String := String.intercalate " " (numbers.map toString)

/-- Build a register-values MI command with optional explicit register numbers. -/
def registerValuesCommand (hex : Bool) (numbers : List Int) : String :=
  let command := "-data-list-register-values " ++ if hex then "x" else "N"
  if numbers.isEmpty then command else command ++ " " ++ spaceSeparated numbers

/-- The numbers of register records, where they have one. -/
def registerNumbersOf : List Value → Except PyError (List Int)
  | [] => .ok []
  | register :: rest => do
    let number ← asInt (register.get "number")
    let numbers ← registerNumbersOf rest
    return number.toList ++ numbers

/-- Return register records with vector/SIMD names omitted. -/
def filterVectorRegisters (nameMap : List (Int × String)) : List Value → Except PyError (List Value)
  | [] => .ok []
  | register :: rest => do
    let number ← asInt (register.get "number")
    let kept ← filterVectorRegisters nameMap rest
    let name := (number.bind fun k => List.lookup k nameMap).getD ""
    return if name ≠ "" && isVectorRegisterName name then kept else register :: kept

namespace Session

variable {W : Type} [Gdb W]

/-- The register names of the payload, or an error. -/
def registerNames (payload : Value) : OperationResult (List Value) :=
  if payload.isDict then
    match payload.get "register-names" with
    | .list names => .success names
    | _ => .error "GDB did not return register names in the expected format"
  else .error "GDB returned malformed register-name payload"

/-- Build a name-to-number index from `-data-list-register-names` output. -/
def registerNameToNumberIndex : SessionM W (OperationResult (List (String × Int))) := do
  orReturn (← query "-data-list-register-names") fun info =>
    orReturn (registerNames (extractMiResultPayload info)) fun names =>
      return .success (registerNameIndex names)

/-- Resolve explicit register number/name selectors into one number list. -/
def resolveRegisterNumberFilters (a : RegisterFilter) : SessionM W (OperationResult (List Int)) := do
  let selected := a.registerNumbers.foldl addNumber []
  if a.registerNames.isEmpty then return .success selected
  else
    orReturn (← registerNameToNumberIndex) fun index => do
      let (numbers, missing) := selectNames index a.registerNames selected
      if missing.isEmpty then return .success numbers
      else
        return .error ("Unknown register names: " ++
          String.intercalate ", " (missing.mergeSort fun s t => decide (s ≤ t)))

/-- Load register names for one returned register set. -/
def loadRegisterNameMap (registers : List Value) : SessionM W (OperationResult (List (Int × String))) := do
  let numbers ← narrow (registerNumbersOf registers)
  if numbers.isEmpty then return .success []
  else
    orReturn (← query ("-data-list-register-names " ++ spaceSeparated numbers)) fun info =>
      orReturn (registerNames (extractMiResultPayload info)) fun names =>
        return .success (registerNameMap numbers names)

/-- The registers that are left when the vector registers are not wanted. -/
def omitVectorRegisters (registers : List Value) : SessionM W (OperationResult (List Value)) := do
  orReturn (← loadRegisterNameMap registers) fun nameMap => do
    let kept ← narrow (filterVectorRegisters nameMap registers)
    return .success kept

/-- The registers that the filter lets through. -/
def selectRegisters (a : RegisterFilter) (registers : List Value) : SessionM W (OperationResult (List Value)) :=
  if a.includeVectorRegisters then return .success registers else omitVectorRegisters registers

/-- The queries for the registers of the selected frame. -/
def queryRegisters (a : RegisterFilter) : SessionM W (OperationResult RegistersInfo) := do
  orReturn (← resolveRegisterNumberFilters a) fun numbers => do
    orReturn (← query (registerValuesCommand a.hex numbers)) fun info => do
      let registers := asRecordList ((extractMiResultPayload info).get "register-values")
      orReturn (← selectRegisters a registers) fun kept =>
        return .success { registers := a.maxRegisters.elim kept (sliceTo kept) }

/-- Get register values for current frame. -/
def getRegisters (threadId frame : Option Int) (a : RegisterFilter) :
    SessionM W (OperationResult RegistersInfo) :=
  inspecting .restoreIfChanged (threadId.isSome || frame.isSome) threadId frame fun _ => queryRegisters a

/-! ### Expressions and variables -/

/-- Evaluate an expression in the current context. -/
def evaluateExpression (expression : String) (threadId frame : Option Int) :
    SessionM W (OperationResult ExpressionValueInfo) :=
  inspecting .restoreIfChanged (threadId.isSome || frame.isSome) threadId frame fun _ => do
    orReturn (← query (buildEvaluateExpressionCommand expression)) fun info =>
      return .success { expression, value := (extractMiResultPayload info).get "value" }

/-- Get local variables for a specific frame. -/
def getVariables (threadId : Option Int) (frame : Int) : SessionM W (OperationResult VariablesInfo) :=
  inspecting .restoreIfChanged true threadId (some frame) fun selection => do
    orReturn (← query "-stack-list-variables --simple-values") fun info =>
      return .success
        { threadId := threadId <|> selection.bind (·.threadId), frame
          variableRecords := asRecordList ((extractMiResultPayload info).get "variables") }

/-! ### Stack -/

/-- Get information about all threads in the debugged process. -/
def getThreads : SessionM W (OperationResult ThreadListInfo) := do
  orReturn (← query "-thread-info") fun info =>
    match extractMiResultPayload info with
    | .none => return .error "GDB returned incomplete data - may still be loading symbols"
    | payload =>
      return .success
        { threads := asRecordList (payload.get "threads"), currentThreadId := asText (payload.get "current-thread-id") }

/-- The query for the frames of the selected thread. -/
def queryFrames (threadId : Option Int) (maxFrames : Int) : SessionM W (OperationResult BacktraceInfo) := do
  orReturn (← query s!"-stack-list-frames 0 {maxFrames - 1}") fun info => do
    let current ← read SessionRuntime.currentThreadId
    return .success
      { threadId := threadId <|> current, frames := asRecordList ((extractMiResultPayload info).get "stack") }

/-- Get the stack backtrace for a specific thread or the current thread. -/
def getBacktrace (threadId : Option Int) (maxFrames : Int := defaultMaxBacktraceFrames) :
    SessionM W (OperationResult BacktraceInfo) := do
  orReturn (← captureIf threadId.isSome) fun selection => do
    let (switched, selected) ←
      selectUnlessCurrent threadSelectCommand (selection.bind (·.threadId)) threadId false
    orReturn selected fun _ => do
      let result ← queryFrames threadId maxFrames
      concludeInspection .restoreIfChanged selection switched result

/-- The query for the selected frame, which the runtime takes over. -/
def queryFrameInfo : SessionM W (OperationResult FrameInfo) := do
  orReturn (← query "-stack-info-frame") fun info => do
    let frame := (extractMiResultPayload info).get "frame"
    let level ← narrow (readFrameLevel frame)
    update (·.markFrameSelected level)
    return .success { frame := asOptionalMapping frame }

/-- Get information about the current stack frame or an overridden context. -/
def getFrameInfo (threadId frame : Option Int) : SessionM W (OperationResult FrameInfo) :=
  inspecting .restoreAlways (threadId.isSome || frame.isSome) threadId frame fun _ => queryFrameInfo

end Session
end GdbMcp
