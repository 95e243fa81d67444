import GdbMcp.InspectionSelection

/-! Disassembly of a code location. -/

namespace GdbMcp

/-- Structured disassembly record. -/
structure DisassemblyInstruction where
  address : String
  instruction : String
  opcodes : Option String := none
  function : Option String := none
  offset : Option Int := none
  file : Option String := none
  fullname : Option String := none
  line : Option Int := none
  isCurrent : Bool := false

/-- Structured disassembly response. -/
structure DisassemblyInfo where
  scope : CodeScope
  threadId : Option Int
  frame : Option Int
  function : Option String
  file : Option String
  fullname : Option String
  line : Option Int
  startAddress : Option String
  endAddress : Option String
  mixed : Bool
  instructions : List DisassemblyInstruction

/-- The location and the form of a disassembly; without a location it is the current context. -/
structure DisassembleArgs where
  threadId : Option Int := none
  frame : Option Int := none
  function : Option String := none
  address : Option String := none
  startAddress : Option String := none
  endAddress : Option String := none
  file : Option String := none
  line : Option Int := none
  instructionCount : Int := 32
  mixed : Bool := true

/-- Whether no code location is given. -/
def DisassembleArgs.isCurrent (a : DisassembleArgs) : Bool :=
  a.function.isNone && a.address.isNone && a.startAddress.isNone && a.endAddress.isNone && a.file.isNone &&
    a.line.isNone

/-- The location that the arguments name themselves. -/
def DisassembleArgs.location (a : DisassembleArgs) : OperationResult ResolvedCodeLocation :=
  match a with
  | { function := some function, .. } => .success { scope := .function, function := some function }
  | { address := some address, .. } => .success { scope := .address, address := some address }
  | { startAddress := some start, endAddress := some stop, .. } =>
    .success { scope := .addressRange, startAddress := some start, endAddress := some stop }
  | { file := some file, line := some line, .. } =>
    .success { scope := .fileLine, file := some file, fullname := some file, line := some line }
  | _ => .error "Invalid disassembly selector combination"

/-! ### The addresses in the output of `disassemble` -/

def isHexDigit (c : Char) : Bool :=
  ('0' ≤ c && c ≤ '9') || ('a' ≤ c && c ≤ 'f') || ('A' ≤ c && c ≤ 'F')

/-- The text behind a prefix. -/
def behindPrefix (text : String) (cs : List Char) : Option (List Char) :=
  if text.toList.isPrefixOf cs then some (cs.drop text.toList.length) else none

/-- A literal such as `0x1f` and the text behind it. -/
def hexLiteral (cs : List Char) : Option (List Char × List Char) :=
  match behindPrefix "0x" cs with
  | some rest =>
    let digits := rest.takeWhile isHexDigit
    if digits.isEmpty then none else some ('0' :: 'x' :: digits, rest.dropWhile isHexDigit)
  | none => none

/-- The address at the start of a line of instructions, with the number of characters up to it and the
mark behind it. -/
def instructionAddress (cs : List Char) : Option (List Char × Nat) := do
  let blanks := cs.dropWhile PyStr.isSpace
  let start := ((behindPrefix "=>" blanks).map (·.dropWhile PyStr.isSpace)).getD blanks
  let (address, rest) ← hexLiteral start
  let behind := rest.dropWhile PyStr.isSpace
  if behind.length < rest.length && behind.head? = some '<' then
    some (address, cs.length - behind.length + 1)
  else none

/-- The addresses of all lines. The scan goes on behind each match; `skip` counts the characters that
belong to the last one. -/
def instructionAddresses : Nat → Bool → List Char → List (List Char)
  | _, _, [] => []
  | skip + 1, _, c :: rest => instructionAddresses skip (c == '\n') rest
  | 0, lineStart, c :: rest =>
    match if lineStart then instructionAddress (c :: rest) else none with
    | some (address, length) => address :: instructionAddresses (length - 1) (c == '\n') rest
    | none => instructionAddresses 0 (c == '\n') rest

/-- `int(address, 16)` of an address literal. -/
def addressValue (address : List Char) : Nat := (PyStr.unsignedValue 16 address).getD 0

/-- The range from the first address up to behind the last one. -/
def addressRange (output : String) : Option (String × String) :=
  let addresses := (instructionAddresses 0 true output.toList).map addressValue
  match addresses.min?, addresses.max? with
  | some first, some last => some (PyStr.hex first, PyStr.hex (last + 1))
  | _, _ => none

/-! ### Instruction records -/

/-- Compare address strings while tolerating formatting differences. -/
def addressesEqual (left right : String) : Bool :=
  match PyStr.intAnyBase left, PyStr.intAnyBase right with
  | .ok l, .ok r => l == r
  | _, _ => left == right

/-- The source line that a group of instructions belongs to. -/
structure InstructionGroup where
  file : Option String := none
  fullname : Option String := none
  line : Option Int := none

/-- Normalize one MI disassembly instruction record. -/
def normalizeInstruction (currentAddress : Option String) (group : InstructionGroup) (payload : Value) :
    Except PyError (Option DisassemblyInstruction) :=
  match asTextOrNumber (payload.get "address"), asTextOrNumber (payload.get "inst") with
  | some address, some instruction => do
    let offset ← asInt (payload.get "offset")
    return some
      { address, instruction, offset
        function := textOr (asTextOrNumber (payload.get "func-name")) (asTextOrNumber (payload.get "func"))
        opcodes := asTextOrNumber (payload.get "opcodes")
        file := group.file
        fullname := group.fullname
        line := group.line
        isCurrent := currentAddress.any (addressesEqual address) }
  | _, _ => .ok none

def normalizeInstructions (currentAddress : Option String) (group : InstructionGroup) :
    List Value → Except PyError (List DisassemblyInstruction)
  | [] => .ok []
  | payload :: rest => do
    let record ← normalizeInstruction currentAddress group payload
    let records ← normalizeInstructions currentAddress group rest
    return record.toList ++ records

/-- The records of one entry: an instruction, or a source line with its instructions. -/
def normalizeEntry (currentAddress : Option String) (entry : Value) :
    Except PyError (List DisassemblyInstruction) :=
  match entry.get "line_asm_insn" with
  | .list nested => do
    let line ← asInt (entry.get "line")
    normalizeInstructions currentAddress
      { file := asTextOrNumber (entry.get "file"), fullname := asTextOrNumber (entry.get "fullname"), line } nested
  | _ => normalizeInstructions currentAddress {} [entry]

def normalizeEntries (currentAddress : Option String) :
    List Value → Except PyError (List DisassemblyInstruction)
  | [] => .ok []
  | entry :: rest => do
    let records ← normalizeEntry currentAddress entry
    let others ← normalizeEntries currentAddress rest
    return records ++ others

/-- Flatten MI disassembly payloads into stable instruction records. -/
def normalizeDisassemblyPayload (payload : Value) (currentAddress : Option String) :
    Except PyError (List DisassemblyInstruction) :=
  normalizeEntries currentAddress (asRecordList (payload.get "asm_insns"))

/-- The response for a location and its instructions. What the location leaves open is taken from the
instructions. -/
def disassemblyInfo (location : ResolvedCodeLocation) (mixed : Bool)
    (instructions : List DisassemblyInstruction) : DisassemblyInfo where
  scope := location.scope
  threadId := location.threadId
  frame := location.frame
  function := textOr location.function (instructions.findSome? (·.function))
  file := textOr location.file (instructions.findSome? (·.file))
  fullname := textOr location.fullname (instructions.findSome? (·.fullname))
  line := location.line.filter (· ≠ 0) <|> instructions.findSome? (·.line)
  startAddress := textOr location.startAddress (instructions.head?.map (·.address))
  endAddress := textOr location.endAddress (instructions.getLast?.map (·.address))
  mixed := mixed
  instructions := instructions

namespace Session

variable {W : Type} [Gdb W]

/-- Whether a feature is listed in the answer to `-list-features`. -/
def listsFeature (feature : String) : OperationResult CommandExecutionInfo → Bool
  | .success info _ =>
    match (extractMiResultPayload info).get "features" with
    | .list features => features.any fun | .str s => s == feature | _ => false
    | _ => false
  | .error .. => false

/-- Return whether this GDB supports `-data-disassemble -a`. -/
def supportsDisassembleA : SessionM W Bool := do
  match ← read SessionRuntime.disassembleASupported with
  | some cached => return cached
  | none => do
    let supported := listsFeature "data-disassemble-a-option" (← query "-list-features")
    update fun rt => { rt with disassembleASupported := some supported }
    return supported

/-- Return the range of the function that holds the target. -/
def wholeFunctionAddressRange (target : String) : SessionM W (OperationResult (String × String)) := do
  orReturn (← query ("disassemble " ++ target)) fun info =>
    match addressRange (info.output.getD "") with
    | some range => return .success range
    | none =>
      return .error s!"GDB returned no disassembly for {PyStr.repr target}" false [] "disassembly_unavailable"

/-- Build the command that disassembles the whole function containing the target. -/
def wholeFunctionCommand (target modeToken : String) : SessionM W (OperationResult String) := do
  if ← supportsDisassembleA then
    return .success s!"-data-disassemble -a {quoteMiString target} -- {modeToken}"
  else
    orReturn (← wholeFunctionAddressRange target) fun (start, stop) =>
      return .success s!"-data-disassemble -s {start} -e {stop} -- {modeToken}"

/-- Build one MI disassembly command for the resolved selector mode. -/
def buildDisassembleCommand (location : ResolvedCodeLocation) (instructionCount : Int) (mixed : Bool) :
    SessionM W (OperationResult String) :=
  let modeToken := if mixed then "1" else "0"
  let unbuildable := "Unable to build a disassembly command for the resolved selector"
  match location.scope with
  | .currentContext | .fileLine =>
    match textOr location.fullname location.file, location.line, location.address with
    | some file, some line, _ =>
      return .success s!"-data-disassemble -f {quoteMiString file} -l {line} -n {instructionCount} -- {modeToken}"
    | _, _, some address => wholeFunctionCommand address modeToken
    | _, _, none =>
      return .error "Unable to resolve a current source line or address for disassembly"
  | .function => location.function.elim (pure (.error unbuildable)) (wholeFunctionCommand · modeToken)
  | .address => location.address.elim (pure (.error unbuildable)) (wholeFunctionCommand · modeToken)
  | .addressRange =>
    match location.startAddress, location.endAddress with
    | some start, some stop =>
      return .success s!"-data-disassemble -s {quoteMiString start} -e {quoteMiString stop} -- {modeToken}"
    | _, _ => return .error unbuildable
  | .fileRange => return .error unbuildable

/-- The queries for the instructions at a location. -/
def queryDisassembly (a : DisassembleArgs) (location : ResolvedCodeLocation) :
    SessionM W (OperationResult DisassemblyInfo) := do
  orReturn (← buildDisassembleCommand location a.instructionCount a.mixed) fun command => do
    orReturn (← query command) fun info => do
      let instructions ← narrow (normalizeDisassemblyPayload (extractMiResultPayload info) location.address)
      return .success (disassemblyInfo location a.mixed (sliceTo instructions a.instructionCount))

/-- The location of the current context. -/
def currentLocation (a : DisassembleArgs) (selection : Option SelectionSnapshot) :
    SessionM W ResolvedCodeLocation := do
  let rt ← read id
  return { scope := .currentContext
           threadId := a.threadId <|> selection.elim rt.currentThreadId (·.threadId)
           frame := a.frame <|> selection.elim rt.currentFrame (·.frameNumber)
           address := some "$pc" }

/-- Return structured disassembly for one resolved code location. -/
def disassemble (a : DisassembleArgs) : SessionM W (OperationResult DisassemblyInfo) :=
  if a.isCurrent then
    inspecting .restoreAlways (a.threadId.isSome || a.frame.isSome) a.threadId a.frame fun selection => do
      let location ← currentLocation a selection
      queryDisassembly a location
  else orReturn a.location (queryDisassembly a)

end Session
end GdbMcp
