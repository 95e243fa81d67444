import GdbMcp.ClientFlags

/-! The flags of the tools for breakpoints and for inspection. What they take depends on the kind of the breakpoint and of
the location as well. -/

namespace GdbMcp

/-! ### Breakpoints -/

def BreakpointKind.text : BreakpointKind → String
  | .code => "code"
  | .watch => "watch"
  | .catch => "catch"

inductive BreakpointAccess where
  | write | read | access
  deriving DecidableEq, Repr

def BreakpointAccess.text : BreakpointAccess → String
  | .write => "write"
  | .read => "read"
  | .access => "access"

inductive BreakpointEvent where
  | throw | rethrow | «catch» | exec | fork | vfork | load | unload | signal | syscall
  deriving DecidableEq, Repr

def BreakpointEvent.text : BreakpointEvent → String
  | .throw => "throw"
  | .rethrow => "rethrow"
  | .catch => "catch"
  | .exec => "exec"
  | .fork => "fork"
  | .vfork => "vfork"
  | .load => "load"
  | .unload => "unload"
  | .signal => "signal"
  | .syscall => "syscall"

inductive BreakpointQueryAction where
  | list | get
  deriving DecidableEq, Repr

def BreakpointQueryAction.text : BreakpointQueryAction → String
  | .list => "list"
  | .get => "get"

/-- Parsed input for `gdb_breakpoint_query`. -/
structure BreakpointQueryInput where
  action : BreakpointQueryAction
  sessionId : Option Int := none
  number : Option Int := none
  kinds : List BreakpointKind := []
  enabled : Option Bool := none

namespace BreakpointQueryInput

variable (typedInput : BreakpointQueryInput)

def validateAction : Except CliUsageError (List String) :=
  match typedInput.action with
  | .list => return invalidFlags [(typedInput.number.isSome, "--number")]
  | .get => do
    requireFlag typedInput.number.isSome "--number" "--action get"
    return invalidFlags [(!typedInput.kinds.isEmpty, "--kind"), (typedInput.enabled.isSome, "--enabled")]

def validate : Except CliUsageError Unit := do
  raiseInvalidActionFlags typedInput.action.text (← typedInput.validateAction)

def query : Payload :=
  match typedInput.action with
  | .list => givenFields [
      ("kinds", .ofItems (fun kind => .str (BreakpointKind.text kind)) typedInput.kinds),
      ("enabled", .ofOption .bool typedInput.enabled)]
  | .get => givenFields [("number", .ofOption .int typedInput.number)]

end BreakpointQueryInput

def buildBreakpointQuery (typedInput : BreakpointQueryInput) : Except CliUsageError Payload := do
  typedInput.validate
  return toolFields typedInput.sessionId typedInput.action.text ++ givenFields [("query", .ofFields typedInput.query)]

inductive BreakpointManageAction where
  | create | update | delete | enable | disable
  deriving DecidableEq, Repr

def BreakpointManageAction.text : BreakpointManageAction → String
  | .create => "create"
  | .update => "update"
  | .delete => "delete"
  | .enable => "enable"
  | .disable => "disable"

/-- The flags of `gdb_breakpoint_manage`. -/
structure BreakpointManageNamespace where
  action : BreakpointManageAction
  sessionId : Option Int := none
  breakpointKind : Option BreakpointKind := none
  location : Option String := none
  expression : Option String := none
  access : Option BreakpointAccess := none
  event : Option BreakpointEvent := none
  argument : Option String := none
  temporary : Option Bool := none
  number : Option Int := none
  condition : Option String := none
  clearCondition : Option Bool := none

/-- Create payload for `gdb_breakpoint_manage --action create`. -/
structure BreakpointCreateInput where
  kind : BreakpointKind
  location : Option String
  expression : Option String
  access : Option BreakpointAccess
  event : Option BreakpointEvent
  argument : Option String
  condition : Option String
  temporary : Bool
  kindExplicit : Bool := false
  temporaryExplicit : Bool := false

/-- Parsed input for `gdb_breakpoint_manage`. -/
structure BreakpointManageInput where
  action : BreakpointManageAction
  sessionId : Option Int
  breakpoint : Option BreakpointCreateInput
  number : Option Int
  condition : Option String
  clearCondition : Option Bool

/-- Parse one breakpoint-manage namespace into a typed input object. -/
def parseBreakpointManageInput (args : BreakpointManageNamespace) : BreakpointManageInput :=
  let hasBreakpointFields := args.breakpointKind.isSome || args.location.isSome || args.expression.isSome ||
    args.access.isSome || args.event.isSome || args.argument.isSome || args.temporary.isSome
  let breakpoint : BreakpointCreateInput := {
    kind := args.breakpointKind.getD .code
    location := args.location
    expression := args.expression
    access := args.access
    event := args.event
    argument := args.argument
    condition := args.condition
    temporary := args.temporary.getD false
    kindExplicit := args.breakpointKind.isSome
    temporaryExplicit := args.temporary.isSome }
  { action := args.action, sessionId := args.sessionId
    breakpoint := if args.action = .create ∨ hasBreakpointFields then some breakpoint else none
    number := args.number, condition := args.condition, clearCondition := args.clearCondition }

namespace BreakpointCreateInput

variable (typedInput : BreakpointCreateInput)

def validate : Except CliUsageError Unit :=
  match typedInput.kind with
  | .code => do
    requireFlag typedInput.location.isSome "--location" "--breakpoint-kind code"
    raiseInvalidFlags "--breakpoint-kind code" <| invalidFlags [
      (typedInput.expression.isSome, "--expression"),
      (typedInput.access.isSome, "--access"),
      (typedInput.event.isSome, "--event"),
      (typedInput.argument.isSome, "--argument")]
  | .watch => do
    requireFlag typedInput.expression.isSome "--expression" "--breakpoint-kind watch"
    raiseInvalidFlags "--breakpoint-kind watch" <| invalidFlags [
      (typedInput.location.isSome, "--location"),
      (typedInput.condition.isSome, "--condition"),
      (typedInput.temporaryExplicit, "--temporary"),
      (typedInput.event.isSome, "--event"),
      (typedInput.argument.isSome, "--argument")]
  | .catch => do
    requireFlag typedInput.event.isSome "--event" "--breakpoint-kind catch"
    raiseInvalidFlags "--breakpoint-kind catch" <| invalidFlags [
      (typedInput.location.isSome, "--location"),
      (typedInput.condition.isSome, "--condition"),
      (typedInput.expression.isSome, "--expression"),
      (typedInput.access.isSome, "--access")]

def payload : Payload :=
  [("kind", .str typedInput.kind.text)] ++
    match typedInput.kind with
    | .code => givenFields [
        ("location", .ofOption .str typedInput.location),
        ("condition", .ofOption .str typedInput.condition),
        ("temporary", .ofTrue typedInput.temporary)]
    | .watch => givenFields [
        ("expression", .ofOption .str typedInput.expression),
        ("access", .ofOption (fun value => .str (BreakpointAccess.text value)) typedInput.access)]
    | .catch => givenFields [
        ("event", .ofOption (fun event => .str (BreakpointEvent.text event)) typedInput.event),
        ("argument", .ofOption .str typedInput.argument),
        ("temporary", .ofTrue typedInput.temporary)]

end BreakpointCreateInput

namespace BreakpointManageInput

variable (typedInput : BreakpointManageInput)

def validateCreate : Except CliUsageError Unit := do
  raiseInvalidActionFlags "create" <| invalidFlags [
    (typedInput.number.isSome, "--number"), (typedInput.clearCondition.isSome, "--clear-condition")]
  match typedInput.breakpoint with
  | none => .error ⟨"--breakpoint-kind required with --action create"⟩
  | some breakpoint =>
    requireFlag breakpoint.kindExplicit "--breakpoint-kind" "--action create"
    breakpoint.validate

/-- The flags of a breakpoint that is to be created. -/
def breakpointChecks : List (Bool × String) :=
  match typedInput.breakpoint with
  | none => []
  | some breakpoint => [
      (breakpoint.kindExplicit, "--breakpoint-kind"),
      (breakpoint.location.isSome, "--location"),
      (breakpoint.expression.isSome, "--expression"),
      (breakpoint.access.isSome, "--access"),
      (breakpoint.event.isSome, "--event"),
      (breakpoint.argument.isSome, "--argument"),
      (breakpoint.temporaryExplicit, "--temporary")]

def conditionChecks : List (Bool × String) :=
  [(typedInput.condition.isSome, "--condition"), (typedInput.clearCondition.isSome, "--clear-condition")]

def validate : Except CliUsageError Unit :=
  match typedInput.action with
  | .create => typedInput.validateCreate
  | .update => do
    raiseInvalidActionFlags "update" (invalidFlags typedInput.breakpointChecks)
    requireFlag typedInput.number.isSome "--number" "--action update"
    requireFlag (typedInput.condition.isSome || typedInput.clearCondition == some true)
      "--condition or --clear-condition" "--action update"
  | action => do
    raiseInvalidActionFlags action.text (invalidFlags (typedInput.breakpointChecks ++ typedInput.conditionChecks))
    requireFlag typedInput.number.isSome "--number" s!"--action {action.text}"

def payload : Payload :=
  toolFields typedInput.sessionId typedInput.action.text ++
    match typedInput.action with
    | .create => givenFields [("breakpoint", .ofOption (fun breakpoint => .dict breakpoint.payload) typedInput.breakpoint)]
    | .update =>
      givenFields [("breakpoint", .ofFields (givenFields [("number", .ofOption .int typedInput.number)]))] ++
        [("changes", .dict (givenFields [
          ("condition", .ofOption .str typedInput.condition),
          ("clear_condition", .ofOption .bool typedInput.clearCondition)]))]
    | _ => givenFields [("breakpoint", .ofFields (givenFields [("number", .ofOption .int typedInput.number)]))]

end BreakpointManageInput

def buildBreakpointManage (typedInput : BreakpointManageInput) : Except CliUsageError Payload := do
  typedInput.validate
  return typedInput.payload

/-! ### Inspection -/

inductive LocationKind where
  | current | function | address | addressRange | fileLine | fileRange
  deriving DecidableEq, Repr

def LocationKind.text : LocationKind → String
  | .current => "current"
  | .function => "function"
  | .address => "address"
  | .addressRange => "address_range"
  | .fileLine => "file_line"
  | .fileRange => "file_range"

/-- The kind as it is written on the command line. -/
def LocationKind.choice : LocationKind → String
  | .current => "current"
  | .function => "function"
  | .address => "address"
  | .addressRange => "address-range"
  | .fileLine => "file-line"
  | .fileRange => "file-range"

inductive InspectQueryAction where
  | evaluate | variables | registers | memory | disassembly | source
  deriving DecidableEq, Repr

def InspectQueryAction.text : InspectQueryAction → String
  | .evaluate => "evaluate"
  | .variables => "variables"
  | .registers => "registers"
  | .memory => "memory"
  | .disassembly => "disassembly"
  | .source => "source"

inductive RegisterValueFormat where
  | hex | natural
  deriving DecidableEq, Repr

def RegisterValueFormat.text : RegisterValueFormat → String
  | .hex => "hex"
  | .natural => "natural"

inductive DisassemblyMode where
  | assembly | mixed
  deriving DecidableEq, Repr

def DisassemblyMode.text : DisassemblyMode → String
  | .assembly => "assembly"
  | .mixed => "mixed"

/-- The flags of `gdb_inspect_query`. -/
structure InspectQueryNamespace where
  action : InspectQueryAction
  sessionId : Option Int := none
  threadId : Option Int := none
  frame : Option Int := none
  expression : Option String := none
  registerNumbers : List Int := []
  registerNames : List String := []
  includeVectorRegisters : Option Bool := none
  maxRegisters : Option Int := none
  valueFormat : Option RegisterValueFormat := none
  address : Option String := none
  count : Option Int := none
  offset : Option Int := none
  locationKind : Option LocationKind := none
  function : Option String := none
  startAddress : Option String := none
  endAddress : Option String := none
  file : Option String := none
  line : Option Int := none
  startLine : Option Int := none
  endLine : Option Int := none
  instructionCount : Option Int := none
  mode : Option DisassemblyMode := none
  contextBefore : Option Int := none
  contextAfter : Option Int := none

/-- Typed source/disassembly location selector. -/
structure LocationInput where
  kind : LocationKind
  function : Option String := none
  address : Option String := none
  startAddress : Option String := none
  endAddress : Option String := none
  file : Option String := none
  line : Option Int := none
  startLine : Option Int := none
  endLine : Option Int := none

/-- Parsed input for `gdb_inspect_query`. -/
structure InspectQueryInput where
  action : InspectQueryAction
  sessionId : Option Int
  threadId : Option Int
  frame : Option Int
  expression : Option String
  registerNumbers : List Int
  registerNames : List String
  includeVectorRegisters : Option Bool
  maxRegisters : Option Int
  valueFormat : Option RegisterValueFormat
  memoryAddress : Option String
  count : Option Int
  offset : Option Int
  location : Option LocationInput
  instructionCount : Option Int
  mode : Option DisassemblyMode
  contextBefore : Option Int
  contextAfter : Option Int
  locationFields : List String

def InspectQueryNamespace.location (args : InspectQueryNamespace) : Option LocationInput :=
  args.locationKind.map fun kind => {
    kind, function := args.function, address := args.address, startAddress := args.startAddress
    endAddress := args.endAddress, file := args.file, line := args.line, startLine := args.startLine
    endLine := args.endLine }

/-- The fields that say something about a location. -/
def InspectQueryNamespace.locationChecks (args : InspectQueryNamespace) : List (Bool × String) := [
  (args.locationKind.isSome, "location_kind"),
  (args.function.isSome, "function"),
  (args.address.isSome && args.action != .memory, "address"),
  (args.startAddress.isSome, "start_address"),
  (args.endAddress.isSome, "end_address"),
  (args.file.isSome, "file"),
  (args.line.isSome, "line"),
  (args.startLine.isSome, "start_line"),
  (args.endLine.isSome, "end_line")]

/-- Parse one inspect-query namespace into a typed input object. -/
def parseInspectQueryInput (args : InspectQueryNamespace) : InspectQueryInput :=
  let locationFields := invalidFlags args.locationChecks
  let location :=
    match args.location with
    | some location => some location
    -- bare `list` and `disasm` operate on the current location
    | none =>
      if (args.action = .source ∨ args.action = .disassembly) ∧ locationFields = [] then some { kind := .current }
      else none
  { action := args.action, sessionId := args.sessionId, threadId := args.threadId, frame := args.frame
    expression := args.expression, registerNumbers := args.registerNumbers, registerNames := args.registerNames
    includeVectorRegisters := args.includeVectorRegisters, maxRegisters := args.maxRegisters
    valueFormat := args.valueFormat
    memoryAddress := if args.action = .memory then args.address else none
    count := args.count, offset := args.offset, location, instructionCount := args.instructionCount, mode := args.mode
    contextBefore := args.contextBefore, contextAfter := args.contextAfter, locationFields }

namespace LocationInput

variable (typedInput : LocationInput)

def validate : Except CliUsageError Unit :=
  let kind := s!"--location-kind {typedInput.kind.choice}"
  let functionCheck := (typedInput.function.isSome, "--function")
  let addressCheck := (typedInput.address.isSome, "--address")
  let startAddressCheck := (typedInput.startAddress.isSome, "--start-address")
  let endAddressCheck := (typedInput.endAddress.isSome, "--end-address")
  let fileCheck := (typedInput.file.isSome, "--file")
  let lineCheck := (typedInput.line.isSome, "--line")
  let startLineCheck := (typedInput.startLine.isSome, "--start-line")
  let endLineCheck := (typedInput.endLine.isSome, "--end-line")
  let require := fun check : Bool × String => requireFlag check.1 check.2 kind
  let refuse := fun checks => raiseInvalidFlags kind (invalidFlags checks)
  match typedInput.kind with
  | .current =>
    refuse [functionCheck, addressCheck, startAddressCheck, endAddressCheck, fileCheck, lineCheck, startLineCheck,
      endLineCheck]
  | .function => do
    require functionCheck
    refuse [addressCheck, startAddressCheck, endAddressCheck, fileCheck, lineCheck, startLineCheck, endLineCheck]
  | .address => do
    require addressCheck
    refuse [functionCheck, startAddressCheck, endAddressCheck, fileCheck, lineCheck, startLineCheck, endLineCheck]
  | .addressRange => do
    require startAddressCheck
    require endAddressCheck
    refuse [functionCheck, addressCheck, fileCheck, lineCheck, startLineCheck, endLineCheck]
  | .fileLine => do
    require fileCheck
    require lineCheck
    refuse [functionCheck, addressCheck, startAddressCheck, endAddressCheck, startLineCheck, endLineCheck]
  | .fileRange => do
    require fileCheck
    require startLineCheck
    require endLineCheck
    refuse [functionCheck, addressCheck, startAddressCheck, endAddressCheck, lineCheck]

def payload : Payload :=
  [("kind", .str typedInput.kind.text)] ++
    match typedInput.kind with
    | .current => []
    | .function => [("function", .ofOption .str typedInput.function)]
    | .address => [("address", .ofOption .str typedInput.address)]
    | .addressRange => [
        ("start_address", .ofOption .str typedInput.startAddress), ("end_address", .ofOption .str typedInput.endAddress)]
    | .fileLine => [("file", .ofOption .str typedInput.file), ("line", .ofOption .int typedInput.line)]
    | .fileRange => [
        ("file", .ofOption .str typedInput.file),
        ("start_line", .ofOption .int typedInput.startLine),
        ("end_line", .ofOption .int typedInput.endLine)]

end LocationInput

def validateLocationInput (typedInput : Option LocationInput) (context : String) : Except CliUsageError Unit :=
  match typedInput with
  | none => .error ⟨s!"--location-kind required with {context}"⟩
  | some location => location.validate

namespace InspectQueryInput

variable (typedInput : InspectQueryInput)

def expressionChecks : List (Bool × String) := [(typedInput.expression.isSome, "--expression")]

def registerChecks : List (Bool × String) := [
  (!typedInput.registerNumbers.isEmpty, "--register-number"),
  (!typedInput.registerNames.isEmpty, "--register-name"),
  (typedInput.includeVectorRegisters.isSome, "--include-vector-registers"),
  (typedInput.maxRegisters.isSome, "--max-registers"),
  (typedInput.valueFormat.isSome, "--value-format")]

def memoryChecks : List (Bool × String) := [
  (typedInput.memoryAddress.isSome, "--address"),
  (typedInput.count.isSome, "--count"),
  (typedInput.offset.isSome, "--offset")]

def disassemblyChecks : List (Bool × String) := [
  (typedInput.instructionCount.isSome, "--instruction-count"), (typedInput.mode.isSome, "--mode")]

def sourceChecks : List (Bool × String) := [
  (typedInput.contextBefore.isSome, "--context-before"), (typedInput.contextAfter.isSome, "--context-after")]

def validate : Except CliUsageError Unit :=
  let refuse := raiseInvalidActionFlags typedInput.action.text
  let locationFlags := typedInput.locationFields.map formatCliFlag
  match typedInput.action with
  | .evaluate => do
    requireFlag typedInput.expression.isSome "--expression" "--action evaluate"
    refuse <| invalidFlags typedInput.registerChecks ++ invalidFlags typedInput.memoryChecks ++
      locationFlags ++ invalidFlags typedInput.disassemblyChecks ++ invalidFlags typedInput.sourceChecks
  | .variables =>
    refuse <| invalidFlags typedInput.expressionChecks ++ invalidFlags typedInput.registerChecks ++
      invalidFlags typedInput.memoryChecks ++ locationFlags ++ invalidFlags typedInput.disassemblyChecks ++
      invalidFlags typedInput.sourceChecks
  | .registers =>
    refuse <| invalidFlags typedInput.expressionChecks ++ invalidFlags typedInput.memoryChecks ++
      locationFlags ++ invalidFlags typedInput.disassemblyChecks ++ invalidFlags typedInput.sourceChecks
  | .memory => do
    requireFlag typedInput.memoryAddress.isSome "--address" "--action memory"
    requireFlag typedInput.count.isSome "--count" "--action memory"
    refuse <| invalidFlags [(typedInput.threadId.isSome, "--thread-id"), (typedInput.frame.isSome, "--frame")] ++
      invalidFlags typedInput.expressionChecks ++ invalidFlags typedInput.registerChecks ++ locationFlags ++
      invalidFlags typedInput.disassemblyChecks ++ invalidFlags typedInput.sourceChecks
  | .disassembly => do
    refuse <| invalidFlags typedInput.expressionChecks ++ invalidFlags typedInput.registerChecks ++
      invalidFlags typedInput.memoryChecks ++ invalidFlags typedInput.sourceChecks
    validateLocationInput typedInput.location "--action disassembly"
  | .source => do
    refuse <| invalidFlags typedInput.expressionChecks ++ invalidFlags typedInput.registerChecks ++
      invalidFlags typedInput.memoryChecks ++ invalidFlags typedInput.disassemblyChecks
    validateLocationInput typedInput.location "--action source"

def contextFields : Payload :=
  givenFields [("thread_id", .ofOption .int typedInput.threadId), ("frame", .ofOption .int typedInput.frame)]

def contextField : String × Value := ("context", .ofFields typedInput.contextFields)

def locationField : String × Value :=
  ("location", .ofOption (fun location => .dict (LocationInput.payload location)) typedInput.location)

def query : Payload :=
  match typedInput.action with
  | .evaluate => givenFields [typedInput.contextField, ("expression", .ofOption .str typedInput.expression)]
  | .variables => givenFields [typedInput.contextField]
  | .registers => givenFields [
      typedInput.contextField,
      ("register_numbers", .ofItems .int typedInput.registerNumbers),
      ("register_names", .ofItems .str typedInput.registerNames),
      ("include_vector_registers", .ofOption .bool typedInput.includeVectorRegisters),
      ("max_registers", .ofOption .int typedInput.maxRegisters),
      ("value_format", .ofOption (fun format => .str (RegisterValueFormat.text format)) typedInput.valueFormat)]
  | .memory => givenFields [
      ("address", .ofOption .str typedInput.memoryAddress),
      ("count", .ofOption .int typedInput.count),
      ("offset", .ofOption .int typedInput.offset)]
  | .disassembly => givenFields [
      typedInput.contextField,
      typedInput.locationField,
      ("instruction_count", .ofOption .int typedInput.instructionCount),
      ("mode", .ofOption (fun mode => .str (DisassemblyMode.text mode)) typedInput.mode)]
  | .source => givenFields [
      typedInput.contextField,
      typedInput.locationField,
      ("context_before", .ofOption .int typedInput.contextBefore),
      ("context_after", .ofOption .int typedInput.contextAfter)]

end InspectQueryInput

def buildInspectQuery (typedInput : InspectQueryInput) : Except CliUsageError Payload := do
  typedInput.validate
  return toolFields typedInput.sessionId typedInput.action.text ++ givenFields [("query", .ofFields typedInput.query)]

end GdbMcp
