import GdbMcp.InspectionDisassembly

/-! Source context of a code location. -/

namespace GdbMcp

/-- The file system, as the source lookup sees it. -/
structure Files where
  /-- `str(Path(file).expanduser())`. -/
  expanduser : String → Except PyError String
  /-- `path.read_text()`, or `None` where `path.exists()` is false. -/
  readText : String → Option (Except PyError String)
  /-- `str(path.resolve())`. -/
  resolve : String → String

/-- Structured source-context line record. -/
structure SourceLine where
  lineNumber : Int
  text : String
  isCurrent : Bool := false

/-- A concrete source-file line window ready for serialization. -/
structure ResolvedSourceWindow where
  file : String
  fullname : Option String
  startLine : Int
  endLine : Int
  lines : List SourceLine

/-- Structured source-context response. -/
structure SourceContextInfo where
  scope : CodeScope
  threadId : Option Int
  frame : Option Int
  function : Option String
  address : Option String
  file : String
  fullname : Option String
  line : Option Int
  startLine : Int
  endLine : Int
  lines : List SourceLine

/-- The location of a source lookup; without a location it is the current context. -/
structure SourceContextArgs where
  threadId : Option Int := none
  frame : Option Int := none
  function : Option String := none
  address : Option String := none
  file : Option String := none
  line : Option Int := none
  startLine : Option Int := none
  endLine : Option Int := none
  contextBefore : Int := 5
  contextAfter : Int := 5

/-- Whether no code location is given. -/
def SourceContextArgs.isCurrent (a : SourceContextArgs) : Bool :=
  a.function.isNone && a.address.isNone && a.file.isNone && a.line.isNone && a.startLine.isNone &&
    a.endLine.isNone

/-! ### The output of `info line` -/

/-- What `info line` says of a location. -/
structure InfoLine where
  line : String
  file : String
  startAddress : String
  endAddress : String

/-- `(?: <[^>]+>)?`: the text behind a symbol in angle brackets. -/
def behindSymbol (cs : List Char) : Option (List Char) := do
  let symbol ← behindPrefix " <" cs
  let rest ← behindPrefix ">" (symbol.dropWhile (· ≠ '>'))
  if symbol.head? = some '>' then none else some rest

/-- The end address behind the start address and its symbol. -/
def infoLineEnd (cs : List Char) : Option (List Char) := do
  let rest ← behindPrefix " and ends at " cs
  let (stop, _) ← hexLiteral rest
  return stop

/-- The two addresses behind the file name. -/
def infoLineAddresses (cs : List Char) : Option (String × String) := do
  let rest ← behindPrefix "\" starts at address " cs
  let (start, rest) ← hexLiteral rest
  let stop ← ((behindSymbol rest).bind infoLineEnd) <|> infoLineEnd rest
  return (String.ofList start, String.ofList stop)

/-- The longest file name, read so far into `file`, behind which the addresses follow. -/
def infoLineFile (line : String) : List Char → List Char → Option InfoLine
  | _, [] => none
  | file, c :: rest =>
    let here := if file.isEmpty then none else
      (infoLineAddresses (c :: rest)).map fun (start, stop) =>
        { line, file := String.ofList file.reverse, startAddress := start, endAddress := stop }
    (if c = '\n' then none else infoLineFile line (c :: file) rest) <|> here

/-- The pattern at the start of one line. -/
def infoLineAt (cs : List Char) : Option InfoLine := do
  let digits ← behindPrefix "Line " cs
  let number := digits.takeWhile fun c => (PyStr.decimalValue c).isSome
  let rest ← behindPrefix " of \"" (digits.dropWhile fun c => (PyStr.decimalValue c).isSome)
  if number.isEmpty then none else infoLineFile (String.ofList number) [] rest

/-- The first line that the pattern matches. -/
def searchInfoLine : Bool → List Char → Option InfoLine
  | _, [] => none
  | lineStart, c :: rest =>
    (if lineStart then infoLineAt (c :: rest) else none) <|> searchInfoLine (c == '\n') rest

/-! ### The window of lines -/

/-- `lines[i]`. -/
def lineAt (lines : List String) (i : Int) : Except PyError String :=
  match if 0 ≤ i then lines[i.toNat]? else if lines.length < i.natAbs then none else lines[lines.length - i.natAbs]? with
  | some text => .ok text
  | none => .error (.other "list index out of range")

/-- The records of the lines of a window, from the one with the given number on. -/
def windowLines (sourceLines : List String) (currentLine : Option Int) (first : Int) :
    Nat → Except PyError (List SourceLine)
  | 0 => .ok []
  | count + 1 => do
    let text ← lineAt sourceLines (first - 1)
    let rest ← windowLines sourceLines currentLine (first + 1) count
    return { lineNumber := first, text, isCurrent := currentLine = some first } :: rest

/-- The first and the last line wanted, and the line of the location if the window lies around it. -/
def windowBounds (a : SourceContextArgs) (line : Option Int) : Option (Int × Int × Option Int) :=
  match a.startLine, a.endLine, line with
  | some start, some stop, _ => some (start, stop, none)
  | _, _, some current => some (max 1 (current - a.contextBefore), current + a.contextAfter, some current)
  | _, _, none => none

namespace Session

variable {W : Type} [Gdb W]

/-- Resolve the current frame into a normalized code location. -/
def currentFrameLocation (threadId frame : Option Int) (selection : Option SelectionSnapshot) :
    SessionM W (OperationResult ResolvedCodeLocation) := do
  orReturn (← query "-stack-info-frame") fun info => do
    let payload := extractMiResultPayload info
    let details := payload.get "frame"
    if !payload.isDict then return .error "GDB returned malformed frame data"
    else if !details.isDict then return .error "GDB did not return frame data"
    else
      let current ← read SessionRuntime.currentThreadId
      let level ← narrow (if frame.isSome then .ok frame else asInt (details.get "level"))
      let line ← narrow (asInt (details.get "line"))
      return .success
        { scope := .currentContext
          threadId := threadId <|> selection.elim current (·.threadId)
          frame := level
          function := asTextOrNumber (details.get "func")
          address := asTextOrNumber (details.get "addr")
          file := asTextOrNumber (details.get "file")
          fullname := asTextOrNumber (details.get "fullname")
          line }

/-- Resolve `info line ...` output into a normalized code location. -/
def resolveInfoLineLocation (command : String) (scope : CodeScope) (function address : Option String) :
    SessionM W (OperationResult ResolvedCodeLocation) := do
  orReturn (← query command) fun info => do
    match searchInfoLine true (info.output.getD "").toList with
    | none => return .error s!"GDB did not return source information for {PyStr.repr command}"
    | some found =>
      let line ← narrow (PyStr.int 10 found.line)
      return .success
        { scope, function, address, file := some found.file, fullname := some found.file, line := some line
          startAddress := some found.startAddress, endAddress := some found.endAddress }

/-- Resolve a location that the arguments name themselves. -/
def resolveSourceLocation (a : SourceContextArgs) : SessionM W (OperationResult ResolvedCodeLocation) :=
  match a with
  | { function := some function, .. } =>
    resolveInfoLineLocation ("info line " ++ function) .function (some function) none
  | { address := some address, .. } =>
    resolveInfoLineLocation ("info line *" ++ address) .address none (some address)
  | { file := some file, line := some line, .. } =>
    return .success { scope := .fileLine, file := some file, fullname := some file, line := some line }
  | { file := some file, startLine := some _, endLine := some _, .. } =>
    return .success { scope := .fileRange, file := some file, fullname := some file }
  | _ => return .error "Invalid source context selector combination"

/-- The window of an existing file. -/
def readWindow (files : Files) (a : SourceContextArgs) (location : ResolvedCodeLocation) (selector path : String)
    (text : String) : SessionM W (OperationResult ResolvedSourceWindow) := do
  let sourceLines := PyStr.splitlines text
  match windowBounds a location.line with
  | none => return .error "Resolved source location has no source line"
  | some (first, wanted, current) =>
    if first > sourceLines.length then return .error s!"Source line {first} is outside {selector}"
    else
      let last := min wanted sourceLines.length
      let lines ← narrow (windowLines sourceLines current first (last + 1 - first).toNat)
      return .success
        { file := (textOr location.file (some path)).getD path
          fullname := textOr location.fullname (some (files.resolve path))
          startLine := first, endLine := last, lines }

/-- Read one source window from disk for the resolved location. -/
def readSourceContext (files : Files) (a : SourceContextArgs) (location : ResolvedCodeLocation) :
    SessionM W (OperationResult ResolvedSourceWindow) := do
  match textOr location.fullname location.file with
  | none => return .error "Resolved source location has no file path"
  | some selector =>
    let path ← narrow (files.expanduser selector)
    match files.readText path with
    | none => return .error s!"Source file not found: {selector}"
    | some content =>
      let text ← narrow content
      readWindow files a location selector path text

/-- The lines of a resolved location. -/
def querySourceContext (files : Files) (a : SourceContextArgs)
    (located : SessionM W (OperationResult ResolvedCodeLocation)) :
    SessionM W (OperationResult SourceContextInfo) := do
  orReturn (← located) fun location => do
    orReturn (← readSourceContext files a location) fun window =>
      return .success
        { scope := location.scope, threadId := location.threadId, frame := location.frame
          function := location.function, address := location.address, line := location.line
          file := window.file, fullname := window.fullname
          startLine := window.startLine, endLine := window.endLine, lines := window.lines }

/-- Return structured source lines for one resolved code location. -/
def getSourceContext (files : Files) (a : SourceContextArgs) : SessionM W (OperationResult SourceContextInfo) :=
  if a.isCurrent then
    inspecting .restoreAlways (a.threadId.isSome || a.frame.isSome) a.threadId a.frame fun selection =>
      querySourceContext files a (currentFrameLocation a.threadId a.frame selection)
  else querySourceContext files a (resolveSourceLocation a)

end Session
end GdbMcp
