import GdbMcp.BaseRegex
import GdbMcp.BaseShell
import GdbMcp.WorkflowBatch

/-! The requests that start sessions, directly and in a campaign: the checks of their arguments and the parameters
that each passes to the start of a session. -/

namespace GdbMcp

/-! ### Arguments of the debugger -/

def gdbArgConflictingOptions : List (String × String) :=
  [("-i", "would replace the MI interpreter this server speaks"),
    ("--interpreter", "would replace the MI interpreter this server speaks"),
    ("--args", "conflicts with the 'program' and 'args' parameters"),
    ("-c", "conflicts with the 'core' parameter"),
    ("--core", "conflicts with the 'core' parameter"),
    ("-p", "conflicts with gdb_attach_process"),
    ("--pid", "conflicts with gdb_attach_process"),
    ("--attach", "conflicts with gdb_attach_process")]

def gdbArgConflictingPrefixes : List String := ["--interpreter=", "--core=", "--pid="]

/-- The options whose operand may be a bare word. -/
def gdbArgValueOptions : List String :=
  ["-iex", "--init-eval-command", "-ix", "--init-command", "-ex", "--eval-command", "-x", "--command", "-d",
    "--directory", "-cd", "--cwd", "-s", "-symbols", "--symbols", "-tty", "--tty"]

/-- The text in front of the first `=`. -/
def optionName (entry : String) : String := String.ofList (entry.toList.takeWhile (· != '='))

def gdbArgProblem (index : Nat) (previous entry : String) : Option String :=
  if entry = "" then some s!"gdb_args[{index}] must not be empty"
  else
    match gdbArgConflictingOptions.lookup entry with
    | some reason => some s!"gdb_args[{index}] {PyStr.repr entry} {reason}"
    | none =>
      if gdbArgConflictingPrefixes.any (PyStr.startswith entry) then
        let reason := (gdbArgConflictingOptions.lookup (optionName entry)).getD ""
        some s!"gdb_args[{index}] {PyStr.repr entry} {reason}"
      else if !PyStr.startswith entry "-" && !gdbArgValueOptions.contains previous then
        some (s!"gdb_args[{index}] {PyStr.repr entry} is a bare argument: pass it as the operand of " ++
          "a preceding option such as '-iex' or '-d', or use 'program'/'args'")
      else none

/-- One message per entry that this server cannot pass through, from the given index on. -/
def gdbArgsProblemsFrom : Nat → String → List String → List String
  | _, _, [] => []
  | index, previous, raw :: rest =>
    let entry := PyStr.strip raw
    (gdbArgProblem index previous entry).toList ++ gdbArgsProblemsFrom (index + 1) entry rest

def gdbArgsProblems (values : List String) : List String := gdbArgsProblemsFrom 0 "" values

/-! ### Arguments of the program -/

/-- An explicit argv list, or one shell-style string. -/
inductive RunArgs where
  | argv (args : List String)
  | line (text : String)

/-- The arguments of a session start that have passed their checks. -/
structure StartSessionArgs where
  program : Option String := none
  args : Option RunArgs := none
  initCommands : Option (List String) := none
  env : Option (List (String × String)) := none
  gdbPath : Option String := none
  gdbArgs : Option (List String) := none
  workingDir : Option String := none
  rrReplay : Option String := none
  core : Option String := none
  gdbArgs_ok : gdbArgsProblems (gdbArgs.getD []) = [] := by rfl

/-- Normalize run-argument input into argv list form. -/
def normalizeRunArgs : Option RunArgs → Except ToolResult (Option (List String))
  | none => .ok none
  | some (.argv args) => .ok (some args)
  | some (.line text) =>
    match Shlex.split text with
    | .ok args => .ok (some args)
    | .error e => .error (.error s!"Invalid args string: {e.message}" false [] "validation_error")

/-- `tuple(args or ())`: the characters of a string. -/
def tupleOf : Option RunArgs → List String
  | none => []
  | some (.argv args) => args
  | some (.line text) => text.toList.map fun c => String.ofList [c]

namespace StartSessionArgs

/-- The parameters that the handler of a direct start passes on, a missing list being an empty one. -/
def parameters (a : StartSessionArgs) : Except ToolResult StartArgs := do
  let args ← normalizeRunArgs a.args
  return {
    program := a.program
    args := args.getD []
    initCommands := a.initCommands.getD []
    env := a.env.getD []
    gdbPath := a.gdbPath
    gdbArgs := a.gdbArgs.getD []
    workingDir := a.workingDir
    core := a.core
    rrReplay := a.rrReplay }

end StartSessionArgs

/-! ### Memory ranges -/

structure MemoryCaptureRange where
  address : String
  count : Int
  offset : Int := 0
  name : Option String := none

/-- A structured range, or the shorthand `<address>:<count>` with an optional `@<offset>`. -/
inductive MemoryRangeArgs where
  | range (r : MemoryCaptureRange)
  | shorthand (text : String)

/-- `\d`: a decimal digit of any script. -/
def PyStr.isDecimal (c : Char) : Bool := (PyStr.decimalValue c).isSome

/-- `_MEMORY_RANGE_SHORTHAND_RE`. -/
def shorthandPattern : Pattern (String × String × Option String) := do
  let address ← Pattern.plus (· != '\n')
  Pattern.lit ':'
  let count ← Pattern.plus PyStr.isDecimal
  let offset ← Pattern.opt do
    Pattern.lit '@'
    Pattern.plus PyStr.isDecimal
  Pattern.finish
  return (String.ofList address, String.ofList count, offset.map String.ofList)

/-- The groups of the shorthand pattern. -/
def matchShorthand (text : String) : Option (String × String × Option String) := shorthandPattern.first text.toList

def memoryRangeError (message : String) : ToolResult := .error message false [] "validation_error"

/-- Parse one shorthand. The numbers are handed to `int`, which may raise. -/
def parseMemoryRangeShorthand (value : String) (index : Nat) :
    Except PyError (Except ToolResult MemoryCaptureRange) := do
  let text := PyStr.strip value
  if text = "" then return .error (memoryRangeError s!"Invalid memory_ranges[{index}]: empty shorthand string")
  match matchShorthand text with
  | none =>
    return .error (memoryRangeError (s!"Invalid memory_ranges[{index}] shorthand: {PyStr.repr value}. " ++
      "Expected '<address>:<count>' or '<address>:<count>@<offset>'."))
  | some (address, count, offset) =>
    let address := PyStr.strip address
    if address = "" then
      return .error (memoryRangeError s!"Invalid memory_ranges[{index}] shorthand: missing address expression")
    let count ← PyStr.int 10 count
    let offset ← match offset with
      | some offset => PyStr.int 10 offset
      | none => .ok 0
    return .ok { address, count, offset }

/-- Convert validated memory-range arguments into typed requests, from the given index on. -/
def memoryCaptureRangesFrom : Nat → List MemoryRangeArgs → Except PyError (Except ToolResult (List MemoryCaptureRange))
  | _, [] => .ok (.ok [])
  | index, entry :: rest => do
    let parsed ← match entry with
      | .range r => .ok (.ok r)
      | .shorthand value => parseMemoryRangeShorthand value index
    match parsed with
    | .error error => return .error error
    | .ok range =>
      let ranges ← memoryCaptureRangesFrom (index + 1) rest
      return ranges.map (range :: ·)

def memoryCaptureRanges (memoryRanges : List MemoryRangeArgs) :
    Except PyError (Except ToolResult (List MemoryCaptureRange)) := memoryCaptureRangesFrom 0 memoryRanges

end GdbMcp
