import GdbMcp.MiRecord

/-! The pure parts of a session start: the conflicts between its arguments, the command line of the
debugger, the environment check and what the startup output tells. -/

namespace GdbMcp

/-- The arguments of `start`. -/
structure StartArgs where
  program : Option String := none
  args : List String := []
  initCommands : List String := []
  env : List (String × String) := []
  gdbPath : Option String := none
  gdbArgs : List String := []
  workingDir : Option String := none
  core : Option String := none
  endpoint : Option String := none
  rrReplay : Option String := none

/-- An optional text that is given and not empty. -/
def given (text : Option String) : Bool := text.any (· ≠ "")

/-- The text of an optional argument that is given. -/
def textOf (text : Option String) : String := text.getD ""

def rrTargetMessage : String :=
  "An rr trace already owns the target; do not also pass args or core when replaying a recording."

def rrEndpointMessage : String :=
  "An rr replay starts its own debugger; do not also pass endpoint, " ++
    "which expects an externally started GDB/MI stream."

def endpointTargetMessage : String :=
  "An external endpoint already owns the target; do not also pass program, args, or core when connecting."

namespace StartArgs

/-- An rr trace owns the target, so that a program next to it is dropped. -/
def ignoresProgram (a : StartArgs) : Bool := given a.rrReplay && given a.program

def ignoredProgramWarning (a : StartArgs) : String :=
  s!"Program '{textOf a.program}' was ignored: the rr trace already owns the target."

def withoutIgnoredProgram (a : StartArgs) : StartArgs :=
  if a.ignoresProgram then { a with program := none } else a

/-- The first conflict between the arguments: the failure noted in the runtime and the error message. -/
def conflict (a : StartArgs) : Option (String × String) :=
  if given a.rrReplay && (!a.args.isEmpty || given a.core) then some (rrTargetMessage, rrTargetMessage)
  else if given a.rrReplay && given a.endpoint then some (rrEndpointMessage, rrEndpointMessage)
  else if given a.endpoint && (given a.program || !a.args.isEmpty || given a.core) then
    some (endpointTargetMessage, endpointTargetMessage)
  else if !a.args.isEmpty && given a.core then
    some ("Cannot combine program arguments with core dump analysis in one startup request.",
      "Cannot combine 'args' with 'core'. " ++
        "Use either a live program launch with args or a core-dump session.")
  else none

/-- Build a GDB startup argv for the supported launch modes. -/
def buildStartCommand (a : StartArgs) (gdbPath rrPath : String) : List String :=
  if given a.rrReplay then
    [rrPath, "replay", "--interpreter=mi", "-d", gdbPath, textOf a.rrReplay] ++
      if a.gdbArgs.isEmpty then [] else "--" :: a.gdbArgs
  else
    [gdbPath, "--quiet", "--interpreter=mi"] ++ a.gdbArgs ++
      if given a.core then
        (if given a.program then ["--se=" ++ textOf a.program] else []) ++ ["--core=" ++ textOf a.core]
      else if given a.program then
        if a.args.isEmpty then [textOf a.program] else "--args" :: textOf a.program :: a.args
      else []

end StartArgs

/-! ### Environment variables -/

def isEnvNameStart (c : Char) : Bool := c.isAlpha || c == '_'

/-- `[A-Za-z_][A-Za-z0-9_]*`. -/
def isEnvName (name : String) : Bool :=
  match name.toList with
  | [] => false
  | c :: rest => isEnvNameStart c && rest.all fun d => isEnvNameStart d || d.isDigit

/-- A message when one environment variable cannot be set safely. -/
def environmentValidationError (name value : String) : Option String :=
  if !isEnvName name then
    some s!"Invalid environment variable name {PyStr.repr name}: names must match [A-Za-z_][A-Za-z0-9_]*"
  else if value.toList.any fun c => c == '\r' || c == '\n' then
    some s!"Environment variable {name} value must not contain newlines"
  else none

/-! ### Startup output -/

/-- Join all textual startup streams into one searchable string. -/
def startupOutputText (startup : ParsedMiResponse) : String :=
  streamText startup.console ++ streamText startup.log ++ streamText startup.output

/-- Infer whether startup actually loaded the requested target. -/
def startupTargetLoaded (program core : Option String) (startupOutput : String) : Bool :=
  (given program || given core) &&
    !(["no such file or directory", "not in executable format", "file format not recognized",
      "is not a core dump", "is not a core file", "no executable file now"].any
        (PyStr.contains startupOutput))

/-- The warnings about the program that the lower case startup output gives rise to. -/
def startupWarnings (startupOutput : String) : List String :=
  [("no debugging symbols found", "No debugging symbols found - program was not compiled with -g"),
    ("not in executable format", "File is not an executable"),
    ("no such file", "Program file not found")].filterMap fun (marker, warning) =>
      if PyStr.contains startupOutput marker then some warning else none

/-- Equality of an ASCII character of a pattern and a character of the text, ignoring case. -/
def eqIgnoreCase (p c : Char) : Bool :=
  p.toLower == c.toLower || (p.toLower == 'i' && (c.toNat == 0x130 || c.toNat == 0x131)) ||
    (p.toLower == 's' && c.toNat == 0x17F) || (p.toLower == 'k' && c.toNat == 0x212A)

/-- The text behind a literal, ignoring case. -/
def afterLiteral : List Char → List Char → Option (List Char)
  | [], text => some text
  | p :: rest, c :: text => if eqIgnoreCase p c then afterLiteral rest text else none
  | _ :: _, [] => none

/-- A refused script at the head of the text: its path and the text behind the match. -/
def matchDeclined (text : List Char) : Option (String × List Char) := do
  let text ← afterLiteral "warning: File \"".toList text
  let path := text.takeWhile (· ≠ '"')
  let rest ← afterLiteral "\" auto-loading has been declined by your `auto-load safe-path'".toList
    (text.dropWhile (· ≠ '"'))
  if path.isEmpty then none else some (String.ofList path, rest)

/-- A missing script at the head of the text: the file that refers to it and the text behind. -/
def matchMissing (text : List Char) : Option (String × List Char) := do
  let text ← afterLiteral "missing auto-load script at offset 0 in section .debug_gdb_scripts".toList text
  let text' := text.dropWhile PyStr.isSpace
  let text ← if text'.length < text.length then afterLiteral "of file ".toList text' else none
  match text with
  | c :: rest =>
    match rest.dropWhile (· ≠ '.') with
    | _ :: behind => some (String.ofList (c :: rest.takeWhile (· ≠ '.')), behind)
    | [] => none
  | [] => none

/-- The successive matches in a text, by at most the given number of steps. -/
def findMatches (pattern : List Char → Option (String × List Char)) : Nat → List Char → List String
  | 0, _ => []
  | steps + 1, text =>
    match pattern text, text with
    | some (group, rest), _ => group :: findMatches pattern steps rest
    | none, _ :: rest => findMatches pattern steps rest
    | none, [] => []

def declinedWarning (script : String) : String :=
  s!"GDB declined to auto-load {script}: its directory is not on auto-load " ++
    "safe-path. Auto-load runs while GDB loads the program, so pass the option on " ++
    "the GDB command line with gdb_args (for example ['-iex', " ++
    "'add-auto-load-safe-path <dir>']); init_commands run afterwards and are too late."

def missingWarning (file : String) : String :=
  s!"GDB could not find the auto-load script referenced by {file} " ++
    "(.debug_gdb_scripts), so its pretty-printers and extensions stay inactive. For " ++
    "a Rust binary, start the session with gdb_path='rust-gdb' (the rustup wrapper), " ++
    "which both points GDB at the script directory and trusts it; otherwise pass " ++
    "gdb_args=['--directory=<dir>', '-iex', 'add-auto-load-safe-path <dir>']."

/-- Warnings for auto-load scripts GDB refused or could not find. -/
def autoLoadWarnings (startupOutput : String) : List String :=
  let text := startupOutput.toList
  (findMatches matchDeclined (text.length + 1) text).map declinedWarning ++
    (findMatches matchMissing (text.length + 1) text).map missingWarning

end GdbMcp
