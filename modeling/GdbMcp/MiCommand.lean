import GdbMcp.BaseText

/-! Construction of GDB/MI command strings. -/

namespace GdbMcp

/-- Whether the command is run via CLI passthrough. -/
def isCliCommand (command : String) : Bool := !PyStr.startswith (PyStr.strip command) "-"

def escapeMiChar : Char → List Char
  | '\\' => ['\\', '\\']
  | '"' => ['\\', '"']
  | '\n' => ['\\', 'n']
  | '\r' => ['\\', 'r']
  | '\t' => ['\\', 't']
  | c => [c]

/-- Escape a string so it can be embedded inside a quoted MI argument. -/
def escapeMiString (value : String) : String := String.ofList (value.toList.flatMap escapeMiChar)

/-- One fully quoted MI string argument. -/
def quoteMiString (value : String) : String := "\"" ++ escapeMiString value ++ "\""

def buildEvaluateExpressionCommand (expression : String) : String :=
  "-data-evaluate-expression " ++ quoteMiString expression

/-- The `-exec-arguments` command for a structured argv. -/
def buildExecArgumentsCommand (args : List String) : String :=
  let encodedArgs := String.intercalate " " (args.map quoteMiString)
  if encodedArgs = "" then "-exec-arguments" else "-exec-arguments " ++ encodedArgs

/-- The `-data-read-memory-bytes` command. -/
def buildReadMemoryCommand (address : String) (count : Int) (offset : Int) : String :=
  let offsetArgs := if offset ≠ 0 then s!"-o {offset} " else ""
  s!"-data-read-memory-bytes {offsetArgs}{quoteMiString address} {count}"

/-- Wrap a CLI command in `-interpreter-exec` for structured MI transport. -/
def wrapCliCommand (command : String) : String :=
  "-interpreter-exec console " ++ quoteMiString command

end GdbMcp
