import GdbMcp.BaseText

/-! Parsing of the inferior inventory that `info inferiors` prints. -/

namespace GdbMcp

/-- One row of the inventory. -/
structure InferiorRecord where
  inferiorId : Int
  isCurrent : Bool
  display : String
  description : Option String := none
  connection : Option String := none
  executable : Option String := none
  deriving DecidableEq, Repr

/-- Structured inventory snapshot. -/
structure InferiorListInfo where
  inferiors : List InferiorRecord
  count : Int
  currentInferiorId : Option Int
  deriving DecidableEq, Repr

/-- Heuristically identify a connection column from `info inferiors` output. -/
def looksLikeConnection (value : String) : Bool :=
  ["target:", "process ", "remote ", "extended-remote"].any (PyStr.startswith value) || value == "native"

/-- The parts between runs of two or more blanks; `gap` says that the text before ended in such a run. -/
def splitColumnsAux : Bool → List Char → List Char → List String
  | _, [], part => [String.ofList part.reverse]
  | gap, c :: rest, part =>
    if gap && PyStr.isSpace c then splitColumnsAux true rest part
    else if PyStr.isSpace c && rest.head?.any PyStr.isSpace then
      String.ofList part.reverse :: splitColumnsAux true rest []
    else splitColumnsAux false rest (c :: part)

def splitColumns (display : String) : List String :=
  ((splitColumnsAux false display.toList []).map PyStr.strip).filter (· ≠ "")

def inferiorRecord (inferiorId : Int) (isCurrent : Bool) (display : String) : InferiorRecord :=
  let record : InferiorRecord := { inferiorId, isCurrent, display }
  match splitColumns display with
  | [] => record
  | [description] => { record with description := some description }
  | [description, other] =>
    if looksLikeConnection other then
      { record with description := some description, connection := some other }
    else { record with description := some description, executable := some other }
  | description :: connection :: executable :: _ =>
    { record with
      description := some description, connection := some connection, executable := some executable }

/-- One line of the output: `None` for a line that is no row. -/
def parseInferiorRow (rawLine : String) : Except PyError (Option InferiorRecord) :=
  let line := PyStr.rstrip rawLine
  let stripped := PyStr.strip line
  if stripped = "" || PyStr.startswith stripped "Num " || PyStr.startswith stripped "Num\t" then .ok none
  else
    let (isCurrent, text) : Bool × List Char :=
      match line.toList with
      | '*' :: rest => (true, rest)
      | cs => (false, cs)
    let text := text.dropWhile PyStr.isSpace
    let digits := text.takeWhile fun c => (PyStr.decimalValue c).isSome
    let columns := text.dropWhile fun c => (PyStr.decimalValue c).isSome
    if digits.isEmpty || !columns.head?.any PyStr.isSpace then .ok none
    else do
      let inferiorId ← PyStr.int 10 (String.ofList digits)
      return some (inferiorRecord inferiorId isCurrent (PyStr.strip (String.ofList columns)))

/-- Parse `info inferiors` CLI output into a structured inventory snapshot. -/
def parseInferiorsOutput (output : String) (currentInferiorId : Option Int) :
    Except PyError InferiorListInfo := do
  let rows ← (PyStr.splitlines output).mapM parseInferiorRow
  let inferiors := rows.filterMap id
  let current := (inferiors.filter InferiorRecord.isCurrent).getLast?.map InferiorRecord.inferiorId
  return { inferiors, count := inferiors.length, currentInferiorId := current <|> currentInferiorId }

def inferiorIds (payload : InferiorListInfo) : List Int := payload.inferiors.map InferiorRecord.inferiorId

example : parseInferiorsOutput "  Num  Description       Executable\n* 1    process 42        /bin/true\n  2    <null>\n"
    (some 7) = .ok
      { inferiors :=
          [{ inferiorId := 1, isCurrent := true, display := "process 42        /bin/true",
             description := some "process 42", executable := some "/bin/true" },
           { inferiorId := 2, isCurrent := false, display := "<null>", description := some "<null>" }]
        count := 2, currentInferiorId := some 1 } := by
  decide +kernel

end GdbMcp
