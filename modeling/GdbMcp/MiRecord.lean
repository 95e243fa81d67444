import GdbMcp.BaseText

/-! Parsed GDB/MI records as `pygdbmi` hands them over, their normalized views, and the narrowing
helpers that turn untrusted fields into text and numbers. -/

namespace GdbMcp

/-- A JSON-like value: what a record's payload and a structured result are made of. -/
inductive Value where
  | none
  | bool (b : Bool)
  | int (i : Int)
  | str (s : String)
  | list (items : List Value)
  | dict (fields : List (String × Value))
  deriving Repr, Inhabited

namespace Value

/-- `value.get(key)` of a mapping; `None` for a missing key. -/
def get : Value → String → Value
  | .dict fields, key => (fields.lookup key).getD .none
  | _, _ => .none

def isDict : Value → Bool
  | .dict _ => true
  | _ => false

def asDict : Value → Value
  | .dict fields => .dict fields
  | _ => .dict []

theorem get_asDict (v : Value) (key : String) : v.asDict.get key = v.get key := by
  cases v <;> rfl

/-- Whether the value is empty or zero, so that Python reads it as false. -/
def isFalsy : Value → Bool
  | .none | .bool false | .int 0 | .str "" | .list [] | .dict [] => true
  | _ => false

mutual

/-- `repr(value)`. -/
def repr : Value → String
  | .none => "None"
  | .bool b => if b then "True" else "False"
  | .int i => toString i
  | .str s => PyStr.repr s
  | .list items => "[" ++ String.intercalate ", " (reprItems items) ++ "]"
  | .dict fields => "\x7b" ++ String.intercalate ", " (reprFields fields) ++ "\x7d"

def reprItems : List Value → List String
  | [] => []
  | v :: rest => repr v :: reprItems rest

def reprFields : List (String × Value) → List String
  | [] => []
  | (key, v) :: rest => (PyStr.repr key ++ ": " ++ repr v) :: reprFields rest

end

/-- `str(value)`. -/
def text : Value → String
  | .str s => s
  | v => v.repr

def ofOption (f : α → Value) : Option α → Value
  | some a => f a
  | .none => .none

end Value

/-- The record kinds of the MI output grammar. -/
inductive RecordType where
  | result | notify | console | log | output | target | done
  deriving DecidableEq, Repr, Inhabited

/-- One record, with the keys `type`, `token`, `message` and `payload`. -/
structure MiRecord where
  type : RecordType
  token : Option Nat := none
  message : Option String := none
  payload : Value := .none
  deriving Repr, Inhabited

/-- A `*stopped` notification. -/
def MiRecord.isStop (r : MiRecord) : Bool := r.type == .notify && r.message == some "stopped"

/-- A result record that carries the given command token. -/
def MiRecord.isResultOf (r : MiRecord) (token : Nat) : Bool :=
  r.type == .result && r.token == some token

/-- Normalized async notification record. -/
structure MiNotifyRecord where
  message : Option String
  payload : Value
  deriving Repr, Inhabited

/-- Normalized view of the records emitted for a single GDB/MI command. -/
structure ParsedMiResponse where
  console : List Value := []
  log : List Value := []
  output : List Value := []
  result : Value := .none
  resultClass : Option String := none
  notify : List MiNotifyRecord := []
  deriving Repr, Inhabited

/-- Result of sending one command over the GDB/MI transport. -/
structure MiTransportResponse where
  commandResponses : List MiRecord := []
  asyncNotifications : List MiRecord := []
  timedOut : Bool := false
  error : Option String := none
  fatal : Bool := false
  deriving Repr, Inhabited

/-- The text items of a stream. -/
def streamText (stream : List Value) : String :=
  PyStr.join (stream.filterMap fun | .str s => some s | _ => none)

namespace ParsedMiResponse

/-- One step of `parse_mi_responses`. -/
def add (parsed : ParsedMiResponse) (r : MiRecord) : ParsedMiResponse :=
  match r.type with
  | .console => { parsed with console := parsed.console ++ [r.payload] }
  | .log => { parsed with log := parsed.log ++ [r.payload] }
  | .output => { parsed with output := parsed.output ++ [r.payload] }
  | .result => { parsed with result := r.payload, resultClass := r.message }
  | .notify => { parsed with notify := parsed.notify ++ [⟨r.message, r.payload⟩] }
  | .target | .done => parsed

def isErrorResult (parsed : ParsedMiResponse) : Bool := parsed.resultClass == some "error"

/-- The first of the fields `msg` and `message` that holds text other than blanks. -/
def resultMessage (parsed : ParsedMiResponse) : Option String :=
  ["msg", "message"].findSome? fun key =>
    match parsed.result.get key with
    | .str s => if PyStr.strip s = "" then none else some (PyStr.strip s)
    | _ => none

/-- Extract the best available error message from the parsed MI result. -/
def errorMessage (parsed : ParsedMiResponse) : Option String :=
  if parsed.isErrorResult then
    match parsed.resultMessage with
    | some message => some message
    | none =>
      let texts := [parsed.console, parsed.log, parsed.output].map fun s => PyStr.strip (streamText s)
      some ((texts.find? (· != "")).getD "GDB returned an error")
  else none

/-- `to_dict`. -/
def toValue (parsed : ParsedMiResponse) : Value :=
  .dict [("console", .list parsed.console), ("log", .list parsed.log), ("output", .list parsed.output),
    ("result", parsed.result), ("result_class", .ofOption .str parsed.resultClass),
    ("notify", .list (parsed.notify.map fun n =>
      .dict [("message", .ofOption .str n.message), ("payload", n.payload)]))]

end ParsedMiResponse

/-- Parse raw response records into a normalized structure. -/
def parseMiResponses (responses : List MiRecord) : ParsedMiResponse :=
  responses.foldl ParsedMiResponse.add {}

/-! ### Narrowing

`as_int` accepts every text that `str.isdigit` accepts and hands it to `int`, which rejects some of
it: the narrowing raises there. -/

/-- Return a string value unchanged, or `None` for any other type. -/
def asText : Value → Option String
  | .str s => some s
  | _ => none

/-- Render a string or integer scalar as text, or `None` otherwise. -/
def asTextOrNumber : Value → Option String
  | .str s => some s
  | .int i => some (toString i)
  | .bool b => some (if b then "True" else "False")
  | _ => none

/-- Parse an integer or all-digit string scalar, or `None` otherwise. -/
def asInt : Value → Except PyError (Option Int)
  | .int i => .ok (some i)
  | .bool b => .ok (some (if b then 1 else 0))
  | .str s => if PyStr.isdigit s then some <$> PyStr.int 10 s else .ok none
  | _ => .ok none

/-- Narrow untrusted data into a mapping, or `None` when it is not one. -/
def asOptionalMapping : Value → Option Value
  | .dict fields => some (.dict fields)
  | _ => none

/-- The entries of a list payload that are themselves mappings. -/
def asRecordList : Value → List Value
  | .list items => items.filter Value.isDict
  | _ => []

end GdbMcp
