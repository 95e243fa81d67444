import GdbMcp.BaseEffect
import GdbMcp.MiRecord

/-! The transport client: serialized exchange of MI commands with a debugger that is free to answer
anything. `Gdb` is the outside world as the client sees it; the client's own state is `MiClient`. A
wait is bounded by a deadline, so the world hands it the finite list of polls made before it; a wait
that has not ended when the list is used up has timed out. The command lock is never contended here:
a session runs its operations one at a time. -/

namespace GdbMcp

/-- What `controller.gdb_process` and its `poll()` show. -/
inductive ProcessStatus where
  /-- No child process: somebody else owns the debugger. -/
  | absent
  | running
  | exited (code : Int)
  /-- `poll()` raised or returned no exit code. -/
  | unreadable
  deriving DecidableEq, Repr

def ProcessStatus.alive : ProcessStatus → Bool
  | .exited _ => false
  | _ => true

/-- One iteration of a wait: the time since it began, the state of the process, and what the read of
one batch of records gives. -/
structure Poll where
  elapsedMs : Nat := 0
  status : ProcessStatus := .running
  read : Except PyError (List MiRecord)

/-- The debugger, its process and the operating system, in any state `W` and with any behaviour. -/
class Gdb (W : Type) where
  /-- Build a controller that spawns the given command in the given directory. -/
  spawn : List String → Option String → W → Except PyError Unit × W
  /-- Build a controller for an endpoint that another process serves. -/
  connect : String → W → Except PyError Unit × W
  /-- `controller.exit()`. -/
  exit : W → Except PyError Unit × W
  /-- Write and flush one command line, given as its token and its text. -/
  write : Nat → String → W → Except PyError Unit × W
  /-- The polls of a wait with the given timeout in seconds. -/
  polls : Nat → W → List Poll × W
  /-- The look at `controller.gdb_process` of a liveness check. -/
  liveness : W → ProcessStatus × W
  /-- Whether the controller has a child process to signal. -/
  hasProcess : W → Bool
  /-- Send SIGINT to the child process. -/
  kill : W → Except PyError Unit × W
  environ : W → String → Option String
  isdir : W → String → Bool
  time : W → Nat × W

/-- A controller and the endpoint it was connected to, if it was not spawned. -/
structure Controller where
  endpoint : Option String := none
  deriving DecidableEq, Repr

/-- The client: its controller and the token of its next command. The fields `sent` and `received`
are history: the command lines handed to the debugger and the records read from it, both in order,
without those behind a fatal record in its batch. No operation reads them. -/
structure MiClient where
  controller : Option Controller := none
  commandToken : Nat := 1000
  sent : List (Nat × String) := []
  received : List MiRecord := []
  deriving Inhabited

/-- The client together with the world it talks to. -/
structure Channel (W : Type) where
  client : MiClient
  gdb : W

abbrev ChannelM (W : Type) := Eff (Channel W) PyError

/-- Detect unrecoverable fatal error text emitted by GDB itself. -/
def isFatalPayload (payload : Value) : Bool :=
  !payload.isFalsy &&
    (PyStr.contains (PyStr.lower payload.text) "internal-error" ||
      PyStr.contains (PyStr.lower payload.text) "fatal error internal to gdb")

def MiRecord.isFatal (r : MiRecord) : Bool :=
  (r.type == .console || r.type == .log) && isFatalPayload r.payload

def fatalMessage (payload : Value) : String :=
  s!"GDB internal fatal error: {PyStr.strip payload.text}"

/-! ### Waiting for a result record -/

/-- The local variables of the wait for a command's result. `read` is history: the records classified,
in order. -/
structure ReadState where
  commandResponses : List MiRecord := []
  asyncNotifications : List MiRecord := []
  lastAliveCheckMs : Nat := 0
  sawResultRecord : Bool := false
  sawStopAfterRunning : Bool := false
  resultClass : Option String := none
  read : List MiRecord := []
  deriving Inhabited

/-- How a wait ends. -/
inductive ReadEnd where
  | completed
  | timedOut
  /-- The controller is torn down and the response carries this error. -/
  | fatal (error : String)
  /-- The read raised an exception that the client does not handle. -/
  | raised (e : PyError)
  deriving DecidableEq, Repr

namespace ReadState

/-- The command's own result has been read and, if it is `^running`, a later stop too. -/
def complete (st : ReadState) : Bool :=
  st.sawResultRecord && (st.resultClass != some "running" || st.sawStopAfterRunning)

/-- The own `^running` result is the last own result read. -/
def running (st : ReadState) : Bool := st.sawResultRecord && st.resultClass == some "running"

def respond (st : ReadState) (r : MiRecord) : ReadState :=
  { st with commandResponses := st.commandResponses ++ [r] }

/-- Put one record into the lists of the response. -/
def classify (token : Nat) (st : ReadState) (r : MiRecord) : ReadState :=
  if r.type == .result && r.token == some token then
    { st.respond r with resultClass := r.message, sawResultRecord := true }
  else if r.token == some token then
    st.respond r
  else if r.type == .notify && st.sawResultRecord && st.resultClass == some "running" &&
      r.message == some "stopped" then
    { st.respond r with sawStopAfterRunning := true }
  else if r.token == none && r.type != .notify then
    st.respond r
  else
    { st with asyncNotifications := st.asyncNotifications ++ [r] }

def handle (token : Nat) (st : ReadState) (r : MiRecord) : ReadState :=
  { st with read := st.read ++ [r] }.classify token r

/-- One batch: a fatal record ends it, with the records before it already classified. -/
def readBatch (token : Nat) : ReadState → List MiRecord → ReadState × Option Value
  | st, [] => (st, none)
  | st, r :: rest =>
    if r.isFatal then (st, some r.payload) else readBatch token (st.handle token r) rest

end ReadState

/-- The interval between two liveness checks of one wait. -/
def livenessCheckIntervalMs : Nat := 1000

/-- Whether a liveness check is due at this iteration. -/
def Poll.due (p : Poll) (lastAliveCheckMs : Nat) : Bool :=
  decide (livenessCheckIntervalMs ≤ p.elapsedMs - lastAliveCheckMs)

/-- A liveness check is due and finds the process gone. -/
def Poll.findsExit (p : Poll) (lastAliveCheckMs : Nat) : Bool :=
  p.due lastAliveCheckMs && !p.status.alive

/-- The error of a wait that finds the process gone. -/
def exitDetails (elapsedMs : Nat) (status : ProcessStatus) : String :=
  let tenths := (elapsedMs + 50) / 100
  s!"GDB process exited unexpectedly after {tenths / 10}.{tenths % 10}s" ++
    match status with
    | .exited (-9) => " (exit code -9: killed, likely out of memory)"
    | .exited (-6) => " (exit code -6: aborted, possibly assertion failure)"
    | .exited (-11) => " (exit code -11: segmentation fault)"
    | .exited code => s!" (exit code {code})"
    | _ => ""

/-- The liveness check of an iteration that finds the process alive. -/
def ReadState.checked (st : ReadState) (p : Poll) : ReadState :=
  if p.due st.lastAliveCheckMs then { st with lastAliveCheckMs := p.elapsedMs } else st

/-- What follows a batch; an empty one makes the same completion check as any other. -/
def ReadState.endBatch : ReadState × Option Value → ReadState × Option ReadEnd
  | (st, some payload) => (st, some (.fatal (fatalMessage payload)))
  | (st, none) => (st, if st.complete then some .completed else none)

/-- One iteration of the wait for the result of the command with the given token. -/
def readPoll (token : Nat) (st : ReadState) (p : Poll) : ReadState × Option ReadEnd :=
  if p.findsExit st.lastAliveCheckMs then (st, some (.fatal (exitDetails p.elapsedMs p.status)))
  else
    match p.read with
    | .error (.osError m) => (st.checked p, some (.fatal s!"Communication error: {m}"))
    | .error e => (st.checked p, some (.raised e))
    | .ok batch => ReadState.endBatch ((st.checked p).readBatch token batch)

/-- The wait for the result of the command with the given token. -/
def readLoop (token : Nat) : ReadState → List Poll → ReadState × ReadEnd
  | st, [] => (st, .timedOut)
  | st, p :: rest =>
    match readPoll token st p with
    | (st, some ending) => (st, ending)
    | (st, none) => readLoop token st rest

/-! ### Waiting for a stop -/

/-- The local state of the wait for a `stopped` notification. `read` is history. -/
structure WaitState where
  commandResponses : List MiRecord := []
  read : List MiRecord := []
  deriving Inhabited

/-- One batch: the records behind a fatal or a `stopped` record are dropped. -/
def waitBatch : List MiRecord → List MiRecord → List MiRecord × Option ReadEnd
  | responses, [] => (responses, none)
  | responses, r :: rest =>
    if r.isFatal then (responses ++ [r], some (.fatal (fatalMessage r.payload)))
    else if r.isStop then (responses ++ [r], some .completed)
    else waitBatch (responses ++ [r]) rest

def waitLoop : WaitState → List Poll → WaitState × ReadEnd
  | st, [] => (st, .timedOut)
  | st, p :: rest =>
    match p.read with
    | .error (.osError m) => (st, .fatal s!"Communication error: {m}")
    | .error e => (st, .raised e)
    | .ok batch =>
      match waitBatch st.commandResponses batch with
      | (responses, some ending) => (⟨responses, st.read ++ batch⟩, ending)
      | (responses, none) => waitLoop ⟨responses, st.read ++ batch⟩ rest

/-! ### Draining the startup output -/

/-- The records read before the first command, and the exception that reading them ends in. -/
def drainLoop : List MiRecord → List Poll → List MiRecord × Option PyError
  | records, [] => (records, none)
  | records, p :: rest =>
    match p.read with
    | .error (.osError m) =>
      (records, some (.osError s!"Communication error while reading startup output: {m}"))
    | .error e => (records, some e)
    | .ok [] => (records, none)
    | .ok batch =>
      match batch.find? MiRecord.isFatal with
      | some r => (records ++ batch, some (.osError (fatalMessage r.payload)))
      | none => drainLoop (records ++ batch) rest

/-! ### The operations -/

namespace MiClient

variable {W : Type} [Gdb W]

def updateClient (f : MiClient → MiClient) : ChannelM W Unit :=
  Eff.modify fun c => { c with client := f c.client }

/-- A call into the world that may raise. -/
def call (f : W → Except PyError α × W) : ChannelM W α :=
  Eff.zoom Channel.gdb (fun w c => { c with gdb := w }) ⟨f⟩

/-- A call into the world that only returns. -/
def observe (f : W → α × W) : ChannelM W α := call fun w => (.ok (f w).1, (f w).2)

def hasController : ChannelM W Bool := Eff.gets fun c => c.client.controller.isSome

def start (command : List String) (cwd : Option String) : ChannelM W Unit := do
  call (Gdb.spawn command cwd)
  updateClient fun m => { m with controller := some {} }

/-- `create_external_controller` followed by `adopt_controller`. -/
def adopt (endpoint : String) : ChannelM W Unit := do
  call (Gdb.connect endpoint)
  updateClient fun m => { m with controller := some { endpoint := some endpoint } }

/-- Stop the current controller; it is detached also when its own `exit` raises. -/
def exitUnlocked : ChannelM W Unit := do
  if ← hasController then
    Eff.ensure (call Gdb.exit) fun c => { c with client := { c.client with controller := none } }

def exit : ChannelM W Unit := exitUnlocked

def isAlive : ChannelM W Bool := do
  if ← hasController then
    return (← observe Gdb.liveness).alive
  return false

def recordRead (records : List MiRecord) : ChannelM W Unit :=
  updateClient fun m => { m with received := m.received ++ records }

/-- Drain startup records emitted before the first explicit command. -/
def readInitialOutput (timeoutSec : Nat) : ChannelM W (List MiRecord) := do
  if ← hasController then
    let polls ← observe (Gdb.polls timeoutSec)
    let (records, error) := drainLoop [] polls
    recordRead records
    match error with
    | none => return records
    | some (.osError m) => do
      exitUnlocked
      Eff.raise (.runtimeError m)
    | some e => Eff.raise e
  else
    return []

/-- Take the next token for the given command. -/
def takeToken (command : String) : ChannelM W Nat := do
  let token ← Eff.gets fun c => c.client.commandToken
  updateClient fun m =>
    { m with commandToken := token + 1, sent := m.sent ++ [(token, command)] }
  return token

/-- End a call whose wait has ended; a fatal end tears the controller down. -/
def conclude (response : MiTransportResponse) : ReadEnd → ChannelM W MiTransportResponse
  | .completed => return response
  | .timedOut => return { response with timedOut := true }
  | .fatal error => do
    exitUnlocked
    return { response with error := some error, fatal := true }
  | .raised e => Eff.raise e

/-- Collect responses until the result record of the command with the given token is received. -/
def awaitResult (token timeoutSec : Nat) : ChannelM W MiTransportResponse := do
  let polls ← observe (Gdb.polls timeoutSec)
  let (st, ending) := readLoop token {} polls
  recordRead st.read
  conclude
    { commandResponses := st.commandResponses, asyncNotifications := st.asyncNotifications } ending

/-- Send one command and collect responses until the result record is received. -/
def sendCommandAndWaitForPrompt (command : String) (timeoutSec : Nat) :
    ChannelM W MiTransportResponse := do
  if ← hasController then
    let token ← takeToken command
    match ← Eff.attempt (Except.ok <$> call (Gdb.write token command)) fun e => return .error e with
    | .ok () => awaitResult token timeoutSec
    | .error (.osError m) => do
      exitUnlocked
      return { error := some s!"Failed to send command: {m}", fatal := true }
    | .error e => Eff.raise e
  else
    return { timedOut := true, error := some "No active GDB session" }

/-- Read controller output until a stopped notification arrives or the timeout expires. -/
def waitForStoppedNotification (timeoutSec : Nat) : ChannelM W MiTransportResponse := do
  let polls ← observe (Gdb.polls timeoutSec)
  let (st, ending) := waitLoop {} polls
  recordRead st.read
  conclude { commandResponses := st.commandResponses } ending

/-- Interrupt the inferior; every exception becomes an error response that is not fatal. -/
def interruptAndWaitForStop (timeoutSec : Nat) : ChannelM W MiTransportResponse := do
  if ← hasController then
    Eff.attempt
      (do
        call Gdb.kill
        waitForStoppedNotification timeoutSec)
      fun e => return { error := some s!"Failed to interrupt: {e.message}" }
  else
    return { error := some "No active GDB session" }

/-- Wait for the inferior to emit a stopped notification without sending a command. -/
def waitForStop (timeoutSec : Nat) : ChannelM W MiTransportResponse := do
  if ← hasController then
    waitForStoppedNotification timeoutSec
  else
    return { error := some "No active GDB session" }

end MiClient
end GdbMcp
