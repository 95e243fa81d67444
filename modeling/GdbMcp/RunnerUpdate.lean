import GdbMcp.BaseEffect
import GdbMcp.RuntimeState

/-! The effect of parsed MI records on the runtime: what a scan of the notifications writes and
remembers, what a stop does, and what the text of the command adds. A field that `isdigit` accepts and
`int` rejects raises in the middle of an update. -/

namespace GdbMcp

abbrev RuntimeM := Eff SessionRuntime PyError

/-! ### Narrowing of single fields -/

/-- Digits as a number, or `None` for any other text. -/
def parseDigits (text : String) : Except PyError (Option Int) :=
  if PyStr.isdigit text then some <$> PyStr.int 10 text else .ok none

/-- Parse a GDB exit-code field. -/
def parseExitCode : Value → Except PyError (Option Int)
  | .int i => .ok (some i)
  | .bool b => .ok (some (if b then 1 else 0))
  | .str s =>
    let text := PyStr.strip s
    if text = "" then .ok none
    else if ["0x", "0X", "-0x", "-0X"].any (PyStr.startswith text) then
      .ok (PyStr.int 16 text).toOption
    else if PyStr.startswith text "-" then (·.map (- ·)) <$> parseDigits (PyStr.dropPrefix text 1)
    else if PyStr.startswith text "+" then parseDigits (PyStr.dropPrefix text 1)
    else if PyStr.isdigit text then some <$> PyStr.int 10 text
    else .ok (PyStr.int 10 text).toOption
  | _ => .ok none

/-- Parse a thread-group token such as 'i1' into an inferior ID. -/
def parseInferiorIdFromThreadGroup (value : Value) : Except PyError (Option Int) :=
  match asTextOrNumber value with
  | none => .ok none
  | some text =>
    let normalized := PyStr.strip text
    parseDigits
      (if ["i", "I"].any (PyStr.startswith normalized) then PyStr.dropPrefix normalized 1 else normalized)

/-- The number behind the first word of a command, or `None` if there is none. -/
def parseCommandNumber (command : String) : Except PyError (Option Int) :=
  match PyStr.splitOnce command with
  | [_, text] => parseDigits (PyStr.strip text)
  | _ => .ok none

/-- Parse an attach command and return the PID if present. -/
def parseAttachedPid (command : String) : Except PyError (Option Int) := parseCommandNumber command

/-- Parse an inferior-selection command and return the selected inferior ID. -/
def parseInferiorId (command : String) : Except PyError (Option Int) := parseCommandNumber command

/-- Parse the configured follow-fork-mode from a normalized CLI command. -/
def parseFollowForkMode (command : String) : Option FollowForkMode :=
  match PyStr.split command with
  | [_, _, "parent"] => some .parent
  | [_, _, "child"] => some .child
  | _ => none

/-- Parse the configured detach-on-fork value from a normalized CLI command. -/
def parseDetachOnFork (command : String) : Option Bool :=
  match PyStr.split command with
  | [_, _, "on"] => some true
  | [_, _, "off"] => some false
  | _ => none

/-- Extract a breakpoint or watchpoint number from one stop payload. -/
def extractBreakpointNumber (payload : Value) : Option String :=
  asTextOrNumber (payload.get "bkptno") <|>
    ["wpt", "awpt", "hw-awpt"].findSome? fun key => asTextOrNumber ((payload.get key).get "number")

def isExitReason (reason : Option String) : Bool :=
  ["exited", "exited-normally", "exited-signalled"].any fun r => reason == some r

/-! ### The scan of the notifications -/

/-- What the first `stopped` notification says of the stop. -/
structure StopFields where
  payload : Value
  reason : Option String := none
  exitCode : Option Int := none
  inferiorId : Option Int := none
  threadId : Option Int := none
  frameLevel : Option Int := none

/-- What a scan remembers: the first stop, and whether inferiors were added or removed. -/
structure StopScan where
  stop : Option StopFields := none
  sawInferiorTopologyChange : Bool := false

/-- The level of a frame, where the payload has one. -/
def readFrameLevel (frame : Value) : Except PyError (Option Int) :=
  if frame.isDict then asInt (frame.get "level") else .ok none

/-- Read the fields of a `stopped` payload. -/
def readStopFields (payload : Value) : Except PyError StopFields :=
  if payload.isDict then do
    let exitCode ← parseExitCode (payload.get "exit-code")
    let inferiorId ← parseInferiorIdFromThreadGroup (payload.get "thread-group")
    let frameLevel ← readFrameLevel (payload.get "frame")
    let threadId ← asInt (payload.get "thread-id")
    return { payload, reason := asText (payload.get "reason"), exitCode, inferiorId, threadId, frameLevel }
  else return { payload }

/-- Apply one notification: thread-group changes are written, the first stop is remembered. -/
def scanNotify (scan : StopScan) (notify : MiNotifyRecord) : RuntimeM StopScan := do
  let fields := notify.payload.asDict
  match notify.message with
  | some "thread-group-added" =>
    match ← Eff.ofExcept (parseInferiorIdFromThreadGroup (fields.get "id")) with
    | some inferiorId => do
      Eff.modify (·.ensureInferior inferiorId)
      return { scan with sawInferiorTopologyChange := true }
    | none => return scan
  | some "thread-group-started" =>
    match ← Eff.ofExcept (parseInferiorIdFromThreadGroup (fields.get "id")) with
    | some inferiorId => do
      Eff.modify (·.markInferiorRunning (some inferiorId))
      return scan
    | none => return scan
  | some "thread-group-exited" =>
    let inferiorId ← Eff.ofExcept (parseInferiorIdFromThreadGroup (fields.get "id"))
    let exitCode ← Eff.ofExcept (parseExitCode (fields.get "exit-code"))
    let reason := (asTextOrNumber (fields.get "reason")).filter (· ≠ "")
    Eff.modify (·.markInferiorExited (some (reason.getD "thread-group-exited")) exitCode inferiorId)
    return scan
  | some "thread-group-removed" =>
    match ← Eff.ofExcept (parseInferiorIdFromThreadGroup (fields.get "id")) with
    | some inferiorId => do
      Eff.modify (·.removeInferior inferiorId)
      return { scan with sawInferiorTopologyChange := true }
    | none => return scan
  | some "stopped" =>
    match scan.stop with
    | some _ => return scan
    | none => do
      let stop ← Eff.ofExcept (readStopFields notify.payload)
      return { scan with stop := some stop }
  | _ => return scan

def scanNotifies : StopScan → List MiNotifyRecord → RuntimeM StopScan
  | scan, [] => return scan
  | scan, notify :: rest => do
    let scan ← scanNotify scan notify
    scanNotifies scan rest

/-! ### Stops and command effects -/

/-- Build a structured stop event from one MI stopped notification. Its payload has been read without
an exception before. -/
def buildStopEvent (command : String) (stop : StopFields) (inferiorId : Option Int) (timestamp : Nat) :
    StopEvent :=
  let details := stop.payload.asDict
  { executionState := if isExitReason stop.reason then .exited else .paused
    reason := stop.reason
    command := some command
    inferiorId := inferiorId
    threadId := stop.threadId
    frame := asOptionalMapping (details.get "frame")
    signalName := asTextOrNumber (details.get "signal-name")
    signalMeaning := asTextOrNumber (details.get "signal-meaning")
    breakpointNumber := extractBreakpointNumber details
    exitCode := stop.exitCode
    timestamp := some timestamp
    details := details }

namespace SessionRuntime

/-- Select the thread and the frame of a stop, where it names them. -/
def selectStop (rt : SessionRuntime) (stop : StopFields) : SessionRuntime :=
  let rt := if stop.threadId.isSome then rt.markThreadSelected stop.threadId else rt
  if stop.frameLevel.isSome then rt.markFrameSelected stop.frameLevel else rt

/-- Write a stop into the runtime and record it. A stop that names no inferior is one of the current
inferior. -/
def applyStop (rt : SessionRuntime) (command : String) (stop : StopFields) (timestamp : Nat) :
    SessionRuntime :=
  let inferiorId := stop.inferiorId <|> rt.currentInferiorId
  let rt := rt.selectStop stop
  let rt :=
    if isExitReason stop.reason then rt.markInferiorExited stop.reason stop.exitCode inferiorId
    else rt.markInferiorPaused stop.reason inferiorId
  rt.recordStopEvent (buildStopEvent command stop inferiorId timestamp)

end SessionRuntime

/-- Whether a successful command loads an executable or core. -/
def loadsTarget (command : String) : Bool :=
  PyStr.startswith command "file " || PyStr.startswith command "core-file "

def normalizeCommand (command : String) : String := PyStr.lower (PyStr.strip command)

/-- A loaded file or core leaves the session without a process. -/
def applyLoad (normalized : String) (rt : SessionRuntime) : SessionRuntime :=
  let rt := { rt with targetLoaded := true }.clearAttachedPid
  if rt.executionState = .unknown then
    if PyStr.startswith normalized "core-file " then
      rt.markInferiorPaused (some "core-file") rt.currentInferiorId
    else rt.markInferiorNotStarted rt.currentInferiorId
  else rt

/-- An attached process is paused, unless a stop has said so already. -/
def applyAttach (attachedPid : Option Int) (rt : SessionRuntime) : SessionRuntime :=
  let rt := attachedPid.elim rt rt.markAttached
  if rt.executionState ≠ .paused ∨ rt.stopReason = none then
    rt.markInferiorPaused (some "attached") rt.currentInferiorId
  else rt

/-- What the text of a command that GDB has accepted changes in the runtime. -/
def applyCommandText (command : String) (parsed : ParsedMiResponse) : RuntimeM Unit := do
  let normalized := normalizeCommand command
  let accepted := !parsed.isErrorResult
  if loadsTarget normalized then
    Eff.modify (applyLoad normalized)
  else if PyStr.startswith normalized "attach " && accepted then
    Eff.modify fun rt => { rt with targetLoaded := true }
    let attachedPid ← Eff.ofExcept (parseAttachedPid normalized)
    Eff.modify (applyAttach attachedPid)
  else if normalized == "detach" && accepted then
    Eff.modify (·.clearAttachedPid)
  else if PyStr.startswith normalized "inferior " && accepted then
    let inferiorId ← Eff.ofExcept (parseInferiorId normalized)
    Eff.modify fun rt => inferiorId.elim rt fun k => rt.markInferiorSelected (some k)
  else if PyStr.startswith normalized "set follow-fork-mode " && accepted then
    Eff.modify (·.markFollowForkMode (parseFollowForkMode normalized))
  else if PyStr.startswith normalized "set detach-on-fork " && accepted then
    Eff.modify (·.markDetachOnFork (parseDetachOnFork normalized))

end GdbMcp
