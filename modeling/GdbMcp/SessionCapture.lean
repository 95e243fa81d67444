import GdbMcp.BasePath
import GdbMcp.CampaignRun
import GdbMcp.InspectionMemory
import GdbMcp.InspectionQueries

/-! Capture of the state of a session into the artifacts of a bundle. The writing of a file is a parameter, and so is what
the host says of its directories. -/

namespace GdbMcp

def captureMemoryMaxRangeBytes : Int := 4 * 1024

def captureMemoryMaxTotalBytes : Int := 64 * 1024

/-- One file artifact produced by a capture bundle. -/
structure CaptureArtifactInfo where
  name : String
  path : Path
  status : String

/-- Structured result for one capture bundle. -/
structure CaptureBundleInfo where
  bundleDir : Path
  manifestPath : Path
  artifacts : List CaptureArtifactInfo
  failedSections : List String
  executionState : ExecutionState
  stopReason : Option String
  lastStopEvent : Option StopEvent

/-! ### The request -/

/-- What is wrong with a memory range, the first one having the given index; `total` and `names` are those of the ranges
before it. -/
def memoryRangesProblem : Nat → Int → List String → List MemoryCaptureRange → Option String
  | _, _, _, [] => none
  | index, total, names, range :: rest =>
    if range.count < 1 then some s!"Memory range {index} must request at least one byte"
    else if range.offset < 0 then some s!"Memory range {index} must not use a negative offset"
    else if range.count > captureMemoryMaxRangeBytes then
      some (s!"Memory range {index} requests {range.count} bytes, which exceeds the per-range limit of " ++
        s!"{captureMemoryMaxRangeBytes}")
    else if total + range.count > captureMemoryMaxTotalBytes then
      some s!"Requested memory capture exceeds the total limit of {captureMemoryMaxTotalBytes} bytes"
    else
      match range.name with
      | none => memoryRangesProblem (index + 1) (total + range.count) names rest
      | some name =>
        if PyStr.strip name = "" then some s!"Memory range {index} name must not be blank"
        else if names.contains name then some s!"Duplicate memory range name: {name}"
        else memoryRangesProblem (index + 1) (total + range.count) (name :: names) rest

/-- Validate bounded capture options before creating a bundle directory. -/
def CaptureOptions.problem (request : CaptureOptions MemoryCaptureRange) : Option String :=
  memoryRangesProblem 0 0 [] request.memoryRanges

/-! ### The bundle directory -/

/-- What the host of the server says: its directories, where a text leads to, and the endings that a temporary directory
is tried with. -/
structure Host where
  tree : Tree
  expanduser : String → Except PyError String
  cwd : Path
  tempdir : String
  artifactRoot : Option String
  endings : List String

namespace Host

/-- The text of a path. -/
def pathText (raw : List String) : String := "/" ++ String.intercalate "/" raw

/-- The directory that holds the bundles, once it is made. -/
def baseDir (host : Host) (outputDir : Option String) : Except PyError (Path × Tree) :=
  match outputDir <|> host.artifactRoot with
  | some text => do
    let expanded ← host.expanduser text
    let base := Path.resolve (Path.join host.cwd expanded)
    match Tree.mkdirParents true base.reverse host.tree with
    | some tree => return (base, tree)
    | none => .error (.osError (pathText base))
  | none => return (Path.resolve (Path.join host.cwd host.tempdir), host.tree)

/-- `tempfile.mkdtemp`. -/
def mkdtemp (tree : Tree) (start : String) (base : Path) : List String → Except PyError Path
  | [] => .error (.osError "No usable temporary directory name found")
  | ending :: rest =>
    let path := base ++ [start ++ ending]
    match tree.entry path, tree.osMkdir path with
    | some _, _ => mkdtemp tree start base rest
    | none, .made _ => .ok path
    | none, _ => .error (.osError (pathText path))

/-- Create and return the directory that will hold one bundle. -/
def prepareBundleDir (host : Host) (outputDir bundleName : Option String) : Except PyError Path := do
  let (base, tree) ← host.baseDir outputDir
  match bundleName with
  | some name =>
    let raw := Path.join base name
    if tree.present raw then .error (.valueError s!"Capture bundle already exists: {pathText raw}")
    else if name.toList.contains '\x00' then .error (.valueError "embedded null byte")
    else if (Tree.mkdirParents false raw.reverse tree).isSome then return Path.resolve raw
    else .error (.osError (pathText raw))
  | none => mkdtemp tree "gdb-mcp-bundle-" base host.endings

/-- A capture is begun: its request is sound, and its directory can be made. -/
def Captures (host : Host) (request : CaptureOptions MemoryCaptureRange) (bundleDir : Path) : Prop :=
  request.problem = none ∧ host.prepareBundleDir request.outputDir request.bundleName = .ok bundleDir

/-- A host with a directory for temporary files, and nothing in it. -/
def fresh : Host where
  tree :=
    { entry := fun path => if path = [] ∨ path = ["tmp"] then some .directory else none
      permits := fun _ => true
      root := rfl
      closed := fun path hne hentry => by
        by_cases hpath : path = ["tmp"]
        · rw [hpath]
          rfl
        · simp [hne, hpath] at hentry }
  expanduser := .ok
  cwd := []
  tempdir := "/tmp"
  artifactRoot := none
  endings := ["0"]

end Host

/-- The file of an artifact. -/
def artifactPath (bundleDir : Path) (name : String) : Path := bundleDir ++ [name ++ ".json"]

/-! ### The sections -/

/-- What a capture has written so far, and the sections that have failed. -/
structure CaptureProgress where
  artifacts : List CaptureArtifactInfo := []
  failedSections : List String := []

def CaptureProgress.failing (progress : CaptureProgress) (sections : List String) : CaptureProgress :=
  { progress with failedSections := progress.failedSections ++ sections }

/-- The ids of the listed threads. -/
def threadIds : List Value → Except PyError (List Int)
  | [] => .ok []
  | thread :: rest =>
    match asText (thread.get "id") with
    | some rawId =>
      if PyStr.isdigit rawId then do
        let id ← PyStr.int 10 rawId
        let ids ← threadIds rest
        return id :: ids
      else threadIds rest
    | none => threadIds rest

/-- A stable failed-section name for one memory-range capture request. -/
def memoryRangeSectionName (range : MemoryCaptureRange) : String :=
  match range.name with
  | some name => s!"memory-range:{name}"
  | none => s!"memory-range:{range.address}"

namespace Session

variable {W : Type} [Gdb W] {α : Type}

/-- What a capture uses besides the session. -/
structure CaptureTools (W : Type) where
  host : Host
  /-- `path.write_text(...)`. -/
  writeText : Path → SessionM W Unit

section Sections

variable (tools : CaptureTools W) (bundleDir : Path) (request : CaptureOptions MemoryCaptureRange)

/-- Write one JSON artifact. -/
def writeArtifact (name status : String) (progress : CaptureProgress) : SessionM W CaptureProgress := do
  tools.writeText (artifactPath bundleDir name)
  return { progress with
    artifacts := progress.artifacts ++ [{ name, path := artifactPath bundleDir name, status }] }

/-- Serialize one operation result into an artifact file. -/
def writeResult (name : String) (result : OperationResult α) (progress : CaptureProgress) : SessionM W CaptureProgress := do
  if result.isSuccess then writeArtifact tools bundleDir name "success" progress
  else
    let progress ← writeArtifact tools bundleDir name "error" progress
    return progress.failing [name]

def captureStopHistory (progress : CaptureProgress) : SessionM W CaptureProgress := do
  if request.includeStopHistory then writeArtifact tools bundleDir "stop-history" "success" progress
  else return progress

def captureTranscript (progress : CaptureProgress) : SessionM W CaptureProgress := do
  if request.includeTranscript then writeArtifact tools bundleDir "command-transcript" "success" progress
  else return progress

/-- The list of the threads, and their ids. -/
def captureThreads (progress : CaptureProgress) : SessionM W (CaptureProgress × List Int) := do
  if request.includeThreads || request.includeBacktraces then
    let result ← getThreads
    let progress ← writeResult tools bundleDir "threads" result progress
    match result with
    | .success info _ => return (progress, ← narrow (threadIds info.threads))
    | .error .. => return (progress, [])
  else return (progress, [])

/-- The failed sections of the backtraces of threads. -/
def backtraceFailures : List Int → SessionM W (List String)
  | [] => return []
  | threadId :: rest => do
    let result ← getBacktrace (some threadId) request.maxFrames
    let failures ← backtraceFailures rest
    return (if result.isSuccess then [] else [s!"thread-{threadId}-backtrace"]) ++ failures

/-- The failed sections of the backtraces of the listed threads. -/
def listedFailures (ids : List Int) : SessionM W (List String) :=
  if ids.isEmpty then return ["thread-backtraces"] else backtraceFailures request ids

def captureBacktraces (ids : List Int) (progress : CaptureProgress) : SessionM W CaptureProgress := do
  if request.includeBacktraces then
    let failures ← listedFailures request ids
    writeArtifact tools bundleDir "thread-backtraces" "success" (progress.failing failures)
  else return progress

def captureFrame (progress : CaptureProgress) : SessionM W CaptureProgress := do
  if request.includeFrame then writeResult tools bundleDir "current-frame" (← getFrameInfo none none) progress
  else return progress

def captureVariables (currentThreadId : Option Int) (currentFrame : Int) (progress : CaptureProgress) :
    SessionM W CaptureProgress := do
  if request.includeVariables then
    writeResult tools bundleDir "current-variables" (← getVariables currentThreadId currentFrame) progress
  else return progress

def captureRegisters (currentThreadId : Option Int) (progress : CaptureProgress) : SessionM W CaptureProgress := do
  if request.includeRegisters then
    let frame ← read SessionRuntime.currentFrame
    writeResult tools bundleDir "current-registers" (← getRegisters currentThreadId frame {}) progress
  else return progress

/-- The failed sections of expressions. -/
def expressionFailures (currentThreadId : Option Int) : List String → SessionM W (List String)
  | [] => return []
  | expression :: rest => do
    let frame ← read SessionRuntime.currentFrame
    let result ← evaluateExpression expression currentThreadId frame
    let failures ← expressionFailures currentThreadId rest
    return (if result.isSuccess then [] else [s!"expression:{expression}"]) ++ failures

def captureExpressions (currentThreadId : Option Int) (progress : CaptureProgress) : SessionM W CaptureProgress := do
  if request.expressions.isEmpty then return progress
  else
    let failures ← expressionFailures currentThreadId request.expressions
    writeArtifact tools bundleDir "expressions" "success" (progress.failing failures)

/-- The failed sections of memory ranges. -/
def memoryRangeFailures : List MemoryCaptureRange → SessionM W (List String)
  | [] => return []
  | range :: rest => do
    let result ← readMemory range.address range.count range.offset
    let failures ← memoryRangeFailures rest
    return (if result.isSuccess then [] else [memoryRangeSectionName range]) ++ failures

def captureMemoryRanges (progress : CaptureProgress) : SessionM W CaptureProgress := do
  if request.memoryRanges.isEmpty then return progress
  else
    let failures ← memoryRangeFailures request.memoryRanges
    writeArtifact tools bundleDir "memory-ranges" "success" (progress.failing failures)

/-- The sections that are evaluated in the current context. The thread and the frame are those that the runtime
remembers here. -/
def captureContext (progress : CaptureProgress) : SessionM W CaptureProgress := do
  let currentThreadId ← read SessionRuntime.currentThreadId
  let currentFrame ← read SessionRuntime.currentFrame
  let progress ← captureFrame tools bundleDir request progress
  let progress ← captureVariables tools bundleDir request currentThreadId (currentFrame.getD 0) progress
  let progress ← captureRegisters tools bundleDir request currentThreadId progress
  captureExpressions tools bundleDir request currentThreadId progress

/-- All sections, one after the other. -/
def captureSections : SessionM W (OperationResult CaptureBundleInfo) := do
  let statusResult ← getStatus
  let status ← read SessionRuntime.statusSnapshot
  let progress ← writeResult tools bundleDir "session-status" statusResult {}
  let progress ← writeArtifact tools bundleDir "last-stop-event" "success" progress
  let progress ← captureStopHistory tools bundleDir request progress
  let progress ← captureTranscript tools bundleDir request progress
  let (progress, ids) ← captureThreads tools bundleDir request progress
  let progress ← captureBacktraces tools bundleDir request ids progress
  let progress ← captureContext tools bundleDir request progress
  let progress ← captureMemoryRanges tools bundleDir request progress
  let progress ← writeArtifact tools bundleDir "manifest" "success" progress
  let lastStopEvent ← read SessionRuntime.lastStopEvent
  let failedSections := progress.failedSections.eraseDups.mergeSort
  return .success
    { bundleDir, manifestPath := artifactPath bundleDir "manifest", artifacts := progress.artifacts, failedSections
      executionState := status.executionState, stopReason := status.stopReason, lastStopEvent }
    (failedSections.map fun name => s!"Capture section failed: {name}")

end Sections

/-- Write a structured capture bundle to disk and return its manifest paths. -/
def captureBundle (tools : CaptureTools W) (request : CaptureOptions MemoryCaptureRange) :
    SessionM W (OperationResult CaptureBundleInfo) :=
  match request.problem with
  | some message => return .error message
  | none =>
    match tools.host.prepareBundleDir request.outputDir request.bundleName with
    | .ok bundleDir => captureSections tools bundleDir request
    | .error (.osError message) => return .error s!"Failed to create capture bundle directory: {message}"
    | .error (.valueError message) => return .error message
    | .error e => narrow (.error e)

end Session
end GdbMcp
