import GdbMcp.ClientCoercion
import GdbMcp.ClientSteps
import GdbMcp.DaemonStop
import GdbMcp.WorkflowResult

/-! One invocation of the command line client. It resolves the server, puts in the default session of the project where
a tool needs one and none is given, calls the tool, and updates the default session. -/

namespace GdbMcp

open Eff

/-! ### Results of tools -/

/-- Structured result for one CLI-driven MCP tool invocation. -/
structure ClientToolResponse where
  payload : Payload
  isError : Bool

/-- Narrowed view over one MCP tool result payload. -/
structure ToolEnvelope where
  action : Option String
  message : Option String
  sessionId : Option Int
  errorCount : Option Int
  result : Option Value

/-- Build a typed envelope from a raw tool payload. -/
def ToolEnvelope.fromPayload (payload : Payload) : Except PyError ToolEnvelope := do
  let field := (Value.dict payload).get
  let sessionId ← asInt (field "session_id")
  let errorCount ← asInt (field "error_count")
  return {
    action := asText (field "action"), message := asText (field "message"), sessionId, errorCount
    result := asOptionalMapping (field "result") }

/-- Return the session id reported by a session-creating response. -/
def sessionIdFromPayload (payload : Payload) : Except PyError (Option Int) := do
  let envelope ← ToolEnvelope.fromPayload payload
  match envelope.sessionId, envelope.result with
  | some sessionId, _ => return some sessionId
  | none, some result => asInt (result.get "session_id")
  | none, none => return none

/-- Batch envelopes keep status=success while individual steps fail. -/
def payloadReportsStepFailures (payload : Payload) : Except PyError Bool := do
  return (← ToolEnvelope.fromPayload payload).errorCount.any (0 < ·)

/-! ### Command lines -/

/-- The parsed fields of a command line. -/
structure Namespace where
  sessionId : Option Int := none
  fields : List (String × Value) := []

namespace Namespace

def get (args : Namespace) (name : String) : Value := (Value.dict args.fields).get name

def set (args : Namespace) (name : String) (value : Value) : Namespace :=
  { args with fields := setField args.fields name value }

end Namespace

/-- One human command mapped onto a tool call. -/
structure FacadeCommand where
  action : Option String := none
  positionals : List (String × String) := []
  fixed : List (String × Value) := []

def facadePositionals : List String :=
  ["program", "endpoint", "pid", "frame", "address", "location", "number", "expression", "event", "function_call", "command"]

/-- Fold one facade positional into its flag field, rejecting duplicates. -/
def mergeFacadePositional (args : Namespace) (argument flag : String) : Except String Namespace :=
  if facadePositionals.contains argument then
    match args.get ("_" ++ argument), args.get argument with
    | .none, _ => .ok args
    | value, .none => .ok (args.set argument value)
    | _, _ => .error s!"pass either {flag} or the positional argument, not both"
  else .error s!"unsupported facade positional: {argument}"

def fixFacadeField (args : Namespace) (name : String) (value : Value) : Except String Namespace :=
  if name = "breakpoint_kind" then
    match args.get name with
    | .none => .ok (args.set name value)
    | _ => .ok args
  else .error s!"unsupported facade fixed field: {name}"

/-- Fold a facade command's positionals and implied fields into the namespace. -/
def applyFacadeMetadata (args : Namespace) (command : FacadeCommand) : Except String Namespace := do
  let args ← command.positionals.foldlM (fun args (argument, flag) => mergeFacadePositional args argument flag) args
  let args := match command.action, args.get "action" with
    | some action, .none => args.set "action" (.str action)
    | _, _ => args
  command.fixed.foldlM (fun args (name, value) => fixFacadeField args name value) args

/-- Why no payload can be built: a misuse of the flags, or the errors of a validation with their text. -/
inductive BuildError where
  | usage (message : String)
  | validation (issues : List ValidationIssue) (text : String)

def BuildError.message : BuildError → String
  | usage message => message
  | validation _ text => text

/-- How the payload of a tool is built from the fields of a command line, and how a raw one is validated. -/
structure RegisteredToolCliSpec where
  buildArguments : Namespace → Except BuildError Payload
  validatePayload : Payload → Except BuildError Payload

/-- Return whether a validation failure is about a missing session id. -/
def sessionIdError (issues : List ValidationIssue) : Bool :=
  issues.any fun issue => issue.loc.contains (.field "session_id") && ["missing", "int_type"].contains issue.type

/-- Return the canonical tool name, accepting the short gdb_-less form. -/
def canonicalToolName (toolName : String) : Option String :=
  if publicToolNames.contains toolName then some toolName
  else if publicToolNames.contains ("gdb_" ++ toolName) then some ("gdb_" ++ toolName)
  else none

/-- The arguments of a tool: fields, perhaps with those of a facade command, or a raw payload as it has been decoded. -/
inductive ToolMode where
  | fields (args : Namespace) (facade : Option FacadeCommand)
  | payload (decoded : Except String Value)

/-- The session on the command line. -/
def ToolMode.given : ToolMode → Option Int
  | fields args _ => args.sessionId
  | payload _ => none

/-- What a command line asks for. -/
inductive Invocation where
  | tool (serverUrl : Option String) (name : String) (mode : ToolMode)
  | sessionUse (serverUrl : Option String) (sessionId : Int)
  | sessionCurrent
  | daemonStatus
  | daemonStop (force : Bool)

/-! ### The project -/

/-- The session recorded in a cookie. -/
def Cookie.session (cookie : Cookie) : Option Int :=
  match cookie.get "last_session_id" with
  | .int sessionId => some sessionId
  | .bool b => some (if b then 1 else 0)
  | _ => none

/-- What lies beyond the client: its servers, the environment, and the processes of the machine. -/
class ClientHost (W : Type) where
  authToken : W → Option String
  invokeTool : (url : String) → (token : Option String) → (tool : String) → (arguments : Payload) → W →
    Except PyError ClientToolResponse × W
  spawn : W → Except String (Server × Value) × W
  stopHost : W → StopHost × W

/-- A request to a server, the session on the command line and the one in its place, and what comes of the request. -/
structure ToolCall where
  server : ResolvedServer
  tool : String
  arguments : Payload
  given : Option Int
  session : Option Int
  outcome : Except PyError ClientToolResponse

/-- What a client does beyond its project. -/
inductive ClientEvent where
  | called (call : ToolCall)
  | spawned

/-- The project of a client. The field `log` is history. -/
structure ClientState (W : Type) where
  world : W
  root : String := ""
  cookieLog : String := ""
  file : CookieFile := .missing
  output : List String := []
  log : List ClientEvent := []

/-- How an invocation ends without an exit code of its own: `parser.error`, a `DaemonError`, or another exception. -/
inductive ClientError where
  | usage (message : String)
  | daemon (message : String)
  | raised (error : PyError)

abbrev ClientM (W : Type) := Eff (ClientState W) ClientError

namespace Client

variable {W : Type}

def narrow {α : Type} (x : Except PyError α) : ClientM W α := ofExcept (x.mapError .raised)

def print (text : String) : ClientM W Unit := modify fun c => { c with output := c.output ++ [text] }

def removeCookie : ClientM W Unit := modify fun c => { c with file := .missing }

/-- Return the session recorded for the current project, if any. -/
def rememberedSessionId : ClientM W (Option Int) := gets fun c => c.file.read.bind Cookie.session

def updateSession (update : SessionUpdate) : ClientM W Unit := modify fun c =>
  match update.apply c.file.read with
  | some cookie => { c with file := .holds cookie }
  | none => c

/-- Record the project's most recent session in its cookie. -/
def rememberSessionId (sessionId : Int) : ClientM W Unit := updateSession (.remember sessionId)

/-- Drop the project's remembered session, if any. -/
def forgetSessionId : ClientM W Unit := updateSession .forget

variable [ClientHost W]

/-! ### The server -/

/-- Connect to one MCP HTTP endpoint, invoke a tool, and return its parsed payload. -/
def invokeTool (server : ResolvedServer) (tool : String) (arguments : Payload) (given session : Option Int) :
    ClientM W ClientToolResponse := ⟨fun c =>
  let (outcome, world) := ClientHost.invokeTool server.url server.token tool arguments c.world
  (outcome.mapError .raised,
    { c with world, log := c.log ++ [.called { server, tool, arguments, given, session, outcome }] })⟩

/-- Probe one server with a cheap MCP call. -/
def serverReachable (server : ResolvedServer) : ClientM W Bool :=
  attempt (do let _ ← invokeTool server "gdb_session_query" [("action", .str "list")] none none; return true)
    fun _ => return false

/-- Return a live managed server for a cookie, or none when it is stale. -/
def resolvedFromCookie (cookie : Cookie) : ClientM W (Option ResolvedServer) :=
  match cookie.url with
  | none => return none
  | some url => do
    let server : ResolvedServer := { url, token := cookie.token, spawned := false, managed := true }
    return if ← serverReachable server then some server else none

/-- Start a server, and write its cookie once it is ready. -/
def spawn : ClientM W ResolvedServer := do
  match ← ⟨fun c => let (spawned, world) := ClientHost.spawn c.world; (.ok spawned, { c with world })⟩ with
  | .error message => raise (.daemon message)
  | .ok (server, startedAt) => do
    modify fun c => { c with
      file := .holds (.spawned c.log.length server c.cookieLog startedAt)
      log := c.log ++ [.spawned] }
    return { url := server.url, token := some server.token, spawned := true, managed := true }

/-- The live server of the cookie, if any. -/
def probeCookie : ClientM W (Option ResolvedServer) := do
  match (← gets ClientState.file).read with
  | none => return none
  | some cookie => resolvedFromCookie cookie

/-- Resolve the server for one invocation, starting a daemon when needed. -/
def resolveServer (explicitUrl : Option String) : ClientM W ResolvedServer := do
  match explicitUrl.filter (· ≠ "") with
  | some url => return { url, token := ← gets fun c => ClientHost.authToken c.world, spawned := false }
  | none =>
    match ← probeCookie with
    | some server => return server
    | none =>
      -- the same again under the lock
      match (← gets ClientState.file).read with
      | none => spawn
      | some cookie =>
        match ← resolvedFromCookie cookie with
        | some server => return server
        | none => do
          removeCookie
          spawn

/-! ### A tool -/

/-- The recorded session, which is one of the managed server. -/
def recordedFor (resolved : ResolvedServer) : ClientM W (Option Int) :=
  if resolved.managed then rememberedSessionId else return none

def recordFor (resolved : ResolvedServer) (sessionId : Int) : ClientM W Unit :=
  if resolved.managed then rememberSessionId sessionId else return ()

/-- Give `attach` a session, starting a fresh one when none is recorded. -/
def ensureAttachSession (args : Namespace) (resolved : ResolvedServer) : ClientM W Namespace := do
  match args.sessionId with
  | some _ => return args
  | none =>
    match ← recordedFor resolved with
    | some sessionId => return { args with sessionId := some sessionId }
    | none =>
      let response ← invokeTool resolved "gdb_session_start" [] none none
      if response.isError then
        let message := (← narrow (ToolEnvelope.fromPayload response.payload)).message
        raise (.usage ((message.filter (· ≠ "")).getD "could not start a session to attach to"))
      else
        match ← narrow (sessionIdFromPayload response.payload) with
        | none => raise (.usage "could not start a session to attach to")
        | some sessionId => do
          recordFor resolved sessionId
          return { args with sessionId := some sessionId }

/-- Build one tool payload, filling a remembered session id when needed. -/
def buildPayload (spec : RegisteredToolCliSpec) (args : Namespace) (resolved : ResolvedServer) :
    ClientM W (Payload × Option Int) := do
  match spec.buildArguments args with
  | .ok payload => return (payload, args.sessionId)
  | .error (.usage message) => raise (.usage message)
  | .error (.validation issues text) =>
    if !resolved.managed || !sessionIdError issues then raise (.usage text)
    else
      match ← rememberedSessionId with
      | none => raise (.usage "--session-id required: no debug session is recorded for this project yet")
      | some sessionId =>
        match spec.buildArguments { args with sessionId := some sessionId } with
        | .ok payload => return (payload, some sessionId)
        | .error error => raise (.usage error.message)

/-- The payload for a tool, and the session that is in it, unless the invocation ends here with exit code 1. -/
def preparePayload (spec : RegisteredToolCliSpec) (tool : String) (resolved : ResolvedServer) :
    ToolMode → ClientM W (Option (Payload × Option Int))
  | .payload (.error message) => raise (.usage s!"--payload-json is not valid JSON: {message}")
  | .payload (.ok (.dict fields)) =>
    match spec.validatePayload fields with
    | .ok payload => return some (payload, none)
    | .error error => raise (.usage error.message)
  | .payload (.ok _) => raise (.usage "--payload-json must be a JSON object")
  | .fields args facade => do
    match facade.elim (.ok args) (applyFacadeMetadata args) with
    | .error message => raise (.usage message)
    | .ok args =>
      let attached ←
        if tool = "gdb_attach_process" then
          attempt (some <$> ensureAttachSession args resolved) fun
            | .usage message => raise (.usage message)
            | _ => return none
        else pure (some args)
      match attached with
      | none => return none
      | some args => some <$> buildPayload spec args resolved

/-- Record the session that has been created. -/
def recordCreated (resolved : ResolvedServer) (tool : String) (response : ClientToolResponse) : ClientM W Unit :=
  if resolved.managed && !response.isError && ["gdb_session_start", "gdb_session_connect"].contains tool then do
    match ← narrow (sessionIdFromPayload response.payload) with
    | some sessionId => rememberSessionId sessionId
    | none => return ()
  else return ()

/-- Forget the session that has been stopped. -/
def forgetStopped (resolved : ResolvedServer) (tool : String) (session : Option Int) (response : ClientToolResponse) :
    ClientM W Unit :=
  if resolved.managed && !response.isError && tool == "gdb_session_manage" then do
    let envelope ← narrow (ToolEnvelope.fromPayload response.payload)
    let remembered ← rememberedSessionId
    if envelope.action = some "stop" && session = remembered then forgetSessionId else return ()
  else return ()

/-- The server, unless none can be started. -/
def tryResolveServer (serverUrl : Option String) : ClientM W (Option ResolvedServer) :=
  attempt (some <$> resolveServer serverUrl) fun
    | .daemon _ => return none
    | error => raise error

def runTool (specs : String → RegisteredToolCliSpec) (serverUrl : Option String) (name : String) (mode : ToolMode) :
    ClientM W Int := do
  match canonicalToolName name with
  | none => raise (.usage s!"unknown tool: {name}")
  | some tool =>
    match ← tryResolveServer serverUrl with
    | none => return 1
    | some resolved =>
      match ← preparePayload (specs tool) tool resolved mode with
      | none => return 1
      | some (payload, session) =>
        match ← attempt (some <$> invokeTool resolved tool payload mode.given session) (fun _ => return none) with
        | none => return 1
        | some response => do
          recordCreated resolved tool response
          forgetStopped resolved tool session response
          if response.isError then return 1
          else return if ← narrow (payloadReportsStepFailures response.payload) then 1 else 0

/-! ### Meta commands -/

/-- Make one session the default for this project. -/
def runSessionUse (serverUrl : Option String) (sessionId : Int) : ClientM W Int := do
  match ← tryResolveServer serverUrl with
  | none => return 1
  | some resolved =>
    if !resolved.managed then return 1
    else
      match ← attempt (some <$> invokeTool resolved "gdb_session_query"
          [("action", .str "status"), ("session_id", .int sessionId)] (some sessionId) (some sessionId))
          (fun _ => return none) with
      | none => return 1
      | some response =>
        if response.isError then
          let _ ← narrow (ToolEnvelope.fromPayload response.payload)
          return 1
        else
          rememberSessionId sessionId
          print s!"default session: {sessionId}"
          return 0

/-- Print the default session for this project. -/
def runSessionCurrent : ClientM W Int := do
  match ← rememberedSessionId with
  | none => return 1
  | some sessionId => do
    print (toString sessionId)
    return 0

/-- Describe the background server for the current project. -/
def daemonStatus : ClientM W String := do
  let root ← gets ClientState.root
  match (← gets ClientState.file).read with
  | none => return s!"no background server for {root}"
  | some cookie =>
    match cookie.url with
    | some url =>
      if ← serverReachable { url, token := cookie.token, spawned := false, managed := true } then
        return cookie.statusText url
      else
        removeCookie
        return s!"stale cookie removed for {root}"
    | none =>
      removeCookie
      return s!"stale cookie removed for {root}"

/-- Ask the background server to exit. -/
def stopDaemon (force : Bool) : ClientM W StopResult := ⟨fun c =>
  let (host, world) := ClientHost.stopHost c.world
  let (result, stopped) := (host.stopDaemon force).run { file := c.file }
  (result.mapError .raised, { c with world, file := stopped.file })⟩

end Client

/-- Run one CLI invocation and return its process exit code. -/
def Invocation.main {W : Type} [ClientHost W] (specs : String → RegisteredToolCliSpec) : Invocation → ClientM W Int
  | tool serverUrl name mode => Client.runTool specs serverUrl name mode
  | sessionUse serverUrl sessionId => Client.runSessionUse serverUrl sessionId
  | sessionCurrent => Client.runSessionCurrent
  | daemonStatus => do
    Client.print (← Client.daemonStatus)
    return 0
  | daemonStop force => do
    let result ← Client.stopDaemon force
    Client.print result.message
    return if result.stopped then 0 else 1

end GdbMcp
