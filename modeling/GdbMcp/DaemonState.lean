import GdbMcp.MiRecord
import Mathlib.Data.List.Basic

/-! The background server of a project, and the cookie file that remembers it. -/

namespace GdbMcp

/-- How far a server process has come. Only a serving one can be reached. -/
inductive ServerStage where
  | starting | serving | dead
  deriving DecidableEq, Repr

/-- A server process. The field `asked` is history: it has been asked to exit. -/
structure Server where
  pid : Int
  url : String
  token : String
  stage : ServerStage
  asked : Bool := false

/-- The content of a cookie file. The field `origin` is history: the spawn that wrote it first, if any. -/
structure Cookie where
  fields : List (String × Value)
  origin : Option Nat := none

/-- `data[key] = value`. -/
def setField (fields : List (String × Value)) (key : String) (value : Value) : List (String × Value) :=
  if fields.any (·.1 == key) then fields.map fun field => if field.1 == key then (key, value) else field
  else fields ++ [(key, value)]

/-- `data.pop(key, None)`. -/
def popField (fields : List (String × Value)) (key : String) : List (String × Value) :=
  fields.filter (·.1 != key)

namespace Cookie

def get (cookie : Cookie) (key : String) : Value := (Value.dict cookie.fields).get key

def url (cookie : Cookie) : Option String :=
  match cookie.get "url" with
  | .str url => some url
  | _ => none

def token (cookie : Cookie) : Option String :=
  match cookie.get "token" with
  | .str token => some token
  | _ => none

def pid (cookie : Cookie) : Option Int :=
  match cookie.get "pid" with
  | .int pid => some pid
  | .bool b => some (if b then 1 else 0)
  | _ => none

def statusText (cookie : Cookie) (url : String) : String := "running: " ++ url ++ " (pid " ++ (cookie.get "pid").text ++ ")"

/-- The cookie of a server that has been spawned. -/
def spawned (k : Nat) (server : Server) (log : String) (startedAt : Value) : Cookie where
  fields := [("pid", .int server.pid), ("url", .str server.url), ("token", .str server.token),
    ("log", .str log), ("started_at", startedAt)]
  origin := some k

end Cookie

/-- An update of the remembered session. -/
inductive SessionUpdate where
  | remember (sessionId : Int)
  | forget
  deriving DecidableEq, Repr

/-- The cookie to be written, if any. -/
def SessionUpdate.apply (update : SessionUpdate) (cookie : Option Cookie) : Option Cookie :=
  match update with
  | .remember sessionId =>
    let cookie := cookie.getD { fields := [] }
    some { cookie with fields := setField cookie.fields "last_session_id" (.int sessionId) }
  | .forget =>
    (cookie.filter fun cookie => cookie.fields.any (·.1 == "last_session_id")).map fun cookie =>
      { cookie with fields := popField cookie.fields "last_session_id" }

/-- A cookie file: it may be missing, or hold something else than a mapping. -/
inductive CookieFile where
  | missing
  | unreadable
  | holds (cookie : Cookie)

def CookieFile.read : CookieFile → Option Cookie
  | .holds cookie => some cookie
  | _ => none

/-- The server endpoint selected for one CLI invocation. -/
structure ResolvedServer where
  url : String
  token : Option String
  spawned : Bool
  managed : Bool := false
  deriving DecidableEq, Repr

/-- Outcome of a daemon stop request. -/
structure StopResult where
  stopped : Bool
  message : String
  deriving DecidableEq, Repr

/-- A project: its root, its cookie file and the servers ever started for it. -/
structure Project where
  root : String
  log : String
  posix : Bool := true
  cookie : CookieFile
  servers : List Server

namespace Project

variable (p : Project)

/-- Whether a probe of the endpoint succeeds. -/
def reachable (url : String) (token : Option String) : Bool :=
  p.servers.any fun v => v.stage == .serving && v.url == url && some v.token == token

/-- The live managed server for a cookie, or none when it is stale. -/
def resolvedFromCookie (cookie : Cookie) : Option ResolvedServer :=
  match cookie.url with
  | some url =>
    if p.reachable url cookie.token then
      some { url, token := cookie.token, spawned := false, managed := true }
    else none
  | none => none

def processAlive (pid : Int) : Bool := p.servers.any fun v => v.stage != .dead && v.pid == pid

/-- The servers that accept a shutdown request have been asked to exit. -/
def askUrl (url : String) (token : Option String) : Project :=
  { p with servers := p.servers.map fun v =>
      if v.stage = .serving ∧ v.url = url ∧ some v.token = token then { v with asked := true } else v }

/-- The processes that a termination signal reaches have been asked to exit. -/
def askPid (pid : Int) : Project :=
  { p with servers := p.servers.map fun v =>
      if v.stage ≠ .dead ∧ v.pid = pid then { v with asked := true } else v }

def setStage (k : Nat) (stage : ServerStage) : Project :=
  { p with servers := p.servers.modify k fun v => { v with stage := stage } }

def launch (server : Server) : Project := { p with servers := p.servers ++ [server] }

def writeCookie (cookie : Cookie) : Project := { p with cookie := .holds cookie }

def removeCookie : Project := { p with cookie := .missing }

def noServerText : String := s!"no background server for {p.root}"

end Project
end GdbMcp
