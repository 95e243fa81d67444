import GdbMcp.BaseTransition
import GdbMcp.DaemonState
import Mathlib.Logic.Function.Basic

/-! The invocations of the command line client on one project, step by step. Any number of them is under way at
once; a step is one operation on the cookie file, one probe or request, or one operation of the project lock.
A server may die at any time. -/

namespace GdbMcp

inductive DaemonRequest where
  | resolveServer
  | updateSession (update : SessionUpdate)
  | daemonStatus
  | stopDaemon

inductive DaemonReply where
  | resolved (server : ResolvedServer)
  | raised (message : String)
  | updated
  | status (text : String)
  | stopped (result : StopResult)

/-- How far an invocation has come. -/
inductive DaemonCall where
  | requested (request : DaemonRequest)
  -- resolve_server; from `locked` to `releasing` the lock is held
  | probing (cookie : Cookie)
  | acquiring
  | locked
  | probingLocked (cookie : Cookie)
  | discarding (cookie : Cookie)
  | spawning
  | launched (k : Nat)
  | writing (k : Nat)
  | releasing (reply : DaemonReply)
  -- remember_session_id and forget_session_id
  | updateLocked (update : SessionUpdate)
  | updateWriting (cookie : Cookie)
  -- daemon_status
  | statusProbing (cookie : Cookie)
  | statusRemoving (cookie : Cookie)
  -- stop_daemon
  | posting (cookie : Cookie) (url : String)
  | awaitingExit (cookie : Cookie) (requestError : Option String)
  | signalled (cookie : Cookie) (requestError : Option String)
  | stopRemoving (cookie : Cookie) (requestError : Option String)
  | invalidRemoving (cookie : Cookie)
  | reporting (cookie : Cookie) (requestError : Option String)
  | returned (reply : DaemonReply)

/-- Whether an invocation at this point holds the lock. -/
def DaemonCall.holdsLock : DaemonCall → Bool
  | locked | probingLocked _ | discarding _ | spawning | launched _ | writing _ | releasing _ | updateLocked _ |
    updateWriting _ => true
  | _ => false

/-- The project, the holder of its lock and the invocations. The field `updates` is history: the updates of the
remembered session, in the order in which they took the lock. -/
structure DaemonSystem where
  project : Project
  holder : Option Nat := none
  calls : Nat → DaemonCall
  updates : List SessionUpdate := []

/-- The parties of the system, and what they do. -/
inductive DaemonEvent where
  | call (c : Nat)
  | spawnFails (c : Nat)
  | dies (k : Nat)
  deriving DecidableEq

namespace DaemonSystem

def goto (s : DaemonSystem) (c : Nat) (call : DaemonCall) : DaemonSystem :=
  { s with calls := Function.update s.calls c call }

/-- The invocation has come to a new point and has changed the project. -/
def gotoWith (s : DaemonSystem) (project : Project) (c : Nat) (call : DaemonCall) : DaemonSystem :=
  { s.goto c call with project }

def acquire (s : DaemonSystem) (c : Nat) (call : DaemonCall) : DaemonSystem :=
  { s.goto c call with holder := some c }

def release (s : DaemonSystem) (c : Nat) (reply : DaemonReply) : DaemonSystem :=
  { s.goto c (.returned reply) with holder := none }

open DaemonCall in
/-- One step. -/
inductive Step (s : DaemonSystem) : DaemonEvent → DaemonSystem → Prop
  | die {k : Nat} : Step s (.dies k) { s with project := s.project.setStage k .dead }
  -- resolve_server
  | readNone {c : Nat} (hcall : s.calls c = requested .resolveServer) (hnone : s.project.cookie.read = none) :
      Step s (.call c) (s.goto c acquiring)
  | readSome {c : Nat} {cookie : Cookie} (hcall : s.calls c = requested .resolveServer)
      (hcookie : s.project.cookie.read = some cookie) : Step s (.call c) (s.goto c (probing cookie))
  | probeLive {c : Nat} {cookie : Cookie} {server : ResolvedServer} (hcall : s.calls c = probing cookie)
      (hlive : s.project.resolvedFromCookie cookie = some server) :
      Step s (.call c) (s.goto c (returned (.resolved server)))
  | probeStale {c : Nat} {cookie : Cookie} (hcall : s.calls c = probing cookie)
      (hstale : s.project.resolvedFromCookie cookie = none) : Step s (.call c) (s.goto c acquiring)
  | acquireResolve {c : Nat} (hcall : s.calls c = acquiring) (hfree : s.holder = none) :
      Step s (.call c) (s.acquire c locked)
  | rereadNone {c : Nat} (hcall : s.calls c = locked) (hnone : s.project.cookie.read = none) :
      Step s (.call c) (s.goto c spawning)
  | rereadSome {c : Nat} {cookie : Cookie} (hcall : s.calls c = locked)
      (hcookie : s.project.cookie.read = some cookie) : Step s (.call c) (s.goto c (probingLocked cookie))
  | reprobeLive {c : Nat} {cookie : Cookie} {server : ResolvedServer} (hcall : s.calls c = probingLocked cookie)
      (hlive : s.project.resolvedFromCookie cookie = some server) :
      Step s (.call c) (s.goto c (releasing (.resolved server)))
  | reprobeStale {c : Nat} {cookie : Cookie} (hcall : s.calls c = probingLocked cookie)
      (hstale : s.project.resolvedFromCookie cookie = none) : Step s (.call c) (s.goto c (discarding cookie))
  | discard {c : Nat} {cookie : Cookie} (hcall : s.calls c = discarding cookie) :
      Step s (.call c) (s.gotoWith s.project.removeCookie c spawning)
  | launch {c : Nat} (pid : Int) (url token : String) (hcall : s.calls c = spawning) :
      Step s (.call c) (s.gotoWith (s.project.launch { pid, url, token, stage := .starting }) c
        (launched s.project.servers.length))
  | ready {c k : Nat} {server : Server} (hcall : s.calls c = launched k)
      (hserver : s.project.servers[k]? = some server) (hstage : server.stage = .starting) :
      Step s (.call c) (s.gotoWith (s.project.setStage k .serving) c (writing k))
  | spawnFails {c k : Nat} (message : String) (hcall : s.calls c = launched k) :
      Step s (.spawnFails c) (s.gotoWith (s.project.setStage k .dead) c (releasing (.raised message)))
  | writeSpawned {c k : Nat} {server : Server} (startedAt : Value) (hcall : s.calls c = writing k)
      (hserver : s.project.servers[k]? = some server) :
      Step s (.call c) (s.gotoWith (s.project.writeCookie (.spawned k server s.project.log startedAt)) c
        (releasing (.resolved
          { url := server.url, token := some server.token, spawned := true, managed := true })))
  | release {c : Nat} {reply : DaemonReply} (hcall : s.calls c = releasing reply) :
      Step s (.call c) (s.release c reply)
  -- remember_session_id and forget_session_id
  | acquireUpdate {c : Nat} {update : SessionUpdate} (hcall : s.calls c = requested (.updateSession update))
      (hfree : s.holder = none) :
      Step s (.call c) { s.acquire c (updateLocked update) with updates := s.updates ++ [update] }
  | readUpdate {c : Nat} {update : SessionUpdate} {cookie : Cookie} (hcall : s.calls c = updateLocked update)
      (hcookie : update.apply s.project.cookie.read = some cookie) :
      Step s (.call c) (s.goto c (updateWriting cookie))
  | readNoUpdate {c : Nat} {update : SessionUpdate} (hcall : s.calls c = updateLocked update)
      (hnone : update.apply s.project.cookie.read = none) :
      Step s (.call c) (s.goto c (releasing .updated))
  | writeUpdate {c : Nat} {cookie : Cookie} (hcall : s.calls c = updateWriting cookie) :
      Step s (.call c) (s.gotoWith (s.project.writeCookie cookie) c (releasing .updated))
  -- daemon_status
  | statusNone {c : Nat} (hcall : s.calls c = requested .daemonStatus)
      (hnone : s.project.cookie.read = none) :
      Step s (.call c) (s.goto c (returned (.status s.project.noServerText)))
  | statusSome {c : Nat} {cookie : Cookie} (hcall : s.calls c = requested .daemonStatus)
      (hcookie : s.project.cookie.read = some cookie) : Step s (.call c) (s.goto c (statusProbing cookie))
  | statusLive {c : Nat} {cookie : Cookie} {server : ResolvedServer} (hcall : s.calls c = statusProbing cookie)
      (hlive : s.project.resolvedFromCookie cookie = some server) :
      Step s (.call c) (s.goto c (returned (.status (cookie.statusText server.url))))
  | statusStale {c : Nat} {cookie : Cookie} (hcall : s.calls c = statusProbing cookie)
      (hstale : s.project.resolvedFromCookie cookie = none) : Step s (.call c) (s.goto c (statusRemoving cookie))
  | statusRemove {c : Nat} {cookie : Cookie} (hcall : s.calls c = statusRemoving cookie) :
      Step s (.call c) (s.gotoWith s.project.removeCookie c
        (returned (.status s!"stale cookie removed for {s.project.root}")))
  -- stop_daemon
  | stopNone {c : Nat} (hcall : s.calls c = requested .stopDaemon) (hnone : s.project.cookie.read = none) :
      Step s (.call c) (s.goto c (returned (.stopped { stopped := true, message := s.project.noServerText })))
  | stopInvalid {c : Nat} {cookie : Cookie} (hcall : s.calls c = requested .stopDaemon)
      (hcookie : s.project.cookie.read = some cookie) (hurl : cookie.url = none) :
      Step s (.call c) (s.goto c (invalidRemoving cookie))
  | stopSome {c : Nat} {cookie : Cookie} {url : String} (hcall : s.calls c = requested .stopDaemon)
      (hcookie : s.project.cookie.read = some cookie) (hurl : cookie.url = some url) :
      Step s (.call c) (s.goto c (posting cookie url))
  | invalidRemove {c : Nat} {cookie : Cookie} (hcall : s.calls c = invalidRemoving cookie) :
      Step s (.call c) (s.gotoWith s.project.removeCookie c
        (returned (.stopped { stopped := true, message := s!"removed invalid cookie for {s.project.root}" })))
  | postRefused {c : Nat} {cookie : Cookie} {url : String} (message : String)
      (hcall : s.calls c = posting cookie url) :
      Step s (.call c) (s.gotoWith (s.project.askUrl url cookie.token) c
        (returned (.stopped { stopped := false, message })))
  | postAccepted {c : Nat} {cookie : Cookie} {url : String} (hcall : s.calls c = posting cookie url)
      (hreachable : s.project.reachable url cookie.token = true) :
      Step s (.call c) (s.gotoWith (s.project.askUrl url cookie.token) c (awaitingExit cookie none))
  | postFails {c : Nat} {cookie : Cookie} {url : String} (message : String)
      (hcall : s.calls c = posting cookie url) :
      Step s (.call c) (s.gotoWith (s.project.askUrl url cookie.token) c (awaitingExit cookie (some message)))
  | noPid {c : Nat} {cookie : Cookie} {requestError : Option String}
      (hcall : s.calls c = awaitingExit cookie requestError) (hpid : cookie.pid = none) :
      Step s (.call c) (s.goto c (stopRemoving cookie requestError))
  | exited {c : Nat} {cookie : Cookie} {requestError : Option String} {pid : Int}
      (hcall : s.calls c = awaitingExit cookie requestError) (hpid : cookie.pid = some pid)
      (hdead : s.project.processAlive pid = false ∨ s.project.posix = false) :
      Step s (.call c) (s.goto c (stopRemoving cookie requestError))
  | signal {c : Nat} {cookie : Cookie} {requestError : Option String} {pid : Int}
      (hcall : s.calls c = awaitingExit cookie requestError) (hpid : cookie.pid = some pid)
      (halive : s.project.processAlive pid = true) (hposix : s.project.posix = true) :
      Step s (.call c) (s.gotoWith (s.project.askPid pid) c (signalled cookie requestError))
  | signalWaited {c : Nat} {cookie : Cookie} {requestError : Option String}
      (hcall : s.calls c = signalled cookie requestError) :
      Step s (.call c) (s.goto c (stopRemoving cookie requestError))
  | stopRemove {c : Nat} {cookie : Cookie} {requestError : Option String}
      (hcall : s.calls c = stopRemoving cookie requestError) :
      Step s (.call c) (s.gotoWith s.project.removeCookie c (reporting cookie requestError))
  | reportFailure {c : Nat} {cookie : Cookie} {message : String} {pid : Int}
      (hcall : s.calls c = reporting cookie (some message)) (hpid : cookie.pid = some pid)
      (halive : s.project.processAlive pid = true) :
      Step s (.call c) (s.goto c (returned (.stopped
        { stopped := false, message := s!"could not stop background server: {message}" })))
  | reportStopped {c : Nat} {cookie : Cookie} {requestError : Option String}
      (hcall : s.calls c = reporting cookie requestError)
      (hdone : requestError = none ∨ ∀ pid, cookie.pid = some pid → s.project.processAlive pid = false) :
      Step s (.call c) (s.goto c (returned (.stopped
        { stopped := true, message := s!"stopped background server for {s.project.root}" })))

end DaemonSystem
end GdbMcp
