import GdbMcp.BaseTransition
import GdbMcp.RegistryState
import GdbMcp.SessionLifecycle
import Mathlib.Logic.Function.Basic

/-! The calls to the registry, step by step. Any number of calls is under way at once; a step is one critical
section of the registry lock, one operation of a workflow lock, one unlocked read of a session, or the start or
stop of one. A start and a stop may have any outcome, and a session may change between any two steps. -/

namespace GdbMcp

/-- How a stop ends: with a result, or with an exception. -/
abbrev StopOutcome := Except PyError (OperationResult String)

/-- A stop that has returned success. -/
def StopOutcome.Stopped : StopOutcome → Prop
  | .ok result => result.isSuccess = true
  | .error _ => False

/-- The result of a close behind a stop with this outcome. -/
def StopOutcome.closeResult : StopOutcome → OperationResult String
  | .ok result => result
  | .error e => .error e.message

inductive RegistryRequest where
  | startSession
  | getSession (id : Int)
  | resolveSession (id : Int)
  | listSessions
  | closeSession (id : Int)
  | shutdownAll
  /-- The thread of a shutdown that stops one session. -/
  | stopWorker

inductive RegistryReply where
  | started (id : Option Int) (result : OperationResult SessionStartInfo)
  | raised (error : PyError)
  | got (session : Option SessionRef)
  | resolved (id : Int) (result : OperationResult SessionRef)
  | listed (sessions : List (Int × SessionRef × Bool))
  | closed (id : Int) (result : OperationResult String)
  | shutDown (results : List (Int × OperationResult String))
  | workerDone (outcome : StopOutcome)

/-- How far a call has come. -/
inductive RegistryCall where
  | requested (request : RegistryRequest)
  | starting (id : Int) (session : SessionRef)
  | publishing (id : Int) (session : SessionRef) (info : SessionStartInfo) (warnings : List String)
  /-- No session has been found; the error is yet to be made. -/
  | unresolved (id : Int)
  | unclosed (id : Int)
  /-- A close whose mark is set. -/
  | marked (id : Int) (session : SessionRef)
  | uncontrolled (id : Int) (session : SessionRef)
  | inconsistent (id : Int)
  | inactive (id : Int) (session : SessionRef)
  | awaiting (id : Int) (session : SessionRef)
  | stopping (id : Int) (session : SessionRef)
  | unwinding (id : Int) (session : SessionRef) (outcome : StopOutcome)
  | stopped (id : Int) (session : SessionRef) (outcome : StopOutcome)
  | shuttingDown (pending : List (Int × SessionRef)) (results : List (Int × OperationResult String))
  | joining (worker : Nat) (id : Int) (pending : List (Int × SessionRef))
      (results : List (Int × OperationResult String))
  | workerAwaiting (session : SessionRef)
  | workerStopping (session : SessionRef)
  | workerUnwinding (session : SessionRef) (outcome : StopOutcome)
  | returned (reply : RegistryReply)

namespace RegistryCall

/-- The id that a start has allocated. -/
def allocatedId : RegistryCall → Option Int
  | starting id _ | publishing id _ _ _ => some id
  | returned (.started id _) => id
  | _ => none

/-- The session that a close has marked as closing, until it returns. -/
def closing : RegistryCall → Option (Int × SessionRef)
  | marked id session | uncontrolled id session | inactive id session | awaiting id session |
    stopping id session | unwinding id session _ | stopped id session _ => some (id, session)
  | _ => none

end RegistryCall

/-- What can be seen of a session without a lock. -/
structure SessionView where
  hasController : Bool
  isRunning : Bool

/-- The registry, the sessions, the holders of their workflow locks, and the calls. -/
structure RegistrySystem where
  registry : SessionRegistry := {}
  views : SessionRef → SessionView
  workflowHolder : SessionRef → Option Nat := fun _ => none
  calls : Nat → RegistryCall

namespace RegistrySystem

def inconsistentMessage : String :=
  "Session state is inconsistent: session reports running without an active controller."

def shutdownTimeoutMessage : String :=
  "Timed out stopping a debugger session during shutdown; the GDB process may need to be killed"

/-- The call has come to a new point. -/
def goto (s : RegistrySystem) (c : Nat) (call : RegistryCall) : RegistrySystem :=
  { s with calls := Function.update s.calls c call }

/-- The call has come to a new point in a critical section of the registry lock. -/
def gotoWith (s : RegistrySystem) (registry : SessionRegistry) (c : Nat) (call : RegistryCall) : RegistrySystem :=
  { s.goto c call with registry }

def acquireWorkflow (s : RegistrySystem) (session : SessionRef) (c : Nat) : RegistrySystem :=
  { s with workflowHolder := Function.update s.workflowHolder session (some c) }

def releaseWorkflow (s : RegistrySystem) (session : SessionRef) : RegistrySystem :=
  { s with workflowHolder := Function.update s.workflowHolder session none }

/-- The state before any call, for given requests and sessions. -/
def Initial (s : RegistrySystem) : Prop :=
  s.registry = {} ∧ ∃ requests : Nat → RegistryRequest, s.calls = fun c => .requested (requests c)

open RegistryCall in
/-- One step of a call; without a call, a session changes. -/
inductive Step (s : RegistrySystem) : Option Nat → RegistrySystem → Prop
  | view (session : SessionRef) (view : SessionView) :
      Step s none { s with views := Function.update s.views session view }
  -- start_session
  | allocate {c : Nat} (session : SessionRef) (hcall : s.calls c = requested .startSession) :
      Step s (some c) (s.gotoWith s.registry.allocateSessionId c (starting s.registry.nextSessionId session))
  | startRaises {c : Nat} {id : Int} {session : SessionRef} (e : PyError)
      (hcall : s.calls c = starting id session) : Step s (some c) (s.goto c (returned (.raised e)))
  | startFails {c : Nat} {id : Int} {session : SessionRef} (message : String) (fatal : Bool)
      (details : List (String × Value)) (code : String) (hcall : s.calls c = starting id session) :
      Step s (some c) (s.goto c (returned (.started none (.error message fatal details code))))
  | startSucceeds {c : Nat} {id : Int} {session : SessionRef} (info : SessionStartInfo) (warnings : List String)
      (hcall : s.calls c = starting id session) :
      Step s (some c) (s.goto c (publishing id session info warnings))
  | publish {c : Nat} {id : Int} {session : SessionRef} {info : SessionStartInfo} {warnings : List String}
      (hcall : s.calls c = publishing id session info warnings) :
      Step s (some c) (s.gotoWith (s.registry.publish id session) c
        (returned (.started (some id) (.success info warnings))))
  -- get_session, list_sessions and resolve_session
  | get {c : Nat} {id : Int} (hcall : s.calls c = requested (.getSession id)) :
      Step s (some c) (s.goto c (returned (.got (s.registry.getSession id))))
  | list {c : Nat} (hcall : s.calls c = requested .listSessions) :
      Step s (some c) (s.goto c (returned (.listed s.registry.listSessions)))
  | resolveClosing {c : Nat} {id : Int} (hcall : s.calls c = requested (.resolveSession id))
      (hclosing : s.registry.isClosing id = true) :
      Step s (some c) (s.goto c (returned (.resolved id (SessionRegistry.closingError id))))
  | resolve {c : Nat} {id : Int} {session : SessionRef} (hcall : s.calls c = requested (.resolveSession id))
      (hopen : s.registry.openSession id = some session) :
      Step s (some c) (s.goto c (returned (.resolved id (.success session))))
  | resolveNone {c : Nat} {id : Int} (hcall : s.calls c = requested (.resolveSession id))
      (hclosing : s.registry.isClosing id = false) (hnone : s.registry.getSession id = none) :
      Step s (some c) (s.goto c (unresolved id))
  | reportUnresolved {c : Nat} {id : Int} (hcall : s.calls c = unresolved id) :
      Step s (some c) (s.goto c (returned (.resolved id (s.registry.unknownSessionError id))))
  -- close_session
  | closeNone {c : Nat} {id : Int} (hcall : s.calls c = requested (.closeSession id))
      (hnone : s.registry.getSession id = none) : Step s (some c) (s.goto c (unclosed id))
  | reportUnclosed {c : Nat} {id : Int} (hcall : s.calls c = unclosed id) :
      Step s (some c) (s.goto c (returned (.closed id (s.registry.unknownSessionError id))))
  | mark {c : Nat} {id : Int} {session : SessionRef} (hcall : s.calls c = requested (.closeSession id))
      (hsession : s.registry.getSession id = some session) :
      Step s (some c) (s.gotoWith (s.registry.markClosing id) c (marked id session))
  | readController {c : Nat} {id : Int} {session : SessionRef} (hcall : s.calls c = marked id session) :
      Step s (some c) (s.goto c
        (if (s.views session).hasController then awaiting id session else uncontrolled id session))
  | readRunning {c : Nat} {id : Int} {session : SessionRef} (hcall : s.calls c = uncontrolled id session) :
      Step s (some c) (s.goto c (if (s.views session).isRunning then inconsistent id else inactive id session))
  | refuse {c : Nat} {id : Int} (hcall : s.calls c = inconsistent id) :
      Step s (some c) (s.gotoWith (s.registry.discardMark id) c
        (returned (.closed id (.error inconsistentMessage))))
  | removeInactive {c : Nat} {id : Int} {session : SessionRef} (hcall : s.calls c = inactive id session) :
      Step s (some c) (s.gotoWith (s.registry.removeClosed id session) c
        (returned (.closed id (.success "Session removed"))))
  | acquire {c : Nat} {id : Int} {session : SessionRef} (hcall : s.calls c = awaiting id session)
      (hfree : s.workflowHolder session = none) :
      Step s (some c) ((s.acquireWorkflow session c).goto c (stopping id session))
  | stop {c : Nat} {id : Int} {session : SessionRef} (outcome : StopOutcome)
      (hcall : s.calls c = stopping id session) : Step s (some c) (s.goto c (unwinding id session outcome))
  | release {c : Nat} {id : Int} {session : SessionRef} {outcome : StopOutcome}
      (hcall : s.calls c = unwinding id session outcome) :
      Step s (some c) ((s.releaseWorkflow session).goto c (stopped id session outcome))
  | removeStopped {c : Nat} {id : Int} {session : SessionRef} {outcome : StopOutcome}
      (hcall : s.calls c = stopped id session outcome) (hstopped : outcome.Stopped) :
      Step s (some c) (s.gotoWith (s.registry.removeClosed id session) c
        (returned (.closed id outcome.closeResult)))
  | keepUnstopped {c : Nat} {id : Int} {session : SessionRef} {outcome : StopOutcome}
      (hcall : s.calls c = stopped id session outcome) (hfailed : ¬outcome.Stopped) :
      Step s (some c) (s.gotoWith (s.registry.discardMark id) c (returned (.closed id outcome.closeResult)))
  -- shutdown_all, and its threads
  | takeAll {c : Nat} (hcall : s.calls c = requested .shutdownAll) :
      Step s (some c) (s.gotoWith s.registry.takeAll c (shuttingDown s.registry.items []))
  | skip {c : Nat} {id : Int} {session : SessionRef} {pending : List (Int × SessionRef)}
      {results : List (Int × OperationResult String)}
      (hcall : s.calls c = shuttingDown ((id, session) :: pending) results)
      (hcontroller : (s.views session).hasController = false) :
      Step s (some c) (s.goto c (shuttingDown pending (results ++ [(id, .success "Session removed")])))
  | spawn {c worker : Nat} {id : Int} {session : SessionRef} {pending : List (Int × SessionRef)}
      {results : List (Int × OperationResult String)}
      (hcall : s.calls c = shuttingDown ((id, session) :: pending) results)
      (hcontroller : (s.views session).hasController = true)
      (hworker : s.calls worker = requested .stopWorker) :
      Step s (some c) ((s.goto worker (workerAwaiting session)).goto c (joining worker id pending results))
  | join {c worker : Nat} {id : Int} {pending : List (Int × SessionRef)}
      {results : List (Int × OperationResult String)} {outcome : StopOutcome}
      (hcall : s.calls c = joining worker id pending results)
      (hworker : s.calls worker = returned (.workerDone outcome)) :
      Step s (some c) (s.goto c (shuttingDown pending (results ++ [(id, outcome.closeResult)])))
  | joinTimeout {c worker : Nat} {id : Int} {pending : List (Int × SessionRef)}
      {results : List (Int × OperationResult String)} (hcall : s.calls c = joining worker id pending results) :
      Step s (some c) (s.goto c (shuttingDown pending (results ++ [(id, .error shutdownTimeoutMessage)])))
  | clear {c : Nat} {results : List (Int × OperationResult String)} (hcall : s.calls c = shuttingDown [] results) :
      Step s (some c) (s.gotoWith s.registry.clearClosing c (returned (.shutDown results)))
  | workerAcquire {c : Nat} {session : SessionRef} (hcall : s.calls c = workerAwaiting session)
      (hfree : s.workflowHolder session = none) :
      Step s (some c) ((s.acquireWorkflow session c).goto c (workerStopping session))
  | workerStop {c : Nat} {session : SessionRef} (outcome : StopOutcome)
      (hcall : s.calls c = workerStopping session) : Step s (some c) (s.goto c (workerUnwinding session outcome))
  | workerRelease {c : Nat} {session : SessionRef} {outcome : StopOutcome}
      (hcall : s.calls c = workerUnwinding session outcome) :
      Step s (some c) ((s.releaseWorkflow session).goto c (returned (.workerDone outcome)))

/-! ### What a step can do -/

variable {s s' : RegistrySystem} {l : Option Nat} {c : Nat}

@[simp] theorem calls_goto (s : RegistrySystem) (c c' : Nat) (call : RegistryCall) :
    (s.goto c call).calls c' = if c = c' then call else s.calls c' := by
  change Function.update s.calls c call c' = _
  rw [Function.update_apply]
  exact if_congr eq_comm rfl rfl

@[simp] theorem calls_gotoWith (s : RegistrySystem) (registry : SessionRegistry) (c c' : Nat)
    (call : RegistryCall) : (s.gotoWith registry c call).calls c' = if c = c' then call else s.calls c' :=
  calls_goto s c c' call

@[simp] theorem calls_acquireWorkflow (s : RegistrySystem) (session : SessionRef) (c : Nat) :
    (s.acquireWorkflow session c).calls = s.calls := rfl

@[simp] theorem calls_releaseWorkflow (s : RegistrySystem) (session : SessionRef) :
    (s.releaseWorkflow session).calls = s.calls := rfl

/-- Only the call that takes the step moves, and the thread that it starts. -/
theorem Step.calls (h : Step s l s') (c' : Nat) :
    s'.calls c' = s.calls c' ∨ l = some c' ∨
      (s.calls c' = .requested .stopWorker ∧ ∃ session, s'.calls c' = .workerAwaiting session) := by
  by_cases hc : l = some c'
  · exact .inr (.inl hc)
  · cases h with
    | view => exact .inl rfl
    | @spawn c worker id session pending results hcall hcontroller hworker =>
        have hc : ¬c = c' := fun h => hc (congrArg some h)
        by_cases hw : worker = c'
        · subst hw
          refine .inr (.inr ⟨hworker, session, ?_⟩)
          rw [calls_goto, if_neg hc, calls_goto, if_pos rfl]
        · refine .inl ?_
          rw [calls_goto, if_neg hc, calls_goto, if_neg hw]
    | _ =>
        rw [Option.some_inj] at hc
        simp [hc]

end RegistrySystem
end GdbMcp
