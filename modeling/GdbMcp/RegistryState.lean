import GdbMcp.RunnerCommand
import Mathlib.Data.Finset.Card
import Mathlib.Data.List.AList

/-! The session registry and its critical sections. A session object is known by its address; whether it
has a controller and whether it runs are read without a lock. -/

namespace GdbMcp

/-- The address of a session object. -/
abbrev SessionRef := Nat

/-- Thread-safe registry for debugger sessions. -/
structure SessionRegistry where
  sessions : AList fun _ : Int => SessionRef := ∅
  closingSessions : Finset Int := ∅
  nextSessionId : Int := 1

namespace SessionRegistry

variable (r : SessionRegistry)

/-- The registry behind the allocation of its next id. -/
def allocateSessionId : SessionRegistry := { r with nextSessionId := r.nextSessionId + 1 }

def publish (id : Int) (session : SessionRef) : SessionRegistry :=
  { r with sessions := r.sessions.insert id session }

def getSession (id : Int) : Option SessionRef := r.sessions.lookup id

def isClosing (id : Int) : Bool := id ∈ r.closingSessions

/-- The session that is handed out for one call: none if it is closing. -/
def openSession (id : Int) : Option SessionRef := if r.isClosing id then none else r.getSession id

def closingError {α : Type} (id : Int) : OperationResult α :=
  .error (s!"Session {id} is closing and cannot accept new commands. " ++
    "Wait for gdb_session_manage(action=stop) to finish or start a new session.") false [] "session_closing"

def liveIds : List Int := r.sessions.keys.mergeSort (· ≤ ·)

/-- Report an unknown ID together with the sessions that do exist. -/
def unknownSessionError {α : Type} (id : Int) : OperationResult α :=
  let listed := if r.liveIds.isEmpty then "none" else String.intercalate ", " (r.liveIds.map toString)
  .error (s!"Invalid session_id: {id}. Live sessions: {listed}. " ++
      "Use gdb_session_start to create a new session.")
    false [("live_session_ids", .list (r.liveIds.map .int))] "invalid_session"

/-- The registered sessions by id, each with its closing mark. -/
def listSessions : List (Int × SessionRef × Bool) :=
  r.liveIds.filterMap fun id => (r.getSession id).map fun session => (id, session, r.isClosing id)

/-- The mark of a close. -/
def markClosing (id : Int) : SessionRegistry :=
  { r with closingSessions := insert id r.closingSessions }

def discardMark (id : Int) : SessionRegistry :=
  { r with closingSessions := r.closingSessions.erase id }

/-- The end of a close that has succeeded: the session is removed if it is the one that was closed. -/
def removeClosed (id : Int) (session : SessionRef) : SessionRegistry :=
  let r := if r.getSession id = some session then { r with sessions := r.sessions.erase id } else r
  r.discardMark id

/-- A shutdown takes all sessions out, and marks them all. -/
def takeAll : SessionRegistry :=
  { r with sessions := ∅, closingSessions := r.sessions.keys.toFinset }

def clearClosing : SessionRegistry := { r with closingSessions := ∅ }

/-- The number of tracked (including closing) sessions. -/
def activeSessionCount : Nat := r.sessions.keys.length + r.closingSessions.card

/-- The sessions in the order of their publication. -/
def items : List (Int × SessionRef) := r.sessions.entries.reverse.map fun e => (e.1, e.2)

/-! ### The table behind a critical section -/

@[simp] theorem getSession_allocateSessionId (id : Int) : r.allocateSessionId.getSession id = r.getSession id := rfl

@[simp] theorem getSession_markClosing (id id' : Int) : (r.markClosing id).getSession id' = r.getSession id' := rfl

@[simp] theorem getSession_discardMark (id id' : Int) : (r.discardMark id).getSession id' = r.getSession id' := rfl

@[simp] theorem getSession_clearClosing (id : Int) : r.clearClosing.getSession id = r.getSession id := rfl

@[simp] theorem getSession_takeAll (id : Int) : r.takeAll.getSession id = none := rfl

theorem getSession_publish (id id' : Int) (session : SessionRef) :
    (r.publish id session).getSession id' = if id' = id then some session else r.getSession id' := by
  by_cases h : id' = id
  · subst h
    rw [if_pos rfl]
    exact AList.lookup_insert r.sessions
  · rw [if_neg h]
    exact AList.lookup_insert_ne h

/-- The session under the id is gone, whichever it was, if it was the closed one. -/
theorem getSession_removeClosed (id id' : Int) (session : SessionRef) :
    (r.removeClosed id session).getSession id' =
      if id' = id ∧ r.getSession id = some session then none else r.getSession id' := by
  rw [removeClosed]
  by_cases h : r.getSession id = some session
  · simp only [h, if_true, and_true]
    by_cases hid : id' = id
    · subst hid
      rw [if_pos rfl]
      exact AList.lookup_erase id' r.sessions
    · rw [if_neg hid]
      exact AList.lookup_erase_ne hid
  · simp [h]

theorem isClosing_markClosing (id id' : Int) :
    (r.markClosing id).isClosing id' = (decide (id' = id) || r.isClosing id') := by
  simp [isClosing, markClosing]

theorem isClosing_discardMark (id id' : Int) :
    (r.discardMark id).isClosing id' = (!decide (id' = id) && r.isClosing id') := by
  simp [isClosing, discardMark]

theorem isClosing_removeClosed (id id' : Int) (session : SessionRef) :
    (r.removeClosed id session).isClosing id' = (!decide (id' = id) && r.isClosing id') := by
  rw [removeClosed, isClosing_discardMark]
  split <;> rfl

theorem openSession_eq_some {id : Int} {session : SessionRef} :
    r.openSession id = some session ↔ r.isClosing id = false ∧ r.getSession id = some session := by
  rw [openSession]
  cases r.isClosing id <;> simp

end SessionRegistry
end GdbMcp
