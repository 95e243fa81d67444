import GdbMcp.BaseTransition
import GdbMcp.RegistryActivity
import Mathlib.Algebra.Order.Ring.Rat
import Mathlib.Tactic.Linarith

/-! The end of a background server that is not in use. A watchdog looks at the last request and at the session registry
from time to time, while any number of calls of the registry are under way; a client may ask for the end as well. Times
are exact, and the watchdog wakes with a bounded delay. -/

namespace GdbMcp

/-- How long the watchdog sleeps between two looks. -/
def watchInterval (idleTimeoutSec : Rat) : Rat := max 1 (min (idleTimeoutSec / 4) 30)

/-- A server, with its clock, the time of the last HTTP request, and the time at which the watchdog wakes, unless it has
returned. The field `busyAt` is history: the last time at which there was a request or an active session. -/
structure IdleServer where
  registry : RegistrySystem
  now : Rat
  lastRequest : Rat
  wakeAt : Option Rat
  shutdown : Bool := false
  busyAt : Rat

inductive ServerEvent where
  | registry (l : Option Nat)
  | passes (seconds : Rat)
  | request
  | wakes
  | shutdownRequest (force authorized : Bool)

namespace IdleServer

variable (v : IdleServer)

def hasActiveSessions : Bool := 0 < v.registry.registry.activeSessionCount

def idleSeconds : Rat := v.now - v.lastRequest

/-- An active session is use. -/
def seen : IdleServer := if v.hasActiveSessions then { v with busyAt := v.now } else v

/-- One look of the watchdog: it requests the shutdown once the server is idle and no session is alive. -/
def look (idleTimeoutSec : Rat) : IdleServer :=
  if v.idleSeconds < idleTimeoutSec then { v with wakeAt := some (v.now + watchInterval idleTimeoutSec) }
  else if v.hasActiveSessions then { v with wakeAt := some (v.now + watchInterval idleTimeoutSec) }
  else { v with wakeAt := none, shutdown := true }

/-- `POST /shutdown`: the status of the response, and the server behind it. -/
def shutdownEndpoint (force authorized : Bool) : Nat × IdleServer :=
  if !authorized then (401, v)
  else if !force && v.hasActiveSessions then (409, v)
  else (200, { v with shutdown := true })

/-- A server that has just started its watchdog. -/
structure Initial (idleTimeoutSec : Rat) : Prop where
  registry : v.registry.Initial
  request : v.lastRequest ≤ v.now
  wakeAt : v.wakeAt = some (v.now + watchInterval idleTimeoutSec)
  running : v.shutdown = false
  busyAt : v.busyAt = v.now

/-- One step. The watchdog wakes at most `late` behind its time. -/
inductive Step (idleTimeoutSec late : Rat) (v : IdleServer) : ServerEvent → IdleServer → Prop
  | registry {l : Option Nat} {registry : RegistrySystem} (h : v.registry.Step l registry) :
      Step idleTimeoutSec late v (.registry l) { v with registry }.seen
  | passes {seconds : Rat} (hforward : 0 ≤ seconds) (hlate : ∀ w, v.wakeAt = some w → v.now + seconds ≤ w + late) :
      Step idleTimeoutSec late v (.passes seconds) { v with now := v.now + seconds }.seen
  -- a request counts before its token is checked
  | request : Step idleTimeoutSec late v .request { v with lastRequest := v.now, busyAt := v.now }
  | wakes {w : Rat} (hwake : v.wakeAt = some w) (hdue : w ≤ v.now) : Step idleTimeoutSec late v .wakes (v.look idleTimeoutSec)
  | shutdownRequest (force authorized : Bool) :
      Step idleTimeoutSec late v (.shutdownRequest force authorized) (v.shutdownEndpoint force authorized).2

variable {v v' : IdleServer} {idleTimeoutSec late : Rat} {e : ServerEvent}

/-! ### How long an unused server stays -/

/-- The last look was not long behind the last use, and the next one will not be late. -/
structure Watched (idleTimeoutSec late : Rat) (v : IdleServer) : Prop where
  request : v.lastRequest ≤ v.busyAt
  past : v.busyAt ≤ v.now
  active : v.hasActiveSessions = true → v.busyAt = v.now
  wake : v.shutdown = false → ∃ w, v.wakeAt = some w ∧ w < v.busyAt + idleTimeoutSec + watchInterval idleTimeoutSec
  late : ∀ w, v.wakeAt = some w → v.now ≤ w + late

theorem watchInterval_pos (idleTimeoutSec : Rat) : 0 < watchInterval idleTimeoutSec :=
  lt_of_lt_of_le one_pos (le_max_left _ _)

theorem Watched.initial (htimeout : 0 < idleTimeoutSec) (hlate : 0 ≤ late) (h : v.Initial idleTimeoutSec) :
    Watched idleTimeoutSec late v := by
  have hinterval := watchInterval_pos idleTimeoutSec
  constructor
  · rw [h.busyAt]
    exact h.request
  · rw [h.busyAt]
  · exact fun _ => h.busyAt
  · refine fun _ => ⟨_, h.wakeAt, ?_⟩
    rw [h.busyAt]
    linarith
  · intro w hw
    obtain rfl := Option.some.inj (h.wakeAt.symm.trans hw)
    linarith

/-- Use that is seen only puts the end off. -/
theorem Watched.seen (hrequest : v.lastRequest ≤ v.busyAt) (hpast : v.busyAt ≤ v.now)
    (hwake : v.shutdown = false → ∃ w, v.wakeAt = some w ∧ w < v.busyAt + idleTimeoutSec + watchInterval idleTimeoutSec)
    (hlate : ∀ w, v.wakeAt = some w → v.now ≤ w + late) : Watched idleTimeoutSec late v.seen := by
  rw [IdleServer.seen]
  split
  · refine ⟨hrequest.trans hpast, le_refl _, fun _ => rfl, fun hrunning => ?_, hlate⟩
    obtain ⟨w, hw, hbound⟩ := hwake hrunning
    refine ⟨w, hw, ?_⟩
    dsimp only
    linarith
  · rename_i hinactive
    exact ⟨hrequest, hpast, fun hactive => absurd hactive hinactive, hwake, hlate⟩

theorem Watched.step (htimeout : 0 < idleTimeoutSec) (hlate : 0 ≤ late) (hv : Watched idleTimeoutSec late v)
    (h : Step idleTimeoutSec late v e v') : Watched idleTimeoutSec late v' := by
  have hinterval := watchInterval_pos idleTimeoutSec
  cases h with
  | registry => exact .seen hv.request hv.past hv.wake hv.late
  | passes hforward hpasses =>
      exact .seen hv.request (hv.past.trans (by dsimp only; linarith)) hv.wake hpasses
  | request =>
      refine ⟨le_refl _, le_refl _, fun _ => rfl, fun hrunning => ?_, hv.late⟩
      obtain ⟨w, hw, hbound⟩ := hv.wake hrunning
      have hpast := hv.past
      refine ⟨w, hw, ?_⟩
      dsimp only
      linarith
  | wakes hwake hdue =>
      rw [look]
      have hsleeps : v.now < v.busyAt + idleTimeoutSec →
          Watched idleTimeoutSec late { v with wakeAt := some (v.now + watchInterval idleTimeoutSec) } := by
        refine fun hsoon => ⟨hv.request, hv.past, hv.active, fun _ => ⟨_, rfl, ?_⟩, fun w hw => ?_⟩
        · dsimp only
          linarith
        · rw [← Option.some.inj hw]
          dsimp only
          linarith
      split
      · rename_i hidle
        rw [idleSeconds] at hidle
        have hrequest := hv.request
        exact hsleeps (by linarith)
      split
      · rename_i hactive
        have hbusy := hv.active hactive
        exact hsleeps (by linarith)
      · exact ⟨hv.request, hv.past, hv.active, fun hrunning => (by cases hrunning), fun _ hw => (by cases hw)⟩
  | shutdownRequest force authorized =>
      rw [shutdownEndpoint]
      split
      · exact hv
      split
      · exact hv
      · exact ⟨hv.request, hv.past, hv.active, fun hrunning => (by cases hrunning), hv.late⟩

/-! ### Why a server ends -/

theorem getSession_of_inactive (h : v.hasActiveSessions = false) (id : Int) : v.registry.registry.getSession id = none := by
  have hcount : v.registry.registry.activeSessionCount = 0 := by simpa [hasActiveSessions] using h
  have hkeys : v.registry.registry.sessions.keys = [] :=
    List.length_eq_zero_iff.mp (Nat.add_eq_zero_iff.mp hcount).1
  by_contra hregistered
  have hmem := RegistrySystem.mem_keys_iff.mpr hregistered
  rw [hkeys] at hmem
  exact List.not_mem_nil hmem

/-- A server that is not in use ends before long: within its timeout, one interval of the watchdog and its delay behind
the last request and the last active session. It does not end before that by itself, and no session is lost unless a
client that is authorized forces the end: no session is registered when the watchdog or an unforced request ends it, and
the watchdog leaves the whole timeout to the last request. -/
theorem idle_server_ends (htimeout : 0 < idleTimeoutSec) (hlate : 0 ≤ late)
    (h : Reachable (fun v => v.Initial idleTimeoutSec) (Step idleTimeoutSec late) (fun _ _ => True) v) :
    (v.shutdown = false → v.now < v.busyAt + idleTimeoutSec + watchInterval idleTimeoutSec + late) ∧
      ∀ e v', Step idleTimeoutSec late v e v' → v.shutdown = false → v'.shutdown = true →
        e = .shutdownRequest true true ∨ (∀ id, v.registry.registry.getSession id = none) ∧
          (e = .shutdownRequest false true ∨ e = .wakes ∧ v.lastRequest + idleTimeoutSec ≤ v.now) := by
  have hv : Watched idleTimeoutSec late v :=
    h.invariant (fun _ h => .initial htimeout hlate h) fun _ _ _ hv _ hstep => hv.step htimeout hlate hstep
  constructor
  · intro hrunning
    obtain ⟨w, hw, hbound⟩ := hv.wake hrunning
    have hdelay := hv.late w hw
    linarith
  · intro e v' hstep hrunning hends
    have hseen : ∀ u : IdleServer, u.seen.shutdown = u.shutdown := by
      intro u
      rw [seen]
      split <;> rfl
    cases hstep with
    | registry => cases ((hseen _).symm.trans hends).symm.trans hrunning
    | passes => cases ((hseen _).symm.trans hends).symm.trans hrunning
    | request => cases hends.symm.trans hrunning
    | wakes hwake hdue =>
        rw [look] at hends
        split at hends
        · cases hends.symm.trans hrunning
        rename_i hidle
        split at hends
        · cases hends.symm.trans hrunning
        rename_i hinactive
        rw [idleSeconds] at hidle
        exact .inr ⟨getSession_of_inactive (Bool.eq_false_iff.mpr hinactive), .inr ⟨rfl, by linarith⟩⟩
    | shutdownRequest force authorized =>
        rw [shutdownEndpoint] at hends
        split at hends
        · cases hends.symm.trans hrunning
        rename_i hauthorized
        obtain rfl : authorized = true := by simpa using hauthorized
        split at hends
        · cases hends.symm.trans hrunning
        rename_i hrefused
        cases force with
        | true => exact .inl rfl
        | false => exact .inr ⟨getSession_of_inactive (by simpa using hrefused), .inl rfl⟩

/-- A server without a call, whose timeout is one second. -/
def quietServer : IdleServer where
  registry := RegistrySystem.oneSession
  now := 0
  lastRequest := 0
  wakeAt := some (0 + watchInterval 1)
  busyAt := 0

/-- The server one second later. -/
def restedServer : IdleServer := { quietServer with now := quietServer.now + 1 }

/-- It ends at the first look of its watchdog. -/
theorem idle_server_ends_quiet :
    Reachable (fun v => v.Initial 1) (Step 1 0) (fun _ _ => True) restedServer ∧ (restedServer.look 1).shutdown = true ∧
      restedServer.now < restedServer.busyAt + 1 + watchInterval 1 + 0 ∧
      ∀ id, restedServer.registry.registry.getSession id = none := by
  have hinitial : quietServer.Initial 1 := ⟨RegistrySystem.initial_oneSession, le_refl _, rfl, rfl, rfl⟩
  have hinterval : watchInterval 1 = 1 := by norm_num [watchInterval]
  have hinactive : restedServer.hasActiveSessions = false := rfl
  have hlate : ∀ w, quietServer.wakeAt = some w → quietServer.now + 1 ≤ w + 0 := by
    intro w hw
    rw [← Option.some.inj hw, hinterval]
    norm_num [quietServer]
  have hpassed : Step 1 0 quietServer (.passes 1) restedServer.seen := .passes zero_le_one hlate
  rw [seen, hinactive, if_neg Bool.false_ne_true] at hpassed
  have hstart : Reachable (fun v => v.Initial 1) (Step 1 0) (fun _ _ => True) quietServer := .initial hinitial
  have hreach := hstart.step trivial hpassed
  have hends : (restedServer.look 1).shutdown = true := by
    rw [look, if_neg (by norm_num [idleSeconds, restedServer, quietServer]), hinactive, if_neg Bool.false_ne_true]
  have hwakes : Step 1 0 restedServer .wakes (restedServer.look 1) :=
    .wakes rfl (by rw [hinterval]; norm_num [restedServer, quietServer])
  obtain ⟨hbound, hwhy⟩ := idle_server_ends one_pos (le_refl 0) hreach
  rcases hwhy _ _ hwakes rfl hends with hforced | ⟨hnone, -⟩
  · cases hforced
  · exact ⟨hreach, hends, hbound rfl, hnone⟩

end IdleServer
end GdbMcp
