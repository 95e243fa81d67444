import GdbMcp.DaemonCookie

/-! One server for each project. Any number of invocations resolve the server of a project, and update the
remembered session once one of them has it; as long as servers get ready and stay alive, they share one. -/

namespace GdbMcp

/-- The points of the invocations that resolve the server or update the remembered session. -/
def DaemonCall.isClient : DaemonCall → Bool
  | requested .resolveServer | requested (.updateSession _) | probing _ | acquiring | locked | probingLocked _ |
    discarding _ | spawning | launched _ | writing _ | releasing _ | updateLocked _ | updateWriting _ => true
  | _ => false

/-- The server that an invocation has launched and is waiting for. -/
def DaemonCall.launchedServer : DaemonCall → Option Nat
  | launched k => some k
  | _ => none

namespace DaemonSystem

open DaemonCall

variable {s s' s₀ : DaemonSystem} {e : DaemonEvent} {c : Nat} {call : DaemonCall}

/-- A server has been resolved for the invocation. -/
def HasResolved (s : DaemonSystem) (c : Nat) (server : ResolvedServer) : Prop :=
  s.calls c = returned (.resolved server)

/-- Only clients take steps, servers get ready and stay alive, and the remembered session is updated by
invocations that have the server. -/
def Peaceful (s : DaemonSystem) : DaemonEvent → Prop
  | .call c => (s.calls c).isClient = true ∧
      ∀ update, s.calls c = requested (.updateSession update) → ∃ c' server, s.HasResolved c' server
  | .spawnFails _ | .dies _ => False

/-- No server has been asked to exit that is not dead. -/
def Unasked (p : Project) : Prop :=
  ∀ (k : Nat) (v : Server), p.servers[k]? = some v → v.stage ≠ .dead → v.asked = false

theorem Peaceful.unlinksOwn (h : s.Peaceful e) : s.UnlinksOwn e := by
  rintro c cookie k rfl hcookie
  have hclient := h.1
  cases hcall : s.calls c <;> simp_all [DaemonCall.isClient, DaemonCall.unlinking]

/-! ### The servers -/

/-- The servers are those of the start and at most one more, which is starting or serving. -/
structure Servers (s₀ s : DaemonSystem) : Prop where
  unasked : Unasked s.project
  old : ∀ k, k < s₀.project.servers.length → s.project.servers[k]? = s₀.project.servers[k]?
  launched : ∀ c k, (s.calls c).launchedServer = some k → k = s₀.project.servers.length ∧
    ∃ v, s.project.servers[k]? = some v ∧ v.stage = .starting
  count : s.project.servers.length = s₀.project.servers.length ∨
    s.project.servers.length = s₀.project.servers.length + 1 ∧
      (∀ (k : Nat) (v : Server), s₀.project.servers[k]? = some v → v.stage ≠ .serving) ∧
        ((∃ c, (s.calls c).launchedServer = some s₀.project.servers.length) ∨
          ∃ v, s.project.servers[s₀.project.servers.length]? = some v ∧ v.stage = .serving)

theorem Servers.same (hs : Servers s₀ s) (hservers : s'.project.servers = s.project.servers)
    (hlaunched : ∀ c, (s'.calls c).launchedServer = (s.calls c).launchedServer) : Servers s₀ s' := by
  constructor
  · intro k v hv
    rw [hservers] at hv
    exact hs.unasked k v hv
  · intro k hk
    rw [hservers]
    exact hs.old k hk
  · intro c k hk
    rw [hservers]
    exact hs.launched c k ((hlaunched c).symm.trans hk)
  · rw [hservers]
    refine hs.count.imp_right fun ⟨hlength, hold, hnew⟩ => ⟨hlength, hold, hnew.imp_left ?_⟩
    rintro ⟨c, hc⟩
    exact ⟨c, (hlaunched c).trans hc⟩

/-- Whoever is about to launch a server knows that none is serving. -/
theorem Servers.none_serving (hs : Servers s₀ s) (hcoherent : Coherent s) (hcall : s.calls c = spawning)
    {k : Nat} {v : Server} (hv : s.project.servers[k]? = some v) : v.stage ≠ .serving := by
  intro hserving
  have hquiet := hcoherent.knows c
  rw [hcall] at hquiet
  have hasked : v.asked = true := hquiet k v hv (Option.some_ne_none k) hserving
  exact nomatch (hs.unasked k v hv (by rw [hserving]; decide)).symm.trans hasked

theorem Servers.step (hs : Servers s₀ s) (hcoherent : Coherent s) (hpeace : s.Peaceful e) (h : Step s e s') :
    Servers s₀ s' := by
  cases h with
  | die => exact hpeace.elim
  | spawnFails => exact hpeace.elim
  | @launch c pid url token hcall =>
      have hlength : s.project.servers.length = s₀.project.servers.length := by
        rcases hs.count with hsame | ⟨-, -, ⟨c', hc'⟩ | ⟨v, hv, hserving⟩⟩
        · exact hsame
        · have hlocked : (s.calls c').holdsLock = true := by
            cases hcall' : s.calls c' <;> simp_all [DaemonCall.launchedServer, DaemonCall.holdsLock]
          have hlocked' : (s.calls c).holdsLock = true := by rw [hcall]; rfl
          obtain rfl := hcoherent.holder_unique hlocked hlocked'
          rw [hcall] at hc'
          exact nomatch hc'
        · exact absurd hserving (hs.none_serving hcoherent hcall hv)
      constructor
      · intro k v hv hstage
        change (s.project.launch _).servers[k]? = some v at hv
        rw [Project.getElem?_launch] at hv
        split at hv
        · obtain rfl := Option.some.inj hv
          rfl
        · exact hs.unasked k v hv hstage
      · intro k hk
        change (s.project.launch _).servers[k]? = _
        rw [Project.getElem?_launch, if_neg (by omega)]
        exact hs.old k hk
      · intro c' k hk
        rw [calls_gotoWith] at hk
        split at hk
        · obtain rfl := Option.some.inj hk
          refine ⟨hlength, { pid, url, token, stage := .starting }, ?_, rfl⟩
          change (s.project.launch _).servers[_]? = _
          rw [Project.getElem?_launch, if_pos rfl]
        · obtain ⟨rfl, v, hv, -⟩ := hs.launched c' k hk
          rw [List.getElem?_eq_none (Nat.le_of_eq hlength)] at hv
          exact nomatch hv
      · refine .inr ⟨?_, fun k v hv hserving => ?_, .inl ⟨c, ?_⟩⟩
        · change (s.project.servers ++ [_]).length = _
          rw [List.length_append, hlength]
          rfl
        · obtain ⟨hk, -⟩ := List.getElem?_eq_some_iff.mp hv
          exact hs.none_serving hcoherent hcall ((hs.old k hk).trans hv) hserving
        · rw [calls_gotoWith, if_pos rfl, ← hlength]
          rfl
  | @ready c k server hcall hserver hstage =>
      obtain ⟨rfl, -⟩ := hs.launched c k (by rw [hcall]; rfl)
      have hready : (s.project.setStage s₀.project.servers.length .serving).servers[s₀.project.servers.length]? =
          some { server with stage := .serving } := by
        rw [Project.getElem?_setStage, hserver, Option.map_some, if_pos rfl]
      constructor
      · intro k v hv hdead
        change (s.project.setStage _ .serving).servers[k]? = some v at hv
        rw [Project.getElem?_setStage, Option.map_eq_some_iff] at hv
        obtain ⟨v', hv', rfl⟩ := hv
        by_cases hk : s₀.project.servers.length = k
        · subst hk
          obtain rfl : server = v' := Option.some.inj (hserver.symm.trans hv')
          rw [if_pos rfl]
          exact hs.unasked _ server hserver (by rw [hstage]; decide)
        · rw [if_neg hk] at hdead ⊢
          exact hs.unasked k v' hv' hdead
      · intro k hk
        change (s.project.setStage _ .serving).servers[k]? = _
        rw [Project.getElem?_setStage]
        simp only [if_neg (Nat.ne_of_gt hk)]
        rw [← hs.old k hk]
        cases s.project.servers[k]? <;> rfl
      · intro c' k hk
        rw [calls_gotoWith] at hk
        split at hk
        · exact nomatch hk
        · rename_i hc
          have hlocked : (s.calls c').holdsLock = true := by
            cases hcall' : s.calls c' <;> simp_all [DaemonCall.launchedServer, DaemonCall.holdsLock]
          exact absurd (hcoherent.holder_unique (by rw [hcall]; rfl) hlocked) hc
      · have hlength : (s.project.setStage s₀.project.servers.length .serving).servers.length =
            s.project.servers.length := List.length_modify ..
        refine hs.count.imp (fun hsame => hlength.trans hsame) fun ⟨hmore, hold, _⟩ => ?_
        exact ⟨hlength.trans hmore, hold, .inr ⟨_, hready, rfl⟩⟩
  | _ =>
      have hclient := hpeace.1
      first
      | (exfalso; simp_all [DaemonCall.isClient]; done)
      | refine hs.same rfl fun c' => ?_
        simp only [calls_goto, calls_gotoWith, calls_acquire, calls_release]
        split <;> simp_all [DaemonCall.launchedServer]

/-- A server that is serving. -/
def Serves (p : Project) (k : Nat) (v : Server) : Prop := p.servers[k]? = some v ∧ v.stage = .serving

/-- In peace, a server that serves goes on serving. -/
theorem Step.serves (h : Step s e s') (hpeace : s.Peaceful e) {k : Nat} {v : Server}
    (hserves : Serves s.project k v) : Serves s'.project k v := by
  obtain ⟨hv, hserving⟩ := hserves
  refine ⟨?_, hserving⟩
  cases h with
  | die => exact hpeace.elim
  | spawnFails => exact hpeace.elim
  | launch =>
      obtain ⟨hk, -⟩ := List.getElem?_eq_some_iff.mp hv
      change (s.project.launch _).servers[k]? = _
      rw [Project.getElem?_launch, if_neg (Nat.ne_of_lt hk), hv]
  | @ready c j server hcall hserver hstage =>
      have hne : ¬j = k := by
        rintro rfl
        obtain rfl : server = v := Option.some.inj (hserver.symm.trans hv)
        exact nomatch hstage.symm.trans hserving
      change (s.project.setStage j .serving).servers[k]? = _
      rw [Project.getElem?_setStage, hv, Option.map_some, if_neg hne]
  | _ =>
      have hclient := hpeace.1
      first
      | (exfalso; simp_all [DaemonCall.isClient]; done)
      | exact hv

/-- Two serving servers that have not been asked to exit are the same. -/
theorem Coherent.serves_unique (hs : Coherent s) (hunasked : Unasked s.project) {k k' : Nat} {v v' : Server}
    (hv : Serves s.project k v) (hv' : Serves s.project k' v') : k = k' := by
  have hasked : ∀ {j : Nat} {w : Server}, Serves s.project j w → w.asked = false := fun hw =>
    hunasked _ _ hw.1 (by rw [hw.2]; decide)
  have halone : ∀ {c j j' : Nat} {w : Server}, s.calls c = writing j → Serves s.project j' w → j' = j := by
    intro c j j' w hwrite hw
    have hknows := hs.knows c
    rw [hwrite] at hknows
    by_contra hne
    have := hknows.1 j' w hw.1 (fun h => hne (Option.some.inj h)) hw.2
    exact nomatch (hasked hw).symm.trans this
  obtain ⟨c, hwrite | ⟨d, hd, horigin⟩⟩ := hs.remembered k v hv.1 hv.2 (hasked hv)
  · exact (halone hwrite hv').symm
  · obtain ⟨c', hwrite' | ⟨d', hd', horigin'⟩⟩ := hs.remembered k' v' hv'.1 hv'.2 (hasked hv')
    · exact halone hwrite' hv
    · obtain rfl : d = d' := Option.some.inj (hd.symm.trans hd')
      exact Option.some.inj (horigin.symm.trans horigin')

/-! ### The replies -/

/-- A server has been found for the invocation, which may be yet to let the lock go. -/
def Found (call : DaemonCall) (server : ResolvedServer) : Prop :=
  call = returned (.resolved server) ∨ call = releasing (.resolved server)

/-- What is found is a server that serves, and what is about to be written names one. -/
structure Served (s : DaemonSystem) : Prop where
  writing : ∀ c k, s.calls c = DaemonCall.writing k → ∃ v, Serves s.project k v
  found : ∀ c server, Found (s.calls c) server →
    ∃ (k : Nat) (v : Server), Serves s.project k v ∧ server.url = v.url ∧ server.token = some v.token

/-- An invocation has come to a new point: nothing is asked of the others. -/
theorem Served.moves (hs : Served s) (hpeace : s.Peaceful e) (h : Step s e s')
    (hcalls : ∀ c', s'.calls c' = if c = c' then call else s.calls c')
    (hwriting : ∀ k, call = DaemonCall.writing k → ∃ v, Serves s'.project k v)
    (hfound : ∀ server, Found call server →
      ∃ (k : Nat) (v : Server), Serves s'.project k v ∧ server.url = v.url ∧ server.token = some v.token) :
    Served s' := by
  constructor
  · intro c' k hcall
    rw [hcalls] at hcall
    split at hcall
    · exact hwriting k hcall
    · obtain ⟨v, hv⟩ := hs.writing c' k hcall
      exact ⟨v, h.serves hpeace hv⟩
  · intro c' server hcall
    rw [hcalls] at hcall
    split at hcall
    · exact hfound server hcall
    · obtain ⟨k, v, hv, hserver⟩ := hs.found c' server hcall
      exact ⟨k, v, h.serves hpeace hv, hserver⟩

theorem Served.step (hs : Served s) (hpeace : s.Peaceful e) (h : Step s e s') : Served s' := by
  cases id h with
  | die => exact hpeace.elim
  | spawnFails => exact hpeace.elim
  | @ready c k server hcall hserver hstage =>
      refine hs.moves hpeace h (calls_gotoWith _ _ _ · _) (fun k' hk' => ?_) fun _ hfound => hfound.elim nofun nofun
      obtain rfl := DaemonCall.writing.inj hk'
      refine ⟨{ server with stage := .serving }, ?_, rfl⟩
      change (s.project.setStage k .serving).servers[k]? = _
      rw [Project.getElem?_setStage, hserver, Option.map_some, if_pos rfl]
  | @probeLive c cookie server hcall hlive =>
      refine hs.moves hpeace h (calls_goto _ _ · _) nofun fun server' hfound => ?_
      obtain rfl : server = server' := by rcases hfound with h | h <;> cases h; rfl
      obtain ⟨k, v, hv, hserving, hserver⟩ := Project.resolvedFromCookie_eq_some hlive
      exact ⟨k, v, ⟨hv, hserving⟩, hserver⟩
  | @reprobeLive c cookie server hcall hlive =>
      refine hs.moves hpeace h (calls_goto _ _ · _) nofun fun server' hfound => ?_
      obtain rfl : server = server' := by rcases hfound with h | h <;> cases h; rfl
      obtain ⟨k, v, hv, hserving, hserver⟩ := Project.resolvedFromCookie_eq_some hlive
      exact ⟨k, v, ⟨hv, hserving⟩, hserver⟩
  | @writeSpawned c k server startedAt hcall hserver =>
      refine hs.moves hpeace h (calls_gotoWith _ _ _ · _) nofun fun server' hfound => ?_
      obtain ⟨v, hv⟩ := hs.writing c k hcall
      obtain rfl : server = v := Option.some.inj (hserver.symm.trans hv.1)
      rcases hfound with h | h
      · exact nomatch h
      · cases h
        exact ⟨k, server, hv, rfl, rfl⟩
  | @release c reply hcall =>
      refine hs.moves hpeace h (calls_release _ _ · _) nofun fun server' hfound => ?_
      have hreleasing : Found (s.calls c) server' := by
        rw [hcall]
        rcases hfound with h | h <;> cases h
        exact .inr rfl
      obtain ⟨k, v, hv, hserver⟩ := hs.found c server' hreleasing
      exact ⟨k, v, hv, hserver⟩
  | @acquireUpdate c update =>
      exact hs.moves hpeace h (calls_acquire _ _ · _) nofun fun _ hfound => hfound.elim nofun nofun
  | acquireResolve => exact hs.moves hpeace h (calls_acquire _ _ · _) nofun fun _ hfound => hfound.elim nofun nofun
  | discard | launch | writeUpdate =>
      exact hs.moves hpeace h (calls_gotoWith _ _ _ · _) nofun fun _ hfound => hfound.elim nofun nofun
  | _ =>
      have hclient := hpeace.1
      first
      | (exfalso; simp_all [DaemonCall.isClient]; done)
      | exact hs.moves hpeace h (calls_goto _ _ · _) nofun fun _ hfound => hfound.elim nofun nofun

end DaemonSystem
end GdbMcp
