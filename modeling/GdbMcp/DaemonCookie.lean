import GdbMcp.DaemonInvariant

/-! The cookie of a live server. The client removes cookies in three functions; only the one that starts servers
does so under the lock, the other two unlink the file long after they have read it. -/

namespace GdbMcp

/-- The cookie on account of which `daemon_status` or `stop_daemon` is about to unlink the file. -/
def DaemonCall.unlinking : DaemonCall → Option Cookie
  | statusRemoving cookie | stopRemoving cookie _ | invalidRemoving cookie => some cookie
  | _ => none

/-- The cookie on account of which an invocation is about to unlink the file. -/
def DaemonCall.removing : DaemonCall → Option Cookie
  | discarding cookie => some cookie
  | call => call.unlinking

namespace DaemonSystem

open DaemonCall

variable {s s' : DaemonSystem} {e : DaemonEvent} {c : Nat} {call : DaemonCall}

/-- The file holds the cookie of a server that is serving. -/
def NamesLive (p : Project) (k : Nat) : Prop :=
  ∃ d v, p.cookie.read = some d ∧ d.origin = some k ∧ p.servers[k]? = some v ∧ v.stage = .serving

/-- `daemon_status` and `stop_daemon` do not unlink the file while it holds the cookie of another, live server
than the one whose cookie they have read. -/
def UnlinksOwn (s : DaemonSystem) (e : DaemonEvent) : Prop :=
  ∀ c cookie k, e = .call c → (s.calls c).unlinking = some cookie → NamesLive s.project k → cookie.origin = some k

/-- No invocation is under way, and every serving server that has not been asked to exit is in the file. -/
structure Initial (s : DaemonSystem) : Prop where
  calls : ∃ requests : Nat → DaemonRequest, s.calls = fun c => .requested (requests c)
  holder : s.holder = none
  updates : s.updates = []
  file : ∀ d, s.project.cookie.read = some d → s.project.Valid d
  named : ∀ (k : Nat) (v : Server), s.project.servers[k]? = some v → v.stage = .serving → v.asked = false →
    ∃ d, s.project.cookie.read = some d ∧ d.origin = some k

theorem Initial.coherent (h : Initial s) : Coherent s := by
  obtain ⟨requests, hcalls⟩ := h.calls
  constructor
  · intro c hc
    rw [hcalls] at hc
    exact nomatch hc
  · exact h.file
  · intro c
    rw [hcalls]
    trivial
  · intro k v hv hserving hasked
    exact ⟨0, .inr (h.named k v hv hserving hasked)⟩

theorem Coherent.not_writing (hs : Coherent s) (hlock : (s.calls c).holdsLock = true)
    (hne : ∀ k, s.calls c ≠ writing k) (c' k : Nat) : s.calls c' ≠ writing k := by
  intro hwrite
  have hlock' : (s.calls c').holdsLock = true := by rw [hwrite]; rfl
  obtain rfl := hs.holder_unique hlock hlock'
  exact hne k hwrite

theorem Coherent.free_not_writing (hs : Coherent s) (hfree : s.holder = none) (c k : Nat) :
    s.calls c ≠ writing k := by
  intro hwrite
  exact nomatch hfree.symm.trans (hs.lock c (by rw [hwrite]; rfl))

/-- The lock is taken. -/
theorem Coherent.acquire (hs : Coherent s) (hfree : s.holder = none) (hknows : call.Knows s.project) :
    Coherent (s.acquire c call) := by
  constructor
  · intro c' hc'
    by_cases h : c = c'
    · rw [h]
      rfl
    · rw [calls_acquire, if_neg h] at hc'
      exact nomatch hfree.symm.trans (hs.lock c' hc')
  · exact hs.file
  · intro c'
    rw [calls_acquire]
    split
    · exact hknows
    · exact hs.knows c'
  · intro k v hv hserving hasked
    exact ⟨c, .inr (hs.named (hs.free_not_writing hfree) hv hserving hasked)⟩

/-- The lock is let go. -/
theorem Coherent.release (hs : Coherent s) {reply : DaemonReply} (hcall : s.calls c = releasing reply) :
    Coherent (s.release c reply) := by
  have hlock : (s.calls c).holdsLock = true := by rw [hcall]; rfl
  constructor
  · intro c' hc'
    by_cases h : c = c'
    · rw [calls_release, if_pos h] at hc'
      exact nomatch hc'
    · rw [calls_release, if_neg h] at hc'
      exact absurd (hs.holder_unique hlock hc') h
  · exact hs.file
  · intro c'
    rw [calls_release]
    split
    · trivial
    · exact hs.knows c'
  · intro k v hv hserving hasked
    refine ⟨c, .inr (hs.named (hs.not_writing hlock fun k hwrite => ?_) hv hserving hasked)⟩
    exact nomatch hcall.symm.trans hwrite

/-- An invocation without the lock moves on, and leaves the project as it is. -/
theorem Coherent.moves (hs : Coherent s) (hlock : (s.calls c).holdsLock = false) (hcall : call.holdsLock = false)
    (hknows : call.Knows s.project) : Coherent (s.goto c call) :=
  hs.unguarded (.refl _) hlock hcall hknows fun _ _ _ hd _ _ _ _ => hd

/-- Something happens beside the lock, and no invocation moves on. -/
theorem Coherent.beside (hs : Coherent s) {p : Project} (hle : s.project.Unguarded p)
    (hcookie : p.cookie = s.project.cookie) : Coherent { s with project := p } := by
  constructor
  · exact hs.lock
  · exact fun d hd => (hs.file d (hle.cookie d hd)).mono hle.evolves
  · exact fun c => (hs.knows c).unguarded hle
  · intro k v' hv' hserving hasked
    obtain ⟨v, hv, hstage, hmono⟩ := hle.serving k v' hv' hserving
    have hunasked : v.asked = false := by
      by_contra h
      rw [Bool.not_eq_false] at h
      exact nomatch hasked.symm.trans (hmono h)
    obtain ⟨c, hremembered⟩ := hs.remembered k v hv hstage hunasked
    refine ⟨c, hremembered.imp_right fun ⟨d, hd, horigin⟩ => ⟨d, ?_, horigin⟩⟩
    rw [hcookie]
    exact hd

/-- The holder of the lock moves on, and leaves the project as it is. -/
theorem Coherent.movesLocked (hs : Coherent s) (hlock : (s.calls c).holdsLock = true)
    (hne : ∀ k, s.calls c ≠ writing k) (hknows : call.Knows s.project) : Coherent (s.goto c call) :=
  hs.guarded (.refl _) hlock hs.file hknows fun _ _ hv hserving hasked =>
    .inr (hs.named (hs.not_writing hlock hne) hv hserving hasked)

/-- Unlinking the file on account of a server that is dead or has been asked to exit. -/
theorem Coherent.unlinks (hs : Coherent s) {cookie : Cookie} (hown : s.UnlinksOwn (.call c))
    (hcookie : (s.calls c).unlinking = some cookie) (hsettled : s.project.Settled cookie)
    (hlock : (s.calls c).holdsLock = false) (hcall : call.holdsLock = false)
    (hknows : call.Knows s.project.removeCookie) : Coherent (s.gotoWith s.project.removeCookie c call) := by
  refine hs.unguarded (Project.unguarded_removeCookie _) hlock hcall hknows ?_
  intro d k v hd horigin hv hserving hasked
  have horigin' := hown c cookie k rfl hcookie ⟨d, v, hd, horigin, hv, hserving⟩
  obtain ⟨v', hv', hdead | hasked'⟩ := hsettled k horigin'
  · obtain rfl : v = v' := Option.some.inj (hv.symm.trans hv')
    exact nomatch hserving.symm.trans hdead
  · obtain rfl : v = v' := Option.some.inj (hv.symm.trans hv')
    exact nomatch hasked.symm.trans hasked'

/-- Where the file names no server, all serving servers have been asked to exit. -/
theorem Coherent.quiet_of_read_none (hs : Coherent s) (hlock : (s.calls c).holdsLock = true)
    (hne : ∀ k, s.calls c ≠ writing k) (hnone : s.project.cookie.read = none) : s.project.Quiet none := by
  intro k v hv _ hserving
  by_contra hasked
  rw [Bool.not_eq_true] at hasked
  obtain ⟨d, hd, -⟩ := hs.named (hs.not_writing hlock hne) hv hserving hasked
  exact nomatch hnone.symm.trans hd

/-- The cookie of a dead server names no other one. -/
theorem Coherent.quiet_of_stale (hs : Coherent s) (hlock : (s.calls c).holdsLock = true)
    (hne : ∀ k, s.calls c ≠ writing k) {cookie : Cookie} (hstale : s.project.Stale cookie)
    (hholds : s.project.Holds cookie.origin) : s.project.Quiet none := by
  intro k v hv _ hserving
  by_contra hasked
  rw [Bool.not_eq_true] at hasked
  obtain ⟨d, hd, horigin⟩ := hs.named (hs.not_writing hlock hne) hv hserving hasked
  obtain ⟨v', hv', hdead⟩ := hstale k ((hholds d hd).symm.trans horigin)
  obtain rfl : v = v' := Option.some.inj (hv.symm.trans hv')
  exact nomatch hserving.symm.trans hdead

theorem Coherent.step (hs : Coherent s) (hown : s.UnlinksOwn e) (h : Step s e s') : Coherent s' := by
  cases h with
  | die => exact hs.beside (Project.unguarded_die ..) rfl
  | readNone hcall => exact hs.moves (by rw [hcall]; rfl) rfl trivial
  | readSome hcall hcookie => exact hs.moves (by rw [hcall]; rfl) rfl (hs.file _ hcookie)
  | probeLive hcall => exact hs.moves (by rw [hcall]; rfl) rfl trivial
  | probeStale hcall => exact hs.moves (by rw [hcall]; rfl) rfl trivial
  | acquireResolve _ hfree => exact hs.acquire hfree trivial
  | @rereadNone c hcall hnone =>
      have hlock : (s.calls c).holdsLock = true := by rw [hcall]; rfl
      have hne : ∀ k, s.calls c ≠ writing k := fun k hwrite => nomatch hcall.symm.trans hwrite
      exact hs.movesLocked hlock hne (hs.quiet_of_read_none hlock hne hnone)
  | @rereadSome c cookie hcall hcookie =>
      refine hs.movesLocked (by rw [hcall]; rfl) (fun k hwrite => nomatch hcall.symm.trans hwrite)
        ⟨hs.file _ hcookie, fun d hd => ?_⟩
      rw [Option.some.inj (hd.symm.trans hcookie)]
  | reprobeLive hcall =>
      exact hs.movesLocked (by rw [hcall]; rfl) (fun k hwrite => nomatch hcall.symm.trans hwrite) trivial
  | @reprobeStale c cookie hcall hstale =>
      have hknows := hs.knows c
      rw [hcall] at hknows
      exact hs.movesLocked (by rw [hcall]; rfl) (fun k hwrite => nomatch hcall.symm.trans hwrite)
        ⟨hknows.1.stale hstale, hknows.2⟩
  | @discard c cookie hcall =>
      have hlock : (s.calls c).holdsLock = true := by rw [hcall]; rfl
      have hne : ∀ k, s.calls c ≠ writing k := fun k hwrite => nomatch hcall.symm.trans hwrite
      have hknows := hs.knows c
      rw [hcall] at hknows
      have hquiet := hs.quiet_of_stale hlock hne hknows.1 hknows.2
      refine hs.guarded (.refl _) hlock nofun hquiet fun k v hv hserving hasked => ?_
      exact nomatch hasked.symm.trans (hquiet k v hv (Option.some_ne_none k) hserving)
  | @launch c pid url token hcall =>
      have hquiet : s.project.Quiet none := by
        have := hs.knows c
        rw [hcall] at this
        exact this
      have hle := Project.evolves_launch s.project { pid, url, token, stage := .starting }
      have hnone : ∀ (k : Nat) (v : Server),
          (s.project.launch { pid, url, token, stage := .starting }).servers[k]? = some v →
            v.stage = .serving → v.asked = true := by
        intro k v hv hserving
        rw [Project.getElem?_launch] at hv
        split at hv
        · obtain rfl := Option.some.inj hv
          exact nomatch hserving
        · exact hquiet k v hv (Option.some_ne_none k) hserving
      refine hs.guarded hle (by rw [hcall]; rfl) (fun d hd => (hs.file d hd).mono hle)
        (fun k v hv _ hserving => hnone k v hv hserving) fun k v hv hserving hasked => ?_
      exact nomatch hasked.symm.trans (hnone k v hv hserving)
  | @ready c k server hcall hserver hstage =>
      have hquiet : s.project.Quiet (some k) := by
        have := hs.knows c
        rw [hcall] at this
        exact this
      have hle := Project.evolves_ready hserver hstage
      have hothers : (s.project.setStage k .serving).Quiet (some k) := by
        intro j v hv hj hserving
        have hne : ¬k = j := fun h => hj (congrArg some h.symm)
        rw [Project.getElem?_setStage, Option.map_eq_some_iff] at hv
        obtain ⟨v', hv', rfl⟩ := hv
        rw [if_neg hne] at hserving ⊢
        exact hquiet j v' hv' hj hserving
      have hready : (s.project.setStage k .serving).servers[k]? = some { server with stage := .serving } := by
        rw [Project.getElem?_setStage, hserver, Option.map_some, if_pos rfl]
      refine hs.guarded hle (by rw [hcall]; rfl) (fun d hd => (hs.file d hd).mono hle)
        ⟨hothers, _, hready, nofun⟩ fun j v hv hserving hasked => ?_
      by_cases hj : j = k
      · exact .inl (by rw [hj])
      · exact nomatch hasked.symm.trans (hothers j v hv (fun h => hj (Option.some.inj h)) hserving)
  | @spawnFails c k message hcall =>
      have hquiet : s.project.Quiet (some k) := by
        have := hs.knows c
        rw [hcall] at this
        exact this
      have hle := Project.unguarded_die s.project k
      refine hs.guarded hle.evolves (by rw [hcall]; rfl) (fun d hd => (hs.file d hd).mono hle.evolves) trivial
        fun j v hv hserving hasked => ?_
      by_cases hj : j = k
      · subst hj
        rw [Project.getElem?_setStage, Option.map_eq_some_iff] at hv
        obtain ⟨v', -, rfl⟩ := hv
        rw [if_pos rfl] at hserving
        exact nomatch hserving
      · exact nomatch hasked.symm.trans
          (hquiet.mono hle j v hv (fun h => hj (Option.some.inj h)) hserving)
  | @writeSpawned c k server startedAt hcall hserver =>
      have hknows := hs.knows c
      rw [hcall] at hknows
      obtain ⟨hquiet, v, hv, hstage⟩ := hknows
      obtain rfl : server = v := Option.some.inj (hserver.symm.trans hv)
      refine hs.guarded (.refl _) (by rw [hcall]; rfl) (fun d hd => ?_) trivial
        fun j v' hv' hserving hasked => ?_
      · obtain rfl := Option.some.inj hd
        rintro j ⟨⟩
        exact ⟨server, hserver, hstage, rfl, rfl⟩
      · by_cases hj : j = k
        · exact .inr ⟨_, rfl, congrArg some hj.symm⟩
        · exact nomatch hasked.symm.trans (hquiet j v' hv' (fun h => hj (Option.some.inj h)) hserving)
  | release hcall => exact hs.release hcall
  | @acquireUpdate c update _ hfree =>
      have hacquired : Coherent (s.acquire c (updateLocked update)) := hs.acquire hfree trivial
      exact ⟨hacquired.lock, hacquired.file, hacquired.knows, hacquired.remembered⟩
  | @readUpdate c update cookie hcall hcookie =>
      obtain ⟨hsome, hnone⟩ := SessionUpdate.apply_eq_some hcookie
      refine hs.movesLocked (by rw [hcall]; rfl) (fun k hwrite => nomatch hcall.symm.trans hwrite) ⟨?_, ?_⟩
      · intro k hk
        cases hd : s.project.cookie.read with
        | none => exact nomatch (hnone hd).symm.trans hk
        | some d =>
            obtain ⟨horigin, hurl, htoken⟩ := hsome d hd
            obtain ⟨v, hv, hstage, hurl', htoken'⟩ := hs.file d hd k (horigin.symm.trans hk)
            exact ⟨v, hv, hstage, hurl.trans hurl', htoken.trans htoken'⟩
      · intro d hd
        exact (hsome d hd).1.symm
  | readNoUpdate hcall =>
      exact hs.movesLocked (by rw [hcall]; rfl) (fun k hwrite => nomatch hcall.symm.trans hwrite) trivial
  | @writeUpdate c cookie hcall =>
      have hlock : (s.calls c).holdsLock = true := by rw [hcall]; rfl
      have hne : ∀ k, s.calls c ≠ writing k := fun k hwrite => nomatch hcall.symm.trans hwrite
      have hknows := hs.knows c
      rw [hcall] at hknows
      refine hs.guarded (.refl _) hlock (fun d hd => ?_) trivial fun k v hv hserving hasked => ?_
      · obtain rfl := Option.some.inj hd
        exact hknows.1
      · obtain ⟨d, hd, horigin⟩ := hs.named (hs.not_writing hlock hne) hv hserving hasked
        exact .inr ⟨cookie, rfl, (hknows.2 d hd).symm.trans horigin⟩
  | statusNone hcall => exact hs.moves (by rw [hcall]; rfl) rfl trivial
  | statusSome hcall hcookie => exact hs.moves (by rw [hcall]; rfl) rfl (hs.file _ hcookie)
  | statusLive hcall => exact hs.moves (by rw [hcall]; rfl) rfl trivial
  | @statusStale c cookie hcall hstale =>
      have hknows := hs.knows c
      rw [hcall] at hknows
      exact hs.moves (by rw [hcall]; rfl) rfl (hknows.stale hstale)
  | @statusRemove c cookie hcall =>
      have hknows := hs.knows c
      rw [hcall] at hknows
      exact hs.unlinks hown (by rw [hcall]; rfl) (Project.Stale.settled hknows) (by rw [hcall]; rfl) rfl trivial
  | stopNone hcall => exact hs.moves (by rw [hcall]; rfl) rfl trivial
  | @stopInvalid c cookie hcall hcookie hurl =>
      refine hs.moves (by rw [hcall]; rfl) rfl ?_
      cases horigin : cookie.origin with
      | none => exact horigin
      | some k =>
          obtain ⟨v, -, -, hurl', -⟩ := hs.file _ hcookie k horigin
          exact nomatch hurl.symm.trans hurl'
  | stopSome hcall hcookie hurl => exact hs.moves (by rw [hcall]; rfl) rfl ⟨hs.file _ hcookie, hurl⟩
  | @invalidRemove c cookie hcall =>
      have hknows : cookie.origin = none := by
        have := hs.knows c
        rw [hcall] at this
        exact this
      refine hs.unlinks hown (by rw [hcall]; rfl) (fun k hk => ?_) (by rw [hcall]; rfl) rfl trivial
      exact nomatch hknows.symm.trans hk
  | @postRefused c cookie url message hcall =>
      exact hs.unguarded (Project.unguarded_askUrl ..) (by rw [hcall]; rfl) rfl trivial
        fun _ _ _ hd _ _ _ _ => hd
  | @postAccepted c cookie url hcall =>
      have hknows := hs.knows c
      rw [hcall] at hknows
      exact hs.unguarded (Project.unguarded_askUrl ..) (by rw [hcall]; rfl) rfl (hknows.1.settled hknows.2)
        fun _ _ _ hd _ _ _ _ => hd
  | @postFails c cookie url message hcall =>
      have hknows := hs.knows c
      rw [hcall] at hknows
      exact hs.unguarded (Project.unguarded_askUrl ..) (by rw [hcall]; rfl) rfl (hknows.1.settled hknows.2)
        fun _ _ _ hd _ _ _ _ => hd
  | @noPid c cookie requestError hcall =>
      have hknows := hs.knows c
      rw [hcall] at hknows
      exact hs.moves (by rw [hcall]; rfl) rfl hknows
  | @exited c cookie requestError pid hcall =>
      have hknows := hs.knows c
      rw [hcall] at hknows
      exact hs.moves (by rw [hcall]; rfl) rfl hknows
  | @signal c cookie requestError pid hcall =>
      have hknows := hs.knows c
      rw [hcall] at hknows
      exact hs.unguarded (Project.unguarded_askPid ..) (by rw [hcall]; rfl) rfl
        (hknows.mono (Project.unguarded_askPid ..).evolves) fun _ _ _ hd _ _ _ _ => hd
  | @signalWaited c cookie requestError hcall =>
      have hknows := hs.knows c
      rw [hcall] at hknows
      exact hs.moves (by rw [hcall]; rfl) rfl hknows
  | @stopRemove c cookie requestError hcall =>
      have hknows := hs.knows c
      rw [hcall] at hknows
      exact hs.unlinks hown (by rw [hcall]; rfl) hknows (by rw [hcall]; rfl) rfl trivial
  | reportFailure hcall => exact hs.moves (by rw [hcall]; rfl) rfl trivial
  | reportStopped hcall => exact hs.moves (by rw [hcall]; rfl) rfl trivial

theorem coherent_of_unlinksOwn (h : Reachable Initial Step UnlinksOwn s) : Coherent s :=
  h.invariant (fun _ => Initial.coherent) fun _ _ _ hs hown hstep => hs.step hown hstep

/-- Who is about to remove the cookie of a live server has asked that very server to exit. -/
theorem Coherent.asked_of_removing (hs : Coherent s) (hown : s.UnlinksOwn (.call c)) {cookie : Cookie} {k : Nat}
    (hremoving : (s.calls c).removing = some cookie) (hlive : NamesLive s.project k) :
    cookie.origin = some k ∧ (∃ requestError, s.calls c = stopRemoving cookie requestError) ∧
      ∃ v, s.project.servers[k]? = some v ∧ v.asked = true := by
  obtain ⟨d, v, hd, horigin, hv, hserving⟩ := id hlive
  have hknows := hs.knows c
  have halive : ∀ v' : Server, s.project.servers[k]? = some v' → v'.stage ≠ .dead := by
    intro v' hv' hdead
    obtain rfl : v = v' := Option.some.inj (hv.symm.trans hv')
    exact nomatch hserving.symm.trans hdead
  cases hcall : s.calls c with
  | discarding cookie' =>
      rw [hcall] at hremoving hknows
      obtain rfl := Option.some.inj hremoving
      obtain ⟨v', hv', hdead⟩ := hknows.1 k ((hknows.2 d hd).symm.trans horigin)
      exact absurd hdead (halive v' hv')
  | statusRemoving cookie' =>
      rw [hcall] at hremoving hknows
      obtain rfl := Option.some.inj hremoving
      obtain ⟨v', hv', hdead⟩ := hknows k (hown c cookie' k rfl (by rw [hcall]; rfl) hlive)
      exact absurd hdead (halive v' hv')
  | stopRemoving cookie' requestError =>
      rw [hcall] at hremoving hknows
      obtain rfl := Option.some.inj hremoving
      have horigin' := hown c cookie' k rfl (by rw [hcall]; rfl) hlive
      obtain ⟨v', hv', hdead | hasked⟩ := hknows k horigin'
      · exact absurd hdead (halive v' hv')
      · exact ⟨horigin', ⟨requestError, rfl⟩, v', hv', hasked⟩
  | invalidRemoving cookie' =>
      rw [hcall] at hremoving hknows
      obtain rfl := Option.some.inj hremoving
      exact nomatch (show cookie'.origin = none from hknows).symm.trans
        (hown c cookie' k rfl (by rw [hcall]; rfl) hlive)
  | _ =>
      rw [hcall] at hremoving
      exact nomatch hremoving

/-- As long as the two functions that take no lock unlink no foreign cookie of a live server, the cookie of a
live server is removed only behind a request to that very server, and every live server that has not been asked
to exit is remembered, or is about to be. -/
theorem live_cookie_kept (h : Reachable Initial Step UnlinksOwn s) :
    (∀ c cookie k, s.UnlinksOwn (.call c) → (s.calls c).removing = some cookie → NamesLive s.project k →
      cookie.origin = some k ∧ (∃ requestError, s.calls c = stopRemoving cookie requestError) ∧
        ∃ v, s.project.servers[k]? = some v ∧ v.asked = true) ∧
    ∀ (k : Nat) (v : Server), s.project.servers[k]? = some v → v.stage = .serving → v.asked = false →
      (∃ c, s.calls c = writing k) ∨ NamesLive s.project k := by
  have hs := coherent_of_unlinksOwn h
  refine ⟨fun c cookie k hown hremoving hlive => hs.asked_of_removing hown hremoving hlive, ?_⟩
  intro k v hv hserving hasked
  obtain ⟨c, hwrite | ⟨d, hd, horigin⟩⟩ := hs.remembered k v hv hserving hasked
  · exact .inl ⟨c, hwrite⟩
  · exact .inr ⟨d, v, hd, horigin, hv, hserving⟩

def deadServer : Server where
  pid := 100
  url := "http://127.0.0.1:4000/mcp"
  token := "first"
  stage := .dead

/-- A project whose server has died, with its cookie; the first invocation asks for the status, the others
resolve the server. -/
def afterCrash : DaemonSystem where
  project :=
    { root := "/work", log := "/cache/log", cookie := .holds (.spawned 0 deadServer "/cache/log" .none)
      servers := [deadServer] }
  calls c := .requested (if c = 0 then .daemonStatus else .resolveServer)

theorem initial_afterCrash : Initial afterCrash where
  calls := ⟨_, rfl⟩
  holder := rfl
  updates := rfl
  file d hd := by
    obtain rfl := Option.some.inj hd
    rintro k ⟨⟩
    exact ⟨deadServer, rfl, nofun, rfl, rfl⟩
  named k v hv hserving := by
    cases k with
    | zero =>
        obtain rfl := Option.some.inj hv
        exact nomatch hserving
    | succ k => exact nomatch hv

theorem live_cookie_kept_afterCrash :
    ∃ s, Reachable Initial Step UnlinksOwn s ∧ ((∃ c, s.calls c = writing 1) ∨ NamesLive s.project 1) := by
  have hown : ∀ {t : DaemonSystem} {c : Nat}, (t.calls c).unlinking = none → t.UnlinksOwn (.call c) := by
    rintro t c hnone c' cookie k ⟨⟩ hcookie
    exact nomatch hnone.symm.trans hcookie
  have h₀ : Reachable Initial Step UnlinksOwn afterCrash := .initial initial_afterCrash
  have h₁ := h₀.step (hown rfl) (.readSome (c := 1) rfl rfl)
  have h₂ := h₁.step (hown rfl) (.probeStale (c := 1) rfl rfl)
  have h₃ := h₂.step (hown rfl) (.acquireResolve (c := 1) rfl rfl)
  have h₄ := h₃.step (hown rfl) (.rereadSome (c := 1) rfl rfl)
  have h₅ := h₄.step (hown rfl) (.reprobeStale (c := 1) rfl rfl)
  have h₆ := h₅.step (hown rfl) (.discard (c := 1) rfl)
  have h₇ := h₆.step (hown rfl) (.launch (c := 1) 200 "http://127.0.0.1:4001/mcp" "second" rfl)
  have h₈ := h₇.step (hown rfl) (.ready (c := 1) rfl rfl rfl)
  have h₉ := h₈.step (hown rfl) (.writeSpawned (c := 1) .none rfl rfl)
  exact ⟨_, h₉, (live_cookie_kept h₉).2 1 _ rfl rfl rfl⟩

/-- The status has read the cookie of the dead server; before it unlinks the file, another invocation has
started a new server and written its cookie. The new server is alive and no longer remembered. -/
theorem live_cookie_removed_by_status :
    ∃ s s' cookie, Reachable Initial Step (fun _ _ => True) s ∧ s.calls 0 = statusRemoving cookie ∧
      cookie.origin = some 0 ∧ NamesLive s.project 1 ∧ Step s (.call 0) s' ∧
        s'.project.cookie.read = none ∧
          ∃ v, s'.project.servers[1]? = some v ∧ v.stage = .serving ∧ v.asked = false := by
  have h₀ : Reachable Initial Step (fun _ _ => True) afterCrash := .initial initial_afterCrash
  have h₁ := h₀.step trivial (.statusSome (c := 0) rfl rfl)
  have h₂ := h₁.step trivial (.statusStale (c := 0) rfl rfl)
  have h₃ := h₂.step trivial (.readSome (c := 1) rfl rfl)
  have h₄ := h₃.step trivial (.probeStale (c := 1) rfl rfl)
  have h₅ := h₄.step trivial (.acquireResolve (c := 1) rfl rfl)
  have h₆ := h₅.step trivial (.rereadSome (c := 1) rfl rfl)
  have h₇ := h₆.step trivial (.reprobeStale (c := 1) rfl rfl)
  have h₈ := h₇.step trivial (.discard (c := 1) rfl)
  have h₉ := h₈.step trivial (.launch (c := 1) 200 "http://127.0.0.1:4001/mcp" "second" rfl)
  have h₁₀ := h₉.step trivial (.ready (c := 1) rfl rfl rfl)
  have h₁₁ := h₁₀.step trivial (.writeSpawned (c := 1) .none rfl rfl)
  have h₁₂ := h₁₁.step trivial (.release (c := 1) rfl)
  exact ⟨_, _, _, h₁₂, rfl, rfl, ⟨_, _, rfl, rfl, rfl, rfl⟩, .statusRemove (c := 0) rfl, rfl, _, rfl, rfl, rfl⟩

end DaemonSystem
end GdbMcp
