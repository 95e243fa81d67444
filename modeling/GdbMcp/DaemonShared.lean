import GdbMcp.DaemonUnique

/-! What the cookie file remembers beside the server: the session of the update that took the lock last. -/

namespace GdbMcp

def Cookie.lastSession (cookie : Cookie) : Option Value := cookie.fields.lookup "last_session_id"

/-- The session that an update leaves in the cookie. -/
def SessionUpdate.value : SessionUpdate → Option Value
  | remember sessionId => some (.int sessionId)
  | forget => none

theorem SessionUpdate.lastSession_apply {update : SessionUpdate} {old : Option Cookie} {new : Cookie}
    (h : update.apply old = some new) : new.lastSession = update.value := by
  cases update with
  | remember sessionId =>
      obtain rfl := Option.some.inj h
      exact (lookup_setField ..).trans (if_pos rfl)
  | forget =>
      rw [apply, Option.map_eq_some_iff] at h
      obtain ⟨d, -, rfl⟩ := h
      exact (lookup_popField ..).trans (if_pos rfl)

/-- Nothing needs to be written: the file already says what the update wants. -/
theorem SessionUpdate.lastSession_of_apply_eq_none {update : SessionUpdate} {d : Cookie}
    (h : update.apply (some d) = none) : d.lastSession = update.value := by
  cases update with
  | remember sessionId => exact nomatch h
  | forget =>
      rw [apply, Option.map_eq_none_iff, Option.filter_eq_none_iff] at h
      have hany := h d rfl
      rw [Cookie.lastSession, value, List.lookup_eq_none_iff]
      intro field hfield
      by_contra hne
      rw [Bool.not_eq_true, bne_eq_false_iff_eq] at hne
      exact hany (List.any_eq_true.mpr ⟨field, hfield, by rw [beq_iff_eq, hne]⟩)

/-- An update of the remembered session is under way, and has the lock. -/
def DaemonCall.updating : DaemonCall → Bool
  | updateLocked _ | updateWriting _ => true
  | _ => false

namespace DaemonSystem

open DaemonCall

variable {s s' s₀ : DaemonSystem} {e : DaemonEvent} {c : Nat} {call : DaemonCall}

/-- The servers of a peaceful run, and what its invocations know of them. -/
structure Shared (s₀ s : DaemonSystem) : Prop where
  coherent : Coherent s
  servers : Servers s₀ s
  served : Served s

theorem Shared.step (hs : Shared s₀ s) (hpeace : s.Peaceful e) (h : Step s e s') : Shared s₀ s' :=
  ⟨hs.coherent.step hpeace.unlinksOwn h, hs.servers.step hs.coherent hpeace h, hs.served.step hpeace h⟩

/-- Where a server serves, no invocation is about to spawn another one. -/
theorem Shared.not_quiet (hs : Shared s₀ s) {k : Nat} {v : Server} {but : Option Nat} (hserves : Serves s.project k v)
    (hbut : some k ≠ but) : ¬s.project.Quiet but := by
  intro hquiet
  have hasked := hquiet k v hserves.1 hbut hserves.2
  exact nomatch (hs.servers.unasked k v hserves.1 (by rw [hserves.2]; decide)).symm.trans hasked

/-- Once updates have been made, a server serves, and no other one will be written to the file. The last update
is under way, or in the file. -/
structure Updated (s : DaemonSystem) : Prop where
  started : s.updates ≠ [] → (∃ k v, Serves s.project k v) ∧ ∀ c k, s.calls c ≠ DaemonCall.writing k
  locked : ∀ c update, s.calls c = DaemonCall.updateLocked update → s.updates.getLast? = some update
  pending : ∀ c cookie, s.calls c = DaemonCall.updateWriting cookie →
    ∃ update, s.updates.getLast? = some update ∧ cookie.lastSession = update.value
  effect : ∀ update, s.updates.getLast? = some update → (∃ c, (s.calls c).updating = true) ∨
    ∀ d, s.project.cookie.read = some d → d.lastSession = update.value

/-- An invocation has come to a new point outside the updates. -/
theorem Updated.moves (hs : Updated s) (hpeace : s.Peaceful e) (h : Step s e s')
    (hcalls : ∀ c', s'.calls c' = if c = c' then call else s.calls c') (hupdates : s'.updates = s.updates)
    (hcall : call.updating = false)
    (hwriting : s.updates ≠ [] → (∀ k, call ≠ DaemonCall.writing k))
    (heffect : ∀ update, s.updates.getLast? = some update → (s.calls c).updating = false ∧
        s'.project.cookie.read = s.project.cookie.read ∨
      ∀ d, s'.project.cookie.read = some d → d.lastSession = update.value) : Updated s' := by
  constructor
  · intro hsome
    rw [hupdates] at hsome
    obtain ⟨⟨k, v, hserves⟩, hnone⟩ := hs.started hsome
    refine ⟨⟨k, v, h.serves hpeace hserves⟩, fun c' k' => ?_⟩
    rw [hcalls]
    split
    · exact hwriting hsome k'
    · exact hnone c' k'
  · intro c' update hc'
    rw [hcalls] at hc'
    split at hc'
    · rw [hc'] at hcall
      exact nomatch hcall
    · rw [hupdates]
      exact hs.locked c' update hc'
  · intro c' cookie hc'
    rw [hcalls] at hc'
    split at hc'
    · rw [hc'] at hcall
      exact nomatch hcall
    · rw [hupdates]
      exact hs.pending c' cookie hc'
  · intro update hlast
    rw [hupdates] at hlast
    rcases heffect update hlast with ⟨hnot, hfile⟩ | hdone
    · refine (hs.effect update hlast).imp ?_ fun hfile' d hd => hfile' d (hfile.symm.trans hd)
      rintro ⟨c', hc'⟩
      refine ⟨c', ?_⟩
      rw [hcalls]
      split
      · rename_i heq
        subst heq
        exact nomatch hnot.symm.trans hc'
      · exact hc'
    · exact .inr hdone

theorem Updated.step (hs : Updated s) (hshared : Shared s₀ s) (hpeace : s.Peaceful e) (h : Step s e s') :
    Updated s' := by
  cases id h with
  | die => exact hpeace.elim
  | spawnFails => exact hpeace.elim
  | @discard c cookie hcall =>
      have hknows := hshared.coherent.knows c
      rw [hcall] at hknows
      have hquiet : s.project.Quiet none := hshared.coherent.quiet_of_stale (by rw [hcall]; rfl)
        (fun k hwrite => by cases hcall.symm.trans hwrite) hknows.1 hknows.2
      refine hs.moves hpeace h (calls_gotoWith _ _ _ · _) rfl rfl (fun _ _ hwrite => by cases hwrite) fun update hlast => ?_
      have hsome : s.updates ≠ [] := by
        rintro hnil
        rw [hnil] at hlast
        cases hlast
      obtain ⟨⟨k, v, hserves⟩, -⟩ := hs.started hsome
      exact absurd hquiet (hshared.not_quiet hserves (Option.some_ne_none k))
  | @ready c k server hcall hserver hstage =>
      have hquiet : s.project.Quiet (some k) := by
        have := hshared.coherent.knows c
        rw [hcall] at this
        exact this
      refine hs.moves hpeace h (calls_gotoWith _ _ _ · _) rfl rfl (fun hsome => ?_) fun update hlast =>
        .inl ⟨by rw [hcall]; rfl, rfl⟩
      obtain ⟨⟨j, v, hserves⟩, -⟩ := hs.started hsome
      have hne : some j ≠ some k := by
        rintro ⟨⟩
        obtain rfl : server = v := Option.some.inj (hserver.symm.trans hserves.1)
        cases hstage.symm.trans hserves.2
      exact absurd hquiet (hshared.not_quiet hserves hne)
  | @writeSpawned c k server startedAt hcall hserver =>
      refine hs.moves hpeace h (calls_gotoWith _ _ _ · _) rfl rfl (fun _ _ hwrite => by cases hwrite) fun update hlast => ?_
      have hsome : s.updates ≠ [] := by
        rintro hnil
        rw [hnil] at hlast
        cases hlast
      exact absurd hcall ((hs.started hsome).2 c k)
  | @acquireUpdate c update hcall hfree =>
      obtain ⟨c', server, hresolved⟩ := hpeace.2 update hcall
      obtain ⟨k, v, hserves, -⟩ := hshared.served.found c' server (.inl hresolved)
      have hothers : ∀ c' call, s.calls c' = call → call.holdsLock = false := by
        rintro c' call rfl
        by_contra hlock
        rw [Bool.not_eq_false] at hlock
        cases hfree.symm.trans (hshared.coherent.lock c' hlock)
      constructor
      · refine fun _ => ⟨⟨k, v, hserves⟩, fun c' k' hwrite => ?_⟩
        rw [show _ = _ from calls_acquire s c c' _] at hwrite
        split at hwrite
        · cases hwrite
        · cases hothers c' _ hwrite
      · intro c' update' hc'
        rw [show _ = _ from calls_acquire s c c' _] at hc'
        split at hc'
        · obtain rfl := DaemonCall.updateLocked.inj hc'
          exact List.getLast?_concat
        · cases hothers c' _ hc'
      · intro c' cookie hc'
        rw [show _ = _ from calls_acquire s c c' _] at hc'
        split at hc'
        · cases hc'
        · cases hothers c' _ hc'
      · refine fun _ _ => .inl ⟨c, ?_⟩
        rw [show _ = _ from calls_acquire s c c _, if_pos rfl]
        rfl
  | @readUpdate c update cookie hcall hcookie =>
      have hlast := hs.locked c update hcall
      have hcalls : ∀ c', (s.goto c (DaemonCall.updateWriting cookie)).calls c' =
          if c = c' then DaemonCall.updateWriting cookie else s.calls c' := (calls_goto s c · _)
      constructor
      · refine fun hsome => ⟨(hs.started hsome).1, fun c' k => ?_⟩
        rw [hcalls]
        split
        · exact fun h => by cases h
        · exact (hs.started hsome).2 c' k
      · intro c' update' hc'
        rw [hcalls] at hc'
        split at hc'
        · cases hc'
        · exact hs.locked c' update' hc'
      · intro c' cookie' hc'
        rw [hcalls] at hc'
        split at hc'
        · obtain rfl := DaemonCall.updateWriting.inj hc'
          exact ⟨update, hlast, SessionUpdate.lastSession_apply hcookie⟩
        · exact hs.pending c' cookie' hc'
      · refine fun _ _ => .inl ⟨c, ?_⟩
        rw [hcalls, if_pos rfl]
        rfl
  | @readNoUpdate c update hcall hnone =>
      refine hs.moves hpeace h (calls_goto _ _ · _) rfl rfl (fun _ _ hwrite => by cases hwrite) fun update' hlast => .inr fun d hd => ?_
      obtain rfl : update = update' := Option.some.inj ((hs.locked c update hcall).symm.trans hlast)
      change s.project.cookie.read = some d at hd
      rw [hd] at hnone
      exact SessionUpdate.lastSession_of_apply_eq_none hnone
  | @writeUpdate c cookie hcall =>
      refine hs.moves hpeace h (calls_gotoWith _ _ _ · _) rfl rfl (fun _ _ hwrite => by cases hwrite) fun update hlast => .inr fun d hd => ?_
      obtain rfl := Option.some.inj hd
      obtain ⟨update', hlast', hsession⟩ := hs.pending c _ hcall
      obtain rfl : update = update' := Option.some.inj (hlast.symm.trans hlast')
      exact hsession
  | @release c reply hcall =>
      exact hs.moves hpeace h (calls_release _ _ · _) rfl rfl (fun _ _ hwrite => by cases hwrite) fun _ _ => .inl ⟨by rw [hcall]; rfl, rfl⟩
  | @acquireResolve c hcall =>
      exact hs.moves hpeace h (calls_acquire _ _ · _) rfl rfl (fun _ _ hwrite => by cases hwrite) fun _ _ => .inl ⟨by rw [hcall]; rfl, rfl⟩
  | @launch c pid url token hcall =>
      exact hs.moves hpeace h (calls_gotoWith _ _ _ · _) rfl rfl (fun _ _ hwrite => by cases hwrite) fun _ _ => .inl ⟨by rw [hcall]; rfl, rfl⟩
  | _ =>
      have hclient := hpeace.1
      first
      | (exfalso; simp_all [DaemonCall.isClient]; done)
      | refine hs.moves hpeace h (calls_goto _ _ · _) rfl rfl (fun _ _ hwrite => by cases hwrite) fun _ _ => .inl ⟨?_, rfl⟩
        simp_all [DaemonCall.updating]

/-! ### Every invocation comes to its end -/

/-- The steps that are left to an invocation, at most. -/
def remaining : DaemonCall → Nat
  | requested _ => 12
  | probing _ => 11
  | acquiring => 10
  | locked => 9
  | probingLocked _ => 8
  | discarding _ => 7
  | spawning => 6
  | launched _ => 5
  | writing _ | updateLocked _ => 4
  | updateWriting _ => 3
  | releasing _ => 2
  | _ => 0

/-- The points that an invocation comes to in peace, by what it has been asked for. -/
def Belongs (request : DaemonRequest) (call : DaemonCall) : Prop :=
  call = requested request ∨
    match call with
    | probing _ | acquiring | locked | probingLocked _ | discarding _ | spawning | launched _ | writing _ =>
      request = .resolveServer
    | releasing reply | returned reply =>
      (request = .resolveServer ∧ ∃ server, reply = .resolved server) ∨
        (∃ update, request = .updateSession update) ∧ reply = .updated
    | updateLocked update => request = .updateSession update
    | updateWriting _ => ∃ update, request = .updateSession update
    | _ => False

/-- The lock is held by an invocation that lets it go, and every invocation is at a point of its request. -/
structure Orderly (s₀ s : DaemonSystem) : Prop where
  holder : ∀ c, s.holder = some c → (s.calls c).holdsLock = true
  belongs : ∀ c, ∃ request, s₀.calls c = requested request ∧ Belongs request (s.calls c)

/-- An invocation has come to a new point of its request. -/
theorem Orderly.moves (hs : Orderly s₀ s) (hcalls : ∀ c', s'.calls c' = if c = c' then call else s.calls c')
    (hholder : s'.holder = none ∨ call.holdsLock = true ∧ (s'.holder = s.holder ∨ s'.holder = some c) ∨
      s'.holder = s.holder ∧ (s.calls c).holdsLock = false)
    (hbelongs : ∀ request, Belongs request (s.calls c) → Belongs request call) : Orderly s₀ s' := by
  constructor
  · intro c' hc'
    rw [hcalls]
    rcases hholder with hnone | ⟨hlock, hsame | hmine⟩ | ⟨hsame, hfree⟩
    · exact nomatch hnone.symm.trans hc'
    · split
      · exact hlock
      · exact hs.holder c' (hsame.symm.trans hc')
    · obtain rfl := Option.some.inj (hmine.symm.trans hc')
      rw [if_pos rfl]
      exact hlock
    · split
      · rename_i heq
        subst heq
        exact nomatch hfree.symm.trans (hs.holder c (hsame.symm.trans hc'))
      · exact hs.holder c' (hsame.symm.trans hc')
  · intro c'
    obtain ⟨request, hrequest, hc'⟩ := hs.belongs c'
    refine ⟨request, hrequest, ?_⟩
    rw [hcalls]
    split
    · rename_i heq
      subst heq
      exact hbelongs request hc'
    · exact hc'

theorem Orderly.step (hs : Orderly s₀ s) (hpeace : s.Peaceful e) (h : Step s e s') : Orderly s₀ s' := by
  cases h with
  | die => exact hpeace.elim
  | spawnFails => exact hpeace.elim
  | release hcall =>
      refine hs.moves (calls_release _ _ · _) (.inl rfl) ?_
      simp [hcall, Belongs]
  | acquireResolve hcall =>
      refine hs.moves (calls_acquire _ _ · _) (.inr (.inl ⟨rfl, .inr rfl⟩)) ?_
      simp [hcall, Belongs]
  | acquireUpdate hcall =>
      refine hs.moves (calls_acquire _ _ · _) (.inr (.inl ⟨rfl, .inr rfl⟩)) ?_
      simp [hcall, Belongs]
  | readNone hcall | readSome hcall | probeStale hcall | probeLive hcall =>
      refine hs.moves (calls_goto _ _ · _) (.inr (.inr ⟨rfl, by rw [hcall]; rfl⟩)) ?_
      simp [hcall, Belongs]
  | rereadNone hcall | rereadSome hcall | reprobeLive hcall | reprobeStale hcall | readUpdate hcall
  | readNoUpdate hcall =>
      refine hs.moves (calls_goto _ _ · _) (.inr (.inl ⟨rfl, .inl rfl⟩)) ?_
      simp +contextual [hcall, Belongs]
  | discard hcall | launch _ _ _ hcall | ready hcall | writeSpawned _ hcall | writeUpdate hcall =>
      refine hs.moves (calls_gotoWith _ _ _ · _) (.inr (.inl ⟨rfl, .inl rfl⟩)) ?_
      simp +contextual [hcall, Belongs]
  | _ =>
      have hclient := hpeace.1
      simp_all [DaemonCall.isClient]

/-- In peace, every step of an invocation brings it closer to its end, and leaves the others where they are. -/
theorem Step.less_remaining (h : Step s (.call c) s') (hpeace : s.Peaceful (.call c)) :
    remaining (s'.calls c) < remaining (s.calls c) ∧
      ∀ c', c ≠ c' → s'.calls c' = s.calls c' := by
  have hmoved : ∀ {call}, (∀ c', s'.calls c' = if c = c' then call else s.calls c') →
      remaining call < remaining (s.calls c) →
        remaining (s'.calls c) < remaining (s.calls c) ∧
          ∀ c', c ≠ c' → s'.calls c' = s.calls c' := by
    intro call hcalls hless
    refine ⟨?_, fun c' hne => ?_⟩
    · rw [hcalls, if_pos rfl]
      exact hless
    · rw [hcalls, if_neg hne]
  have hclient := hpeace.1
  cases h with
  | release hcall => exact hmoved (calls_release _ _ · _) (by simp [hcall, remaining])
  | acquireResolve hcall | acquireUpdate hcall => exact hmoved (calls_acquire _ _ · _) (by simp [hcall, remaining])
  | readNone hcall | readSome hcall | probeStale hcall | probeLive hcall | rereadNone hcall | rereadSome hcall
  | reprobeLive hcall | reprobeStale hcall | readUpdate hcall | readNoUpdate hcall =>
      exact hmoved (calls_goto _ _ · _) (by simp [hcall, remaining])
  | discard hcall | launch _ _ _ hcall | ready hcall | writeSpawned _ hcall | writeUpdate hcall =>
      exact hmoved (calls_gotoWith _ _ _ · _) (by simp [hcall, remaining])
  | _ => simp_all [DaemonCall.isClient]

/-- Nothing but the lock is ever waited for. -/
theorem Shared.goes (hs : Shared s₀ s) (hclient : (s.calls c).isClient = true)
    (hlock : s.holder = none ∨ (s.calls c).holdsLock = true) : ∃ s', Step s (.call c) s' := by
  cases hcall : s.calls c with
  | requested request =>
      rw [hcall] at hclient hlock
      have hfree : s.holder = none := hlock.resolve_right nofun
      cases request with
      | resolveServer =>
          cases hcookie : s.project.cookie.read with
          | none => exact ⟨_, .readNone hcall hcookie⟩
          | some cookie => exact ⟨_, .readSome hcall hcookie⟩
      | updateSession update => exact ⟨_, .acquireUpdate hcall hfree⟩
      | daemonStatus | stopDaemon => exact nomatch hclient
  | probing cookie =>
      cases hlive : s.project.resolvedFromCookie cookie with
      | none => exact ⟨_, .probeStale hcall hlive⟩
      | some server => exact ⟨_, .probeLive hcall hlive⟩
  | acquiring =>
      rw [hcall] at hlock
      exact ⟨_, .acquireResolve hcall (hlock.resolve_right nofun)⟩
  | locked =>
      cases hcookie : s.project.cookie.read with
      | none => exact ⟨_, .rereadNone hcall hcookie⟩
      | some cookie => exact ⟨_, .rereadSome hcall hcookie⟩
  | probingLocked cookie =>
      cases hlive : s.project.resolvedFromCookie cookie with
      | none => exact ⟨_, .reprobeStale hcall hlive⟩
      | some server => exact ⟨_, .reprobeLive hcall hlive⟩
  | discarding => exact ⟨_, .discard hcall⟩
  | spawning => exact ⟨_, .launch 0 "" "" hcall⟩
  | launched k =>
      obtain ⟨-, v, hv, hstarting⟩ := hs.servers.launched c k (by rw [hcall]; rfl)
      exact ⟨_, .ready hcall hv hstarting⟩
  | writing k =>
      obtain ⟨v, hv⟩ := hs.served.writing c k hcall
      exact ⟨_, .writeSpawned .none hcall hv.1⟩
  | releasing => exact ⟨_, .release hcall⟩
  | updateLocked update =>
      cases hcookie : update.apply s.project.cookie.read with
      | none => exact ⟨_, .readNoUpdate hcall hcookie⟩
      | some cookie => exact ⟨_, .readUpdate hcall hcookie⟩
  | updateWriting => exact ⟨_, .writeUpdate hcall⟩
  | _ =>
      rw [hcall] at hclient
      exact nomatch hclient

/-- An invocation that is not at its end can go on, or waits for one that can. -/
theorem Shared.progress (hs : Shared s₀ s) (horderly : Orderly s₀ s) (hpeace : s.Peaceful (.call c)) :
    ∃ c' s', (c' = c ∨ s.holder = some c') ∧ s.Peaceful (.call c') ∧ Step s (.call c') s' := by
  cases hholder : s.holder with
  | none =>
      obtain ⟨s', hstep⟩ := hs.goes hpeace.1 (.inl hholder)
      exact ⟨c, s', .inl rfl, hpeace, hstep⟩
  | some c' =>
      have hlock := horderly.holder c' hholder
      have hclient : (s.calls c').isClient = true := by
        cases hcall : s.calls c' <;> rw [hcall] at hlock <;> first | rfl | exact nomatch hlock
      obtain ⟨s', hstep⟩ := hs.goes hclient (.inr hlock)
      refine ⟨c', s', .inr rfl, ⟨hclient, fun update hcall => ?_⟩, hstep⟩
      rw [hcall] at hlock
      exact nomatch hlock

/-! ### One server -/

/-- What the invocations have come to together: one server, and one file that names it. -/
structure OneDaemon (s₀ s : DaemonSystem) : Prop where
  spawned : s.project.servers.length ≤ s₀.project.servers.length + 1
  spared : (∃ k v, Serves s₀.project k v) → s.project.servers.length = s₀.project.servers.length
  server : ∃ k, (∀ c reply, s₀.calls c = requested .resolveServer → s.calls c = returned reply →
      ∃ server v, reply = .resolved server ∧ Serves s.project k v ∧ server.url = v.url ∧
        server.token = some v.token) ∧
    (s.holder = none → (∃ c server, s.HasResolved c server) →
      ∃ d v, s.project.cookie.read = some d ∧ Serves s.project k v ∧ d.url = some v.url ∧ d.token = some v.token ∧
        ∀ update, s.updates.getLast? = some update → d.lastSession = update.value)
  progress : ∀ c, s.Peaceful (.call c) →
    ∃ c' s', (c' = c ∨ s.holder = some c') ∧ s.Peaceful (.call c') ∧ Step s (.call c') s'
  ends : ∀ c s', s.Peaceful (.call c) → Step s (.call c) s' →
    remaining (s'.calls c) < remaining (s.calls c) ∧ ∀ c', c ≠ c' → s'.calls c' = s.calls c'

theorem shared_of_peaceful (hinitial : Initial s₀) (hunasked : Unasked s₀.project)
    (h : Reachable (· = s₀) Step Peaceful s) : Shared s₀ s := by
  obtain ⟨requests, hcalls⟩ := hinitial.calls
  refine h.invariant ?_ fun _ _ _ hs hpeace hstep => hs.step hpeace hstep
  rintro _ rfl
  refine ⟨hinitial.coherent, ⟨hunasked, fun _ _ => rfl, fun c k hk => ?_, .inl rfl⟩, ⟨fun c k hk => ?_,
    fun c server hfound => ?_⟩⟩
  · rw [hcalls] at hk
    exact nomatch hk
  · rw [hcalls] at hk
    exact nomatch hk
  · rw [hcalls] at hfound
    exact hfound.elim nofun nofun

theorem updated_of_peaceful (hinitial : Initial s₀) (hunasked : Unasked s₀.project)
    (h : Reachable (· = s₀) Step Peaceful s) : Updated s := by
  obtain ⟨requests, hcalls⟩ := hinitial.calls
  refine h.invariant_with (fun _ => shared_of_peaceful hinitial hunasked) ?_
    fun _ _ _ hshared hs hpeace hstep => hs.step hshared hpeace hstep
  rintro _ rfl
  refine ⟨fun hsome => absurd hinitial.updates hsome, fun c update hc => ?_, fun c cookie hc => ?_,
    fun update hlast => ?_⟩
  · rw [hcalls] at hc
    exact nomatch hc
  · rw [hcalls] at hc
    exact nomatch hc
  · rw [hinitial.updates] at hlast
    exact nomatch hlast

theorem orderly_of_peaceful (hinitial : Initial s₀) (h : Reachable (· = s₀) Step Peaceful s) : Orderly s₀ s := by
  obtain ⟨requests, hcalls⟩ := hinitial.calls
  refine h.invariant ?_ fun _ _ _ hs hpeace hstep => hs.step hpeace hstep
  rintro _ rfl
  refine ⟨fun c hc => ?_, fun c => ⟨requests c, by rw [hcalls], .inl (by rw [hcalls])⟩⟩
  rw [hinitial.holder] at hc
  exact nomatch hc

/-- Where no invocation has the lock and one has the server, the file names a server that serves. -/
theorem Shared.file (hs : Shared s₀ s) (hfree : s.holder = none) {k : Nat} {v : Server}
    (hserves : Serves s.project k v) :
    ∃ d, s.project.cookie.read = some d ∧ d.url = some v.url ∧ d.token = some v.token := by
  obtain ⟨d, hd, horigin⟩ := hs.coherent.named (hs.coherent.free_not_writing hfree) hserves.1 hserves.2
    (hs.servers.unasked k v hserves.1 (by rw [hserves.2]; decide))
  obtain ⟨v', hv', -, hurl, htoken⟩ := hs.coherent.file d hd k horigin
  obtain rfl : v = v' := Option.some.inj (hserves.1.symm.trans hv')
  exact ⟨d, hd, hurl, htoken⟩

/-- Any number of invocations that resolve the server of a project share one server, as long as the servers get
ready and stay alive. -/
theorem one_daemon (hinitial : Initial s₀) (hunasked : Unasked s₀.project)
    (h : Reachable (· = s₀) Step Peaceful s) : OneDaemon s₀ s := by
  have hshared := shared_of_peaceful hinitial hunasked h
  have hupdated := updated_of_peaceful hinitial hunasked h
  have horderly := orderly_of_peaceful hinitial h
  have hresolved : ∀ c reply, s₀.calls c = requested .resolveServer → s.calls c = returned reply →
      ∃ server, reply = .resolved server := by
    intro c reply hrequest hreply
    obtain ⟨request, hrequest', hbelongs⟩ := horderly.belongs c
    obtain rfl := DaemonCall.requested.inj (hrequest.symm.trans hrequest')
    rw [hreply] at hbelongs
    rcases hbelongs with hreply' | ⟨-, server, rfl⟩ | ⟨⟨update, hupdate⟩, -⟩
    · exact nomatch hreply'
    · exact ⟨server, rfl⟩
    · exact nomatch hupdate
  refine ⟨?_, ?_, ?_, fun c hpeace => hshared.progress horderly hpeace, fun c s' hpeace hstep =>
    hstep.less_remaining hpeace⟩
  · rcases hshared.servers.count with hsame | ⟨hmore, -⟩
    · exact hsame ▸ Nat.le_succ _
    · exact Nat.le_of_eq hmore
  · rintro ⟨k, v, hv, hserving⟩
    exact hshared.servers.count.resolve_right fun ⟨_, hnone, _⟩ => hnone k v hv hserving
  · by_cases hany : ∃ c server, s.HasResolved c server
    · obtain ⟨c₀, server₀, hserver₀⟩ := hany
      obtain ⟨k, v, hserves, -⟩ := hshared.served.found c₀ server₀ (.inl hserver₀)
      refine ⟨k, fun c reply hrequest hreply => ?_, fun hfree _ => ?_⟩
      · obtain ⟨server, rfl⟩ := hresolved c reply hrequest hreply
        obtain ⟨k', v', hserves', hurl, htoken⟩ := hshared.served.found c server (.inl hreply)
        obtain rfl := hshared.coherent.serves_unique hshared.servers.unasked hserves hserves'
        exact ⟨server, v', rfl, hserves', hurl, htoken⟩
      · obtain ⟨d, hd, hurl, htoken⟩ := hshared.file hfree hserves
        refine ⟨d, v, hd, hserves, hurl, htoken, fun update hlast => ?_⟩
        rcases hupdated.effect update hlast with ⟨c, hupdating⟩ | heffect
        · have hlock : (s.calls c).holdsLock = true := by
            cases hcall : s.calls c <;> rw [hcall] at hupdating <;> first | rfl | exact nomatch hupdating
          exact nomatch hfree.symm.trans (hshared.coherent.lock c hlock)
        · exact heffect d hd
    · refine ⟨0, fun c reply hrequest hreply => ?_, fun _ hsome => absurd hsome hany⟩
      obtain ⟨server, rfl⟩ := hresolved c reply hrequest hreply
      exact absurd ⟨c, server, hreply⟩ hany

/-- A project without a server; the first invocation resolves it, the others remember a session. -/
def freshProject : DaemonSystem where
  project := { root := "/work", log := "/cache/log", cookie := .missing, servers := [] }
  calls c := .requested (if c = 0 then .resolveServer else .updateSession (.remember 7))

theorem initial_freshProject : Initial freshProject where
  calls := ⟨_, rfl⟩
  holder := rfl
  updates := rfl
  file _ hd := nomatch hd
  named _ _ hv := nomatch hv

theorem one_daemon_freshProject :
    ∃ s d, Reachable (· = freshProject) Step Peaceful s ∧ s.project.servers.length ≤ 1 ∧
      s.project.cookie.read = some d ∧ d.lastSession = some (.int 7) := by
  have hstep : ∀ {t t' : DaemonSystem} (c : Nat), Reachable (· = freshProject) Step Peaceful t →
      (t.calls c).isClient = true → (c = 0 ∨ t.HasResolved 0 ⟨"http://127.0.0.1:4001/mcp", some "second", true, true⟩) →
        (c = 0 → remaining (t.calls c) < 12) → Step t (.call c) t' → Reachable (· = freshProject) Step Peaceful t' := by
    intro t t' c hreach hclient hissued hbegun hstep
    have hpeace : t.Peaceful (.call c) := by
      refine ⟨hclient, fun update hcall => ?_⟩
      rcases hissued with rfl | hresolved
      · have hless := hbegun rfl
        rw [hcall] at hless
        exact absurd hless (Nat.lt_irrefl 12)
      · exact ⟨0, _, hresolved⟩
    exact hreach.step hpeace hstep
  have h₀ : Reachable (· = freshProject) Step Peaceful freshProject := .initial rfl
  have hresolve : freshProject.Peaceful (.call 0) :=
    ⟨rfl, fun _ hcall => nomatch DaemonCall.requested.inj (show requested .resolveServer = _ from hcall)⟩
  have h₁ := h₀.step hresolve (.readNone rfl rfl)
  have h₂ := hstep 0 h₁ rfl (.inl rfl) (by decide) (.acquireResolve rfl rfl)
  have h₃ := hstep 0 h₂ rfl (.inl rfl) (by decide) (.rereadNone rfl rfl)
  have h₄ := hstep 0 h₃ rfl (.inl rfl) (by decide) (.launch 200 "http://127.0.0.1:4001/mcp" "second" rfl)
  have h₅ := hstep 0 h₄ rfl (.inl rfl) (by decide) (.ready rfl rfl rfl)
  have h₆ := hstep 0 h₅ rfl (.inl rfl) (by decide) (.writeSpawned .none rfl rfl)
  have h₇ := hstep 0 h₆ rfl (.inl rfl) (by decide) (.release rfl)
  have h₈ := hstep 1 h₇ rfl (.inr rfl) (by decide) (.acquireUpdate rfl rfl)
  have h₉ := hstep 1 h₈ rfl (.inr rfl) (by decide) (.readUpdate rfl rfl)
  have h₁₀ := hstep 1 h₉ rfl (.inr rfl) (by decide) (.writeUpdate rfl)
  have h₁₁ := hstep 1 h₁₀ rfl (.inr rfl) (by decide) (.release rfl)
  have hone := one_daemon initial_freshProject nofun h₁₁
  obtain ⟨k, -, hfile⟩ := hone.server
  obtain ⟨d, v, hd, -, -, -, hlast⟩ := hfile rfl ⟨0, _, rfl⟩
  exact ⟨_, d, h₁₁, hone.spawned, hd, hlast _ rfl⟩

end DaemonSystem
end GdbMcp
