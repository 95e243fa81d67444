import GdbMcp.DaemonSteps

/-! What every invocation knows of the cookie it has read, and what the holder of the lock knows of the servers.
A server that is dead stays dead, and one that has been asked to exit stays so; both survive whatever the other
invocations do. -/

namespace GdbMcp

/-! ### The project over time -/

namespace Project

variable {p p' p'' : Project} {cookie : Cookie} {k : Nat} {v : Server}

/-- The servers of one project are those of the other, later. -/
def Evolves (p p' : Project) : Prop :=
  ∀ (k : Nat) (v : Server), p.servers[k]? = some v → ∃ v' : Server, p'.servers[k]? = some v' ∧ v'.url = v.url ∧ v'.token = v.token ∧
    (v.asked = true → v'.asked = true) ∧ (v.stage = .dead → v'.stage = .dead) ∧
    (v.stage ≠ .starting → v'.stage ≠ .starting)

/-- What happens to a project beside the holder of its lock: a cookie is removed, a server is asked to exit or
dies. -/
structure Unguarded (p p' : Project) : Prop where
  evolves : p.Evolves p'
  cookie : ∀ d, p'.cookie.read = some d → p.cookie.read = some d
  serving : ∀ (k : Nat) (v' : Server), p'.servers[k]? = some v' → v'.stage = .serving →
    ∃ v : Server, p.servers[k]? = some v ∧ v.stage = .serving ∧ (v.asked = true → v'.asked = true)

theorem Evolves.refl (p : Project) : p.Evolves p := fun _ v h => ⟨v, h, rfl, rfl, id, id, id⟩

theorem Unguarded.refl (p : Project) : p.Unguarded p :=
  ⟨.refl p, fun _ h => h, fun _ v h hstage => ⟨v, h, hstage, id⟩⟩

/-- The servers change one by one. -/
theorem unguarded_of_map {f : Nat → Server → Server}
    (hservers : ∀ k, p'.servers[k]? = (p.servers[k]?).map (f k)) (hcookie : p'.cookie = p.cookie)
    (hurl : ∀ (k : Nat) (v : Server), (f k v).url = v.url) (htoken : ∀ (k : Nat) (v : Server), (f k v).token = v.token)
    (hasked : ∀ (k : Nat) (v : Server), v.asked = true → (f k v).asked = true)
    (hstage : ∀ (k : Nat) (v : Server), (f k v).stage = v.stage ∨ (f k v).stage = .dead) : p.Unguarded p' := by
  constructor
  · intro k v hv
    refine ⟨f k v, by rw [hservers, hv]; rfl, hurl k v, htoken k v, hasked k v, fun hdead => ?_, fun hne => ?_⟩
    · rcases hstage k v with h | h
      · rw [h, hdead]
      · exact h
    · rcases hstage k v with h | h
      · rw [h]
        exact hne
      · rw [h]
        decide
  · intro d hd
    rw [← hcookie, hd]
  · intro k v' hv' hserving
    rw [hservers, Option.map_eq_some_iff] at hv'
    obtain ⟨v, hv, rfl⟩ := hv'
    rcases hstage k v with h | h
    · exact ⟨v, hv, h.symm.trans hserving, hasked k v⟩
    · exact nomatch h.symm.trans hserving

theorem getElem?_setStage (p : Project) (k j : Nat) (stage : ServerStage) :
    (p.setStage k stage).servers[j]? =
      (p.servers[j]?).map fun v => if k = j then { v with stage } else v := by
  rw [setStage, List.getElem?_modify]
  by_cases h : k = j
  · simp only [h, if_true]
    rfl
  · simp only [h, if_false]
    cases p.servers[j]? <;> rfl

theorem unguarded_die (p : Project) (k : Nat) : p.Unguarded (p.setStage k .dead) := by
  refine unguarded_of_map (p.getElem?_setStage k · .dead) rfl ?_ ?_ ?_ ?_ <;> intro j v <;> split <;> simp

theorem getElem?_askUrl (p : Project) (url : String) (token : Option String) (k : Nat) :
    (p.askUrl url token).servers[k]? = (p.servers[k]?).map fun v =>
      if v.stage = .serving ∧ v.url = url ∧ some v.token = token then { v with asked := true } else v :=
  List.getElem?_map

theorem unguarded_askUrl (p : Project) (url : String) (token : Option String) :
    p.Unguarded (p.askUrl url token) := by
  refine unguarded_of_map (p.getElem?_askUrl url token) rfl ?_ ?_ ?_ ?_ <;> intro j v <;> split <;> simp

theorem unguarded_askPid (p : Project) (pid : Int) : p.Unguarded (p.askPid pid) := by
  refine unguarded_of_map (fun k => List.getElem?_map) rfl ?_ ?_ ?_ ?_ <;> intro j v <;> split <;> simp

theorem unguarded_removeCookie (p : Project) : p.Unguarded p.removeCookie :=
  ⟨.refl p, nofun, fun _ v h hstage => ⟨v, h, hstage, id⟩⟩

/-- A server that is starting gets ready. -/
theorem evolves_ready {server : Server} (hserver : p.servers[k]? = some server)
    (hstage : server.stage = .starting) : p.Evolves (p.setStage k .serving) := by
  intro j v hv
  by_cases hj : k = j
  · subst hj
    obtain rfl : server = v := Option.some.inj (hserver.symm.trans hv)
    refine ⟨{ server with stage := .serving }, ?_, rfl, rfl, id, fun hdead => ?_, fun hne => absurd hstage hne⟩
    · rw [getElem?_setStage, hv, Option.map_some, if_pos rfl]
    · exact nomatch hstage.symm.trans hdead
  · refine ⟨v, ?_, rfl, rfl, id, id, id⟩
    rw [getElem?_setStage, hv, Option.map_some, if_neg hj]

theorem evolves_launch (p : Project) (server : Server) : p.Evolves (p.launch server) := by
  intro j v hv
  refine ⟨v, ?_, rfl, rfl, id, id, id⟩
  obtain ⟨hlt, -⟩ := List.getElem?_eq_some_iff.mp hv
  rw [launch, List.getElem?_append_left hlt, hv]

/-! ### Cookies and their servers -/

/-- The server that wrote the cookie is the one it names. -/
def Valid (p : Project) (cookie : Cookie) : Prop :=
  ∀ k, cookie.origin = some k → ∃ v : Server, p.servers[k]? = some v ∧ v.stage ≠ .starting ∧ cookie.url = some v.url ∧
    cookie.token = some v.token

/-- The server that wrote the cookie is dead. -/
def Stale (p : Project) (cookie : Cookie) : Prop :=
  ∀ k, cookie.origin = some k → ∃ v : Server, p.servers[k]? = some v ∧ v.stage = .dead

/-- The server that wrote the cookie is dead, or has been asked to exit. -/
def Settled (p : Project) (cookie : Cookie) : Prop :=
  ∀ k, cookie.origin = some k → ∃ v : Server, p.servers[k]? = some v ∧ (v.stage = .dead ∨ v.asked = true)

/-- The file holds no cookie of another server than the one given. -/
def Holds (p : Project) (origin : Option Nat) : Prop := ∀ d, p.cookie.read = some d → d.origin = origin

/-- All serving servers but one have been asked to exit. -/
def Quiet (p : Project) (but : Option Nat) : Prop :=
  ∀ (k : Nat) (v : Server), p.servers[k]? = some v → some k ≠ but → v.stage = .serving → v.asked = true

theorem Valid.mono (h : p.Valid cookie) (hle : p.Evolves p') : p'.Valid cookie := by
  intro k hk
  obtain ⟨v, hv, hstage, hurl, htoken⟩ := h k hk
  obtain ⟨v', hv', hurl', htoken', -, -, hstage'⟩ := hle k v hv
  exact ⟨v', hv', hstage' hstage, by rw [hurl', hurl], by rw [htoken', htoken]⟩

theorem Stale.mono (h : p.Stale cookie) (hle : p.Evolves p') : p'.Stale cookie := by
  intro k hk
  obtain ⟨v, hv, hdead⟩ := h k hk
  obtain ⟨v', hv', -, -, -, hdead', -⟩ := hle k v hv
  exact ⟨v', hv', hdead' hdead⟩

theorem Stale.settled (h : p.Stale cookie) : p.Settled cookie := by
  intro k hk
  obtain ⟨v, hv, hdead⟩ := h k hk
  exact ⟨v, hv, .inl hdead⟩

theorem Settled.mono (h : p.Settled cookie) (hle : p.Evolves p') : p'.Settled cookie := by
  intro k hk
  obtain ⟨v, hv, hsettled⟩ := h k hk
  obtain ⟨v', hv', -, -, hasked', hdead', -⟩ := hle k v hv
  exact ⟨v', hv', hsettled.imp hdead' hasked'⟩

theorem Holds.mono {origin : Option Nat} (h : p.Holds origin) (hle : p.Unguarded p') : p'.Holds origin :=
  fun d hd => h d (hle.cookie d hd)

theorem Quiet.mono {but : Option Nat} (h : p.Quiet but) (hle : p.Unguarded p') : p'.Quiet but := by
  intro k v' hv' hk hserving
  obtain ⟨v, hv, hstage, hasked⟩ := hle.serving k v' hv' hserving
  exact hasked (h k v hv hk hstage)

theorem reachable_of_serving (hv : p.servers[k]? = some v) (hserving : v.stage = .serving) :
    p.reachable v.url (some v.token) = true := by
  rw [reachable, List.any_eq_true]
  exact ⟨v, List.mem_of_getElem? hv, by simp [hserving]⟩

/-- A failed probe of a valid cookie says that its server is dead. -/
theorem Valid.stale (h : p.Valid cookie) (hnone : p.resolvedFromCookie cookie = none) : p.Stale cookie := by
  intro k hk
  obtain ⟨v, hv, hstage, hurl, htoken⟩ := h k hk
  refine ⟨v, hv, ?_⟩
  cases hv' : v.stage with
  | starting => exact absurd hv' hstage
  | dead => rfl
  | serving =>
      have hreachable := reachable_of_serving hv hv'
      rw [resolvedFromCookie, hurl, htoken] at hnone
      simp [hreachable] at hnone

/-- A probe that succeeds has reached a serving server. -/
theorem resolvedFromCookie_eq_some {server : ResolvedServer} (h : p.resolvedFromCookie cookie = some server) :
    ∃ (k : Nat) (v : Server), p.servers[k]? = some v ∧ v.stage = .serving ∧ server.url = v.url ∧ server.token = some v.token := by
  rw [resolvedFromCookie] at h
  split at h
  · split at h
    · rename_i url hurl hreachable
      obtain rfl := Option.some.inj h
      rw [reachable, List.any_eq_true] at hreachable
      obtain ⟨v, hv, hmatch⟩ := hreachable
      obtain ⟨k, hk⟩ := List.getElem?_of_mem hv
      simp only [Bool.and_eq_true, beq_iff_eq] at hmatch
      exact ⟨k, v, hk, hmatch.1.1, hmatch.1.2.symm, hmatch.2.symm⟩
    · exact nomatch h
  · exact nomatch h

/-- A shutdown request settles the server of a valid cookie. -/
theorem Valid.settled {url : String} (h : p.Valid cookie) (hurl : cookie.url = some url) :
    (p.askUrl url cookie.token).Settled cookie := by
  intro k hk
  obtain ⟨v, hv, hstage, hurl', htoken⟩ := h k hk
  refine ⟨_, by rw [getElem?_askUrl, hv]; rfl, ?_⟩
  have hurl : v.url = url := Option.some.inj (hurl'.symm.trans hurl)
  cases hv' : v.stage with
  | starting => exact absurd hv' hstage
  | dead => simp [hv']
  | serving => simp [hv', hurl, htoken]

theorem getElem?_launch {server : Server} (k : Nat) : (p.launch server).servers[k]? =
    if k = p.servers.length then some server else p.servers[k]? := by
  rw [launch]
  rcases Nat.lt_trichotomy k p.servers.length with hlt | rfl | hgt
  · rw [if_neg (Nat.ne_of_lt hlt), List.getElem?_append_left hlt]
  · rw [if_pos rfl, List.getElem?_concat_length]
  · rw [if_neg (Nat.ne_of_gt hgt), List.getElem?_eq_none (Nat.le_of_lt hgt), List.getElem?_eq_none]
    rw [List.length_append, List.length_singleton]
    omega

end Project

/-! ### Updates of the remembered session -/

theorem lookup_map_setField (fields : List (String × Value)) (key key' : String) (value : Value) :
    (fields.map fun field => if field.1 == key then (key, value) else field).lookup key' =
      if key' = key then if fields.any (·.1 == key) then some value else none else fields.lookup key' := by
  induction fields with
  | nil => simp
  | cons field rest ih =>
      obtain ⟨name, old⟩ := field
      rw [List.map_cons, List.lookup_cons, List.lookup_cons, ih, List.any_cons]
      by_cases hname : name = key
      · subst hname
        by_cases hkey : key' = name
        · simp [hkey]
        · simp [hkey, beq_eq_false_iff_ne.mpr hkey]
      · by_cases hkey : key' = key
        · subst hkey
          have hne : (name == key') = false := beq_eq_false_iff_ne.mpr hname
          have hne' : (key' == name) = false := beq_eq_false_iff_ne.mpr (Ne.symm hname)
          simp only [hne, hne', Bool.false_eq_true, if_false, if_true, Bool.false_or]
        · simp [hname, hkey]

theorem lookup_setField (fields : List (String × Value)) (key key' : String) (value : Value) :
    (setField fields key value).lookup key' = if key' = key then some value else fields.lookup key' := by
  rw [setField]
  cases hany : fields.any (·.1 == key) with
  | true =>
      rw [if_pos rfl, lookup_map_setField, hany]
      rfl
  | false =>
      rw [if_neg (by decide), List.lookup_append]
      by_cases hkey : key' = key
      · subst hkey
        have hnone : fields.lookup key' = none := by
          rw [List.lookup_eq_none_iff]
          intro field hfield
          have hne := List.any_eq_false.mp hany field hfield
          rw [beq_iff_eq] at hne
          exact bne_iff_ne.mpr fun h => hne h.symm
        simp [hnone]
      · have hother : List.lookup key' [(key, value)] = none := by
          rw [List.lookup_cons, beq_eq_false_iff_ne.mpr hkey]
          rfl
        rw [if_neg hkey, hother, Option.or_none]

theorem lookup_popField (fields : List (String × Value)) (key key' : String) :
    (popField fields key).lookup key' = if key' = key then none else fields.lookup key' := by
  induction fields with
  | nil => simp [popField]
  | cons field rest ih =>
      rw [popField] at ih ⊢
      obtain ⟨name, value⟩ := field
      by_cases hname : name = key
      · subst hname
        rw [List.filter_cons_of_neg (by simp), ih]
        by_cases hkey : key' = name
        · rw [if_pos hkey, if_pos hkey]
        · rw [if_neg hkey, if_neg hkey, List.lookup_cons, beq_eq_false_iff_ne.mpr hkey]
      · rw [List.filter_cons_of_pos (by simpa using hname), List.lookup_cons, List.lookup_cons, ih]
        by_cases hkey : key' = name
        · subst hkey
          simp [hname]
        · simp [beq_eq_false_iff_ne.mpr hkey]

/-- An update keeps the server of the cookie. -/
theorem SessionUpdate.apply_eq_some {update : SessionUpdate} {old : Option Cookie} {new : Cookie}
    (h : update.apply old = some new) :
    (∀ d, old = some d → new.origin = d.origin ∧ new.url = d.url ∧ new.token = d.token) ∧
      (old = none → new.origin = none) := by
  have hkept : ∀ {d : Cookie} {fields : List (String × Value)} {key : String},
      (∀ key', key' ≠ key → fields.lookup key' = d.fields.lookup key') → key = "last_session_id" →
        ({ d with fields } : Cookie).url = d.url ∧ ({ d with fields } : Cookie).token = d.token := by
    rintro d fields key hlookup rfl
    have hurl := hlookup "url" (by decide)
    have htoken := hlookup "token" (by decide)
    constructor
    · rw [Cookie.url, Cookie.url, Cookie.get, Cookie.get, Value.get, Value.get, hurl]
    · rw [Cookie.token, Cookie.token, Cookie.get, Cookie.get, Value.get, Value.get, htoken]
  cases update with
  | remember sessionId =>
      obtain rfl := Option.some.inj h
      constructor
      · rintro d rfl
        exact ⟨rfl, hkept (fun key' hne => by rw [Option.getD_some, lookup_setField, if_neg hne]) rfl⟩
      · rintro rfl
        rfl
  | forget =>
      rw [SessionUpdate.apply, Option.map_eq_some_iff] at h
      obtain ⟨d, hd, rfl⟩ := h
      rw [Option.filter_eq_some_iff] at hd
      constructor
      · rintro d' rfl
        obtain rfl := Option.some.inj hd.1
        exact ⟨rfl, hkept (fun key' hne => by rw [lookup_popField, if_neg hne]) rfl⟩
      · rintro rfl
        exact nomatch hd.1

/-! ### Invocations -/

namespace DaemonCall

/-- What an invocation knows of the project. -/
def Knows (p : Project) : DaemonCall → Prop
  | probing cookie | statusProbing cookie => p.Valid cookie
  | probingLocked cookie | updateWriting cookie => p.Valid cookie ∧ p.Holds cookie.origin
  | discarding cookie => p.Stale cookie ∧ p.Holds cookie.origin
  | spawning => p.Quiet none
  | launched k => p.Quiet (some k)
  | writing k => p.Quiet (some k) ∧ ∃ v, p.servers[k]? = some v ∧ v.stage ≠ .starting
  | statusRemoving cookie => p.Stale cookie
  | posting cookie url => p.Valid cookie ∧ cookie.url = some url
  | awaitingExit cookie _ | signalled cookie _ | stopRemoving cookie _ => p.Settled cookie
  | invalidRemoving cookie => cookie.origin = none
  | _ => True

/-- Beside the lock, what an invocation knows stays true. -/
theorem Knows.unguarded {p p' : Project} {call : DaemonCall} (h : call.Knows p) (hle : p.Unguarded p') :
    call.Knows p' := by
  cases call with
  | probing | statusProbing => exact Project.Valid.mono h hle.evolves
  | probingLocked | updateWriting => exact ⟨h.1.mono hle.evolves, h.2.mono hle⟩
  | discarding => exact ⟨h.1.mono hle.evolves, h.2.mono hle⟩
  | spawning | launched => exact Project.Quiet.mono h hle
  | writing k =>
      obtain ⟨hquiet, v, hv, hstage⟩ := h
      obtain ⟨v', hv', -, -, -, -, hstage'⟩ := hle.evolves k v hv
      exact ⟨hquiet.mono hle, v', hv', hstage' hstage⟩
  | statusRemoving => exact Project.Stale.mono h hle.evolves
  | posting => exact ⟨h.1.mono hle.evolves, h.2⟩
  | awaitingExit | signalled | stopRemoving => exact Project.Settled.mono h hle.evolves
  | invalidRemoving => exact h
  | _ => trivial

/-- Without the lock, what an invocation knows stays true whatever happens. -/
theorem Knows.evolves {p p' : Project} {call : DaemonCall} (h : call.Knows p) (hlock : call.holdsLock = false)
    (hle : p.Evolves p') : call.Knows p' := by
  cases call with
  | probing | statusProbing => exact Project.Valid.mono h hle
  | statusRemoving => exact Project.Stale.mono h hle
  | posting => exact ⟨h.1.mono hle, h.2⟩
  | awaitingExit | signalled | stopRemoving => exact Project.Settled.mono h hle
  | invalidRemoving => exact h
  | probingLocked | updateWriting | discarding | spawning | launched | writing => exact nomatch hlock
  | _ => trivial

end DaemonCall

namespace DaemonSystem

open DaemonCall

variable {s s' : DaemonSystem} {e : DaemonEvent} {c c' : Nat} {call : DaemonCall} {p : Project}

/-- The file names the server, or an invocation is about to write its cookie. -/
def Remembered (p : Project) (call : DaemonCall) (k : Nat) : Prop :=
  call = writing k ∨ ∃ d, p.cookie.read = some d ∧ d.origin = some k

/-- The lock has one holder, the cookies say what has been the case, and every serving server that has not
been asked to exit is remembered. -/
structure Coherent (s : DaemonSystem) : Prop where
  lock : ∀ c, (s.calls c).holdsLock = true → s.holder = some c
  file : ∀ d, s.project.cookie.read = some d → s.project.Valid d
  knows : ∀ c, (s.calls c).Knows s.project
  remembered : ∀ (k : Nat) (v : Server), s.project.servers[k]? = some v → v.stage = .serving → v.asked = false →
    ∃ c, Remembered s.project (s.calls c) k

@[simp] theorem calls_goto (s : DaemonSystem) (c c' : Nat) (call : DaemonCall) :
    (s.goto c call).calls c' = if c = c' then call else s.calls c' := by
  change Function.update s.calls c call c' = _
  rw [Function.update_apply]
  exact if_congr eq_comm rfl rfl

@[simp] theorem calls_gotoWith (s : DaemonSystem) (p : Project) (c c' : Nat) (call : DaemonCall) :
    (s.gotoWith p c call).calls c' = if c = c' then call else s.calls c' := calls_goto s c c' call

@[simp] theorem calls_acquire (s : DaemonSystem) (c c' : Nat) (call : DaemonCall) :
    (s.acquire c call).calls c' = if c = c' then call else s.calls c' := calls_goto s c c' call

@[simp] theorem calls_release (s : DaemonSystem) (c c' : Nat) (reply : DaemonReply) :
    (s.release c reply).calls c' = if c = c' then returned reply else s.calls c' := calls_goto s c c' _

theorem Coherent.holder_unique (hs : Coherent s) (hc : (s.calls c).holdsLock = true)
    (hc' : (s.calls c').holdsLock = true) : c = c' :=
  Option.some.inj ((hs.lock c hc).symm.trans (hs.lock c' hc'))

/-- Where the lock is not held for a spawn, every serving server that has not been asked to exit is named by
the file. -/
theorem Coherent.named (hs : Coherent s) (hwriting : ∀ c k, s.calls c ≠ writing k) {k : Nat} {v : Server}
    (hv : s.project.servers[k]? = some v) (hserving : v.stage = .serving) (hasked : v.asked = false) :
    ∃ d, s.project.cookie.read = some d ∧ d.origin = some k := by
  obtain ⟨c, hwrite | hnamed⟩ := hs.remembered k v hv hserving hasked
  · exact absurd hwrite (hwriting c k)
  · exact hnamed

/-- An invocation without the lock takes a step: nothing but what may happen beside the lock happens. -/
theorem Coherent.unguarded (hs : Coherent s) (hle : s.project.Unguarded p) (hlock : (s.calls c).holdsLock = false)
    (hcall : call.holdsLock = false) (hknows : call.Knows p)
    (hkept : ∀ d (k : Nat) (v : Server), s.project.cookie.read = some d → d.origin = some k →
      p.servers[k]? = some v → v.stage = .serving → v.asked = false → p.cookie.read = some d) :
    Coherent (s.gotoWith p c call) := by
  have hother : ∀ c', c ≠ c' → (s.gotoWith p c call).calls c' = s.calls c' := fun c' hne => by
    rw [calls_gotoWith, if_neg hne]
  constructor
  · intro c' hc'
    by_cases h : c = c'
    · rw [calls_gotoWith, if_pos h, hcall] at hc'
      exact nomatch hc'
    · rw [hother c' h] at hc'
      exact hs.lock c' hc'
  · exact fun d hd => (hs.file d (hle.cookie d hd)).mono hle.evolves
  · intro c'
    by_cases h : c = c'
    · rw [calls_gotoWith, if_pos h]
      exact hknows
    · rw [hother c' h]
      exact (hs.knows c').unguarded hle
  · intro k v' hv' hserving hasked
    obtain ⟨v, hv, hstage, hmono⟩ := hle.serving k v' hv' hserving
    have hunasked : v.asked = false := by
      by_contra h
      rw [Bool.not_eq_false] at h
      exact nomatch hasked.symm.trans (hmono h)
    obtain ⟨c', hwrite | ⟨d, hd, horigin⟩⟩ := hs.remembered k v hv hstage hunasked
    · have hne : c ≠ c' := by
        rintro rfl
        rw [hwrite] at hlock
        exact nomatch hlock
      exact ⟨c', .inl (by rw [hother c' hne, hwrite])⟩
    · exact ⟨c', .inr ⟨d, hkept d k v' hd horigin hv' hserving hasked, horigin⟩⟩

/-- The holder of the lock takes a step, and keeps the lock. -/
theorem Coherent.guarded (hs : Coherent s) (hle : s.project.Evolves p) (hlock : (s.calls c).holdsLock = true)
    (hfile : ∀ d, p.cookie.read = some d → p.Valid d) (hknows : call.Knows p)
    (hremembered : ∀ (k : Nat) (v : Server), p.servers[k]? = some v → v.stage = .serving → v.asked = false →
      Remembered p call k) : Coherent (s.gotoWith p c call) := by
  have hother : ∀ c', c ≠ c' → (s.gotoWith p c call).calls c' = s.calls c' := fun c' hne => by
    rw [calls_gotoWith, if_neg hne]
  constructor
  · intro c' hc'
    by_cases h : c = c'
    · subst h
      exact hs.lock c hlock
    · rw [hother c' h] at hc'
      exact hs.lock c' hc'
  · exact hfile
  · intro c'
    by_cases h : c = c'
    · rw [calls_gotoWith, if_pos h]
      exact hknows
    · rw [hother c' h]
      refine (hs.knows c').evolves ?_ hle
      by_contra hholds
      rw [Bool.not_eq_false] at hholds
      exact h (hs.holder_unique hlock hholds)
  · intro k v hv hserving hasked
    exact ⟨c, by rw [calls_gotoWith, if_pos rfl]; exact hremembered k v hv hserving hasked⟩

end DaemonSystem
end GdbMcp
