import GdbMcp.BaseTransition
import GdbMcp.ClientInvocation
import GdbMcp.DaemonShared

/-! The default session of a project over the invocations of its client. It is a session that the server of the cookie
has acknowledged, and no session that another server has acknowledged is ever put into a request. -/

namespace GdbMcp

open Eff

/-! ### What a history says of a session -/

namespace ToolCall

variable (call : ToolCall)

def endpoint : String × Option String := (call.server.url, call.server.token)

/-- The response says that a session has been created. -/
def Starts (n : Int) : Prop :=
  (call.tool = "gdb_session_start" ∨ call.tool = "gdb_session_connect") ∧
    ∃ response, call.outcome = .ok response ∧ response.isError = false ∧ sessionIdFromPayload response.payload = .ok (some n)

/-- The response gives the status of a session. -/
def Confirms (n : Int) : Prop :=
  call.tool = "gdb_session_query" ∧ call.arguments = [("action", .str "status"), ("session_id", .int n)] ∧
    ∃ response, call.outcome = .ok response ∧ response.isError = false

/-- The response says that the session has been stopped. -/
def Stops (n : Int) : Prop :=
  call.tool = "gdb_session_manage" ∧ call.session = some n ∧
    ∃ response envelope, call.outcome = .ok response ∧ response.isError = false ∧
      ToolEnvelope.fromPayload response.payload = .ok envelope ∧ envelope.action = some "stop"

end ToolCall

/-- The default session is then another one, or none, if it was this one. -/
def ClientEvent.Ends (n : Int) : ClientEvent → Prop
  | spawned => True
  | called call => call.server.managed = true ∧ ((∃ m, call.Starts m) ∨ call.Stops n)

/-- The server at the endpoint has acknowledged the session, and nothing has ended it as the default session since. -/
def Known (log : List ClientEvent) (endpoint : String × Option String) (n : Int) : Prop :=
  ∃ before call behind, log = before ++ .called call :: behind ∧ call.endpoint = endpoint ∧
    (call.Starts n ∨ call.Confirms n) ∧ ∀ e ∈ behind, ¬e.Ends n

/-- A session that is not from the command line is known at the endpoint to which it is sent. -/
def FilledIn (log : List ClientEvent) : Prop :=
  ∀ before call behind n, log = before ++ .called call :: behind → call.given = none → call.session = some n →
    Known before call.endpoint n

section History

variable {log : List ClientEvent} {endpoint : String × Option String} {n : Int} {e : ClientEvent} {call : ToolCall}

theorem Known.snoc (h : Known log endpoint n) (he : ¬e.Ends n) : Known (log ++ [e]) endpoint n := by
  obtain ⟨before, call, behind, rfl, hendpoint, hknown, hbehind⟩ := h
  refine ⟨before, call, behind ++ [e], by simp, hendpoint, hknown, fun e' he' => ?_⟩
  rcases List.mem_append.mp he' with he' | he'
  · exact hbehind e' he'
  · rwa [List.mem_singleton.mp he']

theorem Known.last (h : call.Starts n ∨ call.Confirms n) : Known (log ++ [.called call]) call.endpoint n :=
  ⟨log, call, [], rfl, rfl, h, fun _ he => absurd he List.not_mem_nil⟩

theorem FilledIn.snoc (h : FilledIn log)
    (he : ∀ call n, e = .called call → call.given = none → call.session = some n → Known log call.endpoint n) :
    FilledIn (log ++ [e]) := by
  intro before call behind n hsplit hgiven hsession
  rcases List.eq_nil_or_concat behind with rfl | ⟨behind, last, rfl⟩
  · obtain ⟨rfl, hlast⟩ := List.append_inj' hsplit rfl
    exact he call n (List.head_eq_of_cons_eq hlast) hgiven hsession
  · rw [List.concat_eq_append, ← List.cons_append, ← List.append_assoc] at hsplit
    exact h before call behind n (List.append_inj' hsplit rfl).1 hgiven hsession

theorem not_ends_of_tool (htool : call.tool = "gdb_session_query") : ¬(ClientEvent.called call).Ends n := by
  rintro ⟨-, ⟨m, hstart | hconnect, -⟩ | ⟨hmanage, -⟩⟩
  · exact absurd (htool.symm.trans hstart) (by decide)
  · exact absurd (htool.symm.trans hconnect) (by decide)
  · exact absurd (htool.symm.trans hmanage) (by decide)

theorem not_ends_of_error {e : PyError} (houtcome : call.outcome = .error e) : ¬(ClientEvent.called call).Ends n := by
  rintro ⟨-, ⟨m, -, response, hresponse, -⟩ | ⟨-, -, response, envelope, hresponse, -⟩⟩
  · cases houtcome.symm.trans hresponse
  · cases houtcome.symm.trans hresponse

theorem ClientEvent.Ends.of_response {response : ClientToolResponse} (houtcome : call.outcome = .ok response)
    (h : (ClientEvent.called call).Ends n) :
    call.server.managed = true ∧ response.isError = false ∧
      ((call.tool = "gdb_session_start" ∨ call.tool = "gdb_session_connect") ∧
          (∃ m, sessionIdFromPayload response.payload = .ok (some m)) ∨
        call.tool = "gdb_session_manage" ∧ call.session = some n ∧
          ∃ envelope, ToolEnvelope.fromPayload response.payload = .ok envelope ∧ envelope.action = some "stop") := by
  obtain ⟨hmanaged, ⟨m, htool, response', hresponse, hsuccess, hm⟩ |
    ⟨htool, hsession, response', envelope, hresponse, hsuccess, henvelope⟩⟩ := h
  · obtain rfl := Except.ok.inj (houtcome.symm.trans hresponse)
    exact ⟨hmanaged, hsuccess, .inl ⟨htool, m, hm⟩⟩
  · obtain rfl := Except.ok.inj (houtcome.symm.trans hresponse)
    exact ⟨hmanaged, hsuccess, .inr ⟨htool, hsession, envelope, henvelope⟩⟩

end History

/-! ### The project -/

/-- The default session that an update leaves. -/
def SessionUpdate.session : SessionUpdate → Option Int
  | remember n => some n
  | forget => none

namespace Client

variable {W : Type} {c c' : ClientState W}

/-- The cookie is that of the endpoint. -/
def Holds (c : ClientState W) (url : String) (token : Option String) : Prop :=
  ∃ cookie, c.file.read = some cookie ∧ cookie.url = some url ∧ cookie.token = token

/-- The default session is known at the endpoint of the cookie. -/
def Remembers (c : ClientState W) : Prop :=
  ∀ cookie n, c.file.read = some cookie → cookie.session = some n →
    ∃ url, cookie.url = some url ∧ Known c.log (url, cookie.token) n

structure Sound (c : ClientState W) : Prop where
  filled : FilledIn c.log
  default : Remembers c

/-- The client has found its server. -/
structure Served (resolved : ResolvedServer) (c : ClientState W) : Prop where
  sound : Sound c
  holds : resolved.managed = true → Holds c resolved.url resolved.token

theorem Remembers.known (h : Remembers c) {url : String} {token : Option String} (hholds : Holds c url token) {n : Int}
    (hn : c.file.read.bind Cookie.session = some n) : Known c.log (url, token) n := by
  obtain ⟨cookie, hread, hurl, rfl⟩ := hholds
  rw [hread] at hn
  obtain ⟨url', hurl', hknown⟩ := h cookie n hread hn
  rwa [Option.some.inj (hurl.symm.trans hurl')]

theorem Remembers.of_read_none (h : c.file.read = none) : Remembers c := by
  intro cookie n hread
  rw [h] at hread
  cases hread

/-! ### The default session -/

theorem session_of_lastSession {cookie : Cookie} {update : SessionUpdate} (h : cookie.lastSession = update.value) :
    cookie.session = update.session := by
  have hget : cookie.get "last_session_id" = update.value.getD .none := by
    rw [← h]
    rfl
  rw [Cookie.session, hget]
  cases update <;> rfl

/-- Behind an update the project has its server still, and the session of the update. -/
theorem updateSession_spec (update : SessionUpdate) (c : ClientState W) :
    wp (updateSession update)
      (fun _ c' => c'.log = c.log ∧ (∀ url token, Holds c url token → Holds c' url token) ∧
        ∀ cookie, c'.file.read = some cookie → cookie.lastSession = update.value)
      (fun _ _ => False) c := by
  rw [updateSession, wp_modify]
  cases happly : update.apply c.file.read with
  | some new =>
      refine ⟨rfl, ?_, ?_⟩
      · rintro url token ⟨cookie, hread, hurl, htoken⟩
        obtain ⟨-, hurl', htoken'⟩ := (SessionUpdate.apply_eq_some happly).1 cookie hread
        exact ⟨new, rfl, hurl'.trans hurl, htoken'.trans htoken⟩
      · intro cookie hread
        rw [← Option.some.inj hread]
        exact SessionUpdate.lastSession_apply happly
  | none =>
      refine ⟨rfl, fun _ _ h => h, fun cookie hread => ?_⟩
      rw [hread] at happly
      exact SessionUpdate.lastSession_of_apply_eq_none happly

/-- A session is remembered once the server has acknowledged it. -/
theorem rememberSessionId_served {resolved : ResolvedServer} {n : Int} (hfilled : FilledIn c.log)
    (hholds : Holds c resolved.url resolved.token) (hknown : Known c.log (resolved.url, resolved.token) n) :
    wp (rememberSessionId n) (fun _ c' => c'.log = c.log ∧ Served resolved c') (fun _ _ => False) c := by
  refine wp_mono (updateSession_spec (.remember n) c) (fun _ c' hc' => ?_) fun _ _ h => h
  obtain ⟨hlog, hkept, hsession⟩ := hc'
  refine ⟨hlog, ⟨by rwa [hlog], fun cookie m hread hm => ?_⟩, fun _ => hkept _ _ hholds⟩
  obtain ⟨cookie', hread', hurl, htoken⟩ := hkept _ _ hholds
  obtain rfl : cookie' = cookie := Option.some.inj (hread'.symm.trans hread)
  rw [session_of_lastSession (hsession cookie' hread)] at hm
  obtain rfl : n = m := Option.some.inj hm
  exact ⟨resolved.url, hurl, by rwa [hlog, htoken]⟩

theorem forgetSessionId_sound (hfilled : FilledIn c.log) :
    wp forgetSessionId (fun _ c' => Sound c') (fun _ _ => False) c := by
  refine wp_mono (updateSession_spec .forget c) (fun _ c' hc' => ?_) fun _ _ h => h
  obtain ⟨hlog, -, hsession⟩ := hc'
  refine ⟨by rwa [hlog], fun cookie m hread hm => ?_⟩
  rw [session_of_lastSession (hsession cookie hread)] at hm
  cases hm

/-! ### Requests -/

section Calls

variable {server resolved : ResolvedServer} {tool : String} {arguments : Payload} {given session : Option Int}
  {outcome : Except PyError ClientToolResponse}

/-- A request has been made, and has had this outcome. -/
structure Called (server : ResolvedServer) (tool : String) (arguments : Payload) (given session : Option Int)
    (outcome : Except PyError ClientToolResponse) (c c' : ClientState W) : Prop where
  log : c'.log = c.log ++ [.called { server, tool, arguments, given, session, outcome }]
  file : c'.file = c.file

theorem invokeTool_spec [ClientHost W] (server : ResolvedServer) (tool : String) (arguments : Payload)
    (given session : Option Int) (c : ClientState W) :
    wp (invokeTool server tool arguments given session)
      (fun response c' => Called server tool arguments given session (.ok response) c c')
      (fun _ c' => ∃ e, Called server tool arguments given session (.error e) c c') c := by
  rw [wp, invokeTool]
  dsimp only
  rcases ClientHost.invokeTool server.url server.token tool arguments c.world with ⟨e | response, world⟩
  · exact ⟨e, ⟨rfl, rfl⟩⟩
  · exact ⟨rfl, rfl⟩

theorem Called.filled (h : Called server tool arguments given session outcome c c') (hc : FilledIn c.log)
    (hknown : given = none → ∀ n, session = some n → Known c.log (server.url, server.token) n) : FilledIn c'.log := by
  rw [h.log]
  refine hc.snoc fun call n hcall hgiven hsession => ?_
  obtain rfl := ClientEvent.called.inj hcall
  exact hknown hgiven n hsession

/-- A request that ends no session as the default one. -/
theorem Called.remembers (h : Called server tool arguments given session outcome c c') (hc : Remembers c)
    (hends : ∀ n, c.file.read.bind Cookie.session = some n →
      ¬(ClientEvent.called { server, tool, arguments, given, session, outcome }).Ends n) : Remembers c' := by
  intro cookie n hread hn
  rw [h.file] at hread
  obtain ⟨url, hurl, hknown⟩ := hc cookie n hread hn
  refine ⟨url, hurl, ?_⟩
  rw [h.log]
  exact hknown.snoc (hends n (by rw [hread]; exact hn))

theorem Called.holds (h : Called server tool arguments given session outcome c c') {url : String} {token : Option String}
    (hc : Holds c url token) : Holds c' url token := by
  obtain ⟨cookie, hread, hcookie⟩ := hc
  exact ⟨cookie, by rw [h.file, hread], hcookie⟩

theorem Called.query_sound (h : Called server "gdb_session_query" arguments given session outcome c c') (hc : Sound c)
    (hknown : given = none → ∀ n, session = some n → Known c.log (server.url, server.token) n) : Sound c' :=
  ⟨h.filled hc.filled hknown, h.remembers hc.default fun _ _ => not_ends_of_tool rfl⟩

/-! ### The session of a payload -/

/-- The session in the place of the one on the command line is known. -/
def KnownSession (c : ClientState W) (resolved : ResolvedServer) (given session : Option Int) : Prop :=
  given = none → ∀ n, session = some n → Known c.log (resolved.url, resolved.token) n

theorem wp_narrow {α : Type} (x : Except PyError α) {Q : α → ClientState W → Prop} {R : ClientError → ClientState W → Prop} :
    wp (narrow x) Q R c ↔ (∀ a, x = .ok a → Q a c) ∧ ∀ e, x = .error e → R (.raised e) c := by
  cases x <;> simp [narrow, wp_ofExcept, Except.mapError]

theorem recordedFor_known (hc : Served resolved c) :
    wp (recordedFor resolved)
      (fun remembered c' => c' = c ∧ ∀ n, remembered = some n → Known c.log (resolved.url, resolved.token) n)
      (fun _ _ => False) c := by
  rw [recordedFor]
  split
  · rename_i hmanaged
    exact ⟨rfl, fun n hn => hc.sound.default.known (hc.holds hmanaged) hn⟩
  · exact ⟨rfl, fun _ hn => by cases hn⟩

/-- A session that has been created is known. -/
theorem Called.known {response : ClientToolResponse} {n : Int}
    (h : Called resolved tool arguments given session (.ok response) c c')
    (htool : tool = "gdb_session_start" ∨ tool = "gdb_session_connect") (hsuccess : response.isError = false)
    (hn : sessionIdFromPayload response.payload = .ok (some n)) : Known c'.log (resolved.url, resolved.token) n := by
  rw [h.log]
  exact .last (.inl ⟨htool, response, rfl, hsuccess, hn⟩)

/-- It is recorded for the server that has created it. -/
theorem recordFor_served {response : ClientToolResponse} {n : Int} (hc : Served resolved c)
    (hcalled : Called resolved tool arguments given session (.ok response) c c')
    (hfilled : FilledIn c'.log) (hknown : Known c'.log (resolved.url, resolved.token) n) :
    wp (recordFor resolved n) (fun _ c'' => c''.log = c'.log ∧ Served resolved c'') (fun _ _ => False) c' := by
  rw [recordFor]
  split
  · rename_i hmanaged
    exact rememberSessionId_served hfilled (hcalled.holds (hc.holds hmanaged)) hknown
  · rename_i hmanaged
    exact ⟨rfl, ⟨hfilled, hcalled.remembers hc.sound.default fun _ _ h => hmanaged h.1⟩, fun h => absurd h hmanaged⟩

/-- The session in a payload that has been built is known. -/
theorem buildPayload_known (spec : RegisteredToolCliSpec) (args : Namespace) (hc : Served resolved c)
    (hknown : KnownSession c resolved given args.sessionId) :
    wp (buildPayload spec args resolved)
      (fun built c' => Served resolved c' ∧ KnownSession c' resolved given built.2) (fun _ c' => Sound c') c := by
  rw [buildPayload]
  split
  · exact ⟨hc, hknown⟩
  · exact hc.sound
  · rename_i issues text _
    cases hunfilled : (!resolved.managed || !sessionIdError issues) with
    | true => exact hc.sound
    | false =>
        change wp (rememberedSessionId >>= _) _ _ c
        rw [wp_bind, rememberedSessionId, wp_gets]
        cases hsession : c.file.read.bind Cookie.session with
        | none => exact hc.sound
        | some n =>
            have hmanaged : resolved.managed = true := by
              rw [Bool.or_eq_false_iff, Bool.not_eq_false'] at hunfilled
              exact hunfilled.1
            dsimp only
            split
            · refine ⟨hc, fun _ m hm => ?_⟩
              rw [← Option.some.inj hm]
              exact hc.sound.default.known (hc.holds hmanaged) hsession
            · exact hc.sound

theorem sessionId_foldlM {α : Type} {f : Namespace → α → Except String Namespace}
    (hf : ∀ {args args' : Namespace} {a}, f args a = .ok args' → args'.sessionId = args.sessionId) {items : List α}
    {args args' : Namespace} (h : items.foldlM f args = .ok args') : args'.sessionId = args.sessionId := by
  induction items generalizing args with
  | nil => rw [Except.ok.inj h]
  | cons a rest ih =>
      rw [List.foldlM_cons] at h
      obtain ⟨args₁, hone, hrest⟩ := ok_of_except_bind h
      rw [ih hrest, hf hone]

/-- A facade command puts in no session. -/
theorem sessionId_applyFacadeMetadata {args args' : Namespace} {command : FacadeCommand}
    (h : applyFacadeMetadata args command = .ok args') : args'.sessionId = args.sessionId := by
  have hmerge : ∀ {args args' : Namespace} {positional : String × String},
      mergeFacadePositional args positional.1 positional.2 = .ok args' → args'.sessionId = args.sessionId := by
    intro args args' positional h
    rw [mergeFacadePositional] at h
    split at h
    · split at h
      · rw [Except.ok.inj h]
      · rw [← Except.ok.inj h]
        rfl
      · cases h
    · cases h
  have hfix : ∀ {args args' : Namespace} {field : String × Value},
      fixFacadeField args field.1 field.2 = .ok args' → args'.sessionId = args.sessionId := by
    intro args args' field h
    rw [fixFacadeField] at h
    split at h
    · split at h
      · rw [← Except.ok.inj h]
        rfl
      · rw [Except.ok.inj h]
    · cases h
  rw [applyFacadeMetadata] at h
  obtain ⟨merged, hmerged, hfixed⟩ := ok_of_except_bind h
  rw [sessionId_foldlM hfix hfixed, ← sessionId_foldlM hmerge hmerged]
  split <;> rfl

/-! ### The default session behind a response -/

section Response

variable {response : ClientToolResponse}

/-- The session of a response that says so is recorded; otherwise there is none to record. -/
theorem recordCreated_spec (hc : Served resolved c)
    (hcalled : Called resolved tool arguments given session (.ok response) c c') (hfilled : FilledIn c'.log) :
    wp (recordCreated resolved tool response)
      (fun _ c'' => Sound c'' ∧ tool ≠ "gdb_session_manage" ∨
        c'' = c' ∧ (resolved.managed = true → response.isError = false →
          tool = "gdb_session_start" ∨ tool = "gdb_session_connect" → ∀ m, sessionIdFromPayload response.payload ≠ .ok (some m)))
      (fun _ c'' => Sound c'') c' := by
  rw [recordCreated]
  split
  · rename_i hrecorded
    simp only [Bool.and_eq_true, Bool.not_eq_true', List.contains_iff_mem, List.mem_cons, List.not_mem_nil, or_false] at hrecorded
    obtain ⟨⟨hmanaged, hsuccess⟩, htool⟩ := hrecorded
    have hmanage : tool ≠ "gdb_session_manage" := by
      rcases htool with rfl | rfl
      · decide
      · decide
    rw [wp_bind, wp_narrow]
    refine ⟨fun found hfound => ?_, fun e he => ⟨hfilled, hcalled.remembers hc.sound.default fun n _ hends => ?_⟩⟩
    · cases found with
      | none => exact .inr ⟨rfl, fun _ _ _ m hm => by cases hfound.symm.trans hm⟩
      | some n =>
          have hknown := hcalled.known htool hsuccess hfound
          exact wp_mono (rememberSessionId_served hfilled (hcalled.holds (hc.holds hmanaged)) hknown)
            (fun _ _ h => .inl ⟨h.2.sound, hmanage⟩) fun _ _ h => h.elim
    · obtain ⟨-, -, ⟨-, m, hm⟩ | ⟨htool, -⟩⟩ := hends.of_response rfl
      · cases he.symm.trans hm
      · exact hmanage htool
  · rename_i hrecorded
    refine .inr ⟨rfl, fun hmanaged hsuccess htool => absurd ?_ hrecorded⟩
    simp [hmanaged, hsuccess, htool]

/-- A session that has been stopped is the default one no longer. -/
theorem forgetStopped_sound (hc : Served resolved c)
    (hcalled : Called resolved tool arguments given session (.ok response) c c') (hfilled : FilledIn c'.log)
    (hcreated : resolved.managed = true → response.isError = false →
      tool = "gdb_session_start" ∨ tool = "gdb_session_connect" → ∀ m, sessionIdFromPayload response.payload ≠ .ok (some m)) :
    wp (forgetStopped resolved tool session response) (fun _ c'' => Sound c'') (fun _ c'' => Sound c'') c' := by
  have hsound : (∀ n envelope, resolved.managed = true → response.isError = false → tool = "gdb_session_manage" →
      c'.file.read.bind Cookie.session = some n → session = some n →
        ToolEnvelope.fromPayload response.payload = .ok envelope → envelope.action ≠ some "stop") → Sound c' := by
    refine fun hkept => ⟨hfilled, hcalled.remembers hc.sound.default fun n hn hends => ?_⟩
    rw [← hcalled.file] at hn
    obtain ⟨hmanaged, hsuccess, ⟨htool, m, hm⟩ | ⟨htool, hsession, envelope, henvelope, hstop⟩⟩ := hends.of_response rfl
    · exact hcreated hmanaged hsuccess htool m hm
    · exact hkept n envelope hmanaged hsuccess htool hn hsession henvelope hstop
  rw [forgetStopped]
  split
  · rename_i hstopped
    rw [wp_bind, wp_narrow]
    refine ⟨fun envelope henvelope => ?_, fun e he => hsound fun _ _ _ _ _ _ _ h => (by cases he.symm.trans h)⟩
    rw [wp_bind, rememberedSessionId, wp_gets]
    split
    · exact forgetSessionId_sound hfilled
    · rename_i hother
      refine hsound fun n envelope' _ _ _ hn hsession henvelope' hstop => hother ?_
      obtain rfl := Except.ok.inj (henvelope.symm.trans henvelope')
      simp [hstop, hsession, hn]
  · rename_i hstopped
    refine hsound fun _ _ hmanaged hsuccess htool _ _ _ _ => hstopped ?_
    simp [hmanaged, hsuccess, htool]

end Response

/-! ### The server -/

variable [ClientHost W]

theorem serverReachable_sound (server : ResolvedServer) (hc : Sound c) :
    wp (serverReachable server) (fun _ c' => Sound c' ∧ c'.file = c.file) (fun _ _ => False) c := by
  rw [serverReachable, wp_attempt, wp_bind]
  refine wp_mono (invokeTool_spec ..) (fun _ c' h => ?_) fun _ c' h => ?_
  · exact ⟨h.query_sound hc fun _ _ hn => (by cases hn), h.file⟩
  · obtain ⟨e, h⟩ := h
    exact ⟨h.query_sound hc fun _ _ hn => (by cases hn), h.file⟩

theorem resolvedFromCookie_served {cookie : Cookie} (hc : Sound c) (hread : c.file.read = some cookie) :
    wp (resolvedFromCookie cookie)
      (fun found c' => Sound c' ∧ c'.file = c.file ∧ ∀ resolved, found = some resolved → Served resolved c')
      (fun _ _ => False) c := by
  rw [resolvedFromCookie]
  cases hurl : cookie.url with
  | none => exact ⟨hc, rfl, fun _ h => by cases h⟩
  | some url =>
      change wp (serverReachable _ >>= _) _ _ c
      rw [wp_bind]
      refine wp_mono (serverReachable_sound _ hc) (fun reachable c' h => ?_) fun _ _ h => h
      obtain ⟨hc', hfile⟩ := h
      refine ⟨hc', hfile, fun resolved hresolved => ⟨hc', fun _ => ?_⟩⟩
      cases reachable with
      | false => cases hresolved
      | true =>
          obtain rfl := Option.some.inj hresolved
          exact ⟨cookie, by rw [hfile, hread], hurl, rfl⟩

/-- A server that has been spawned has no default session. -/
theorem spawn_served (hc : FilledIn c.log) (hnone : c.file.read = none) :
    wp spawn (fun resolved c' => Served resolved c') (fun _ c' => Sound c') c := by
  rw [spawn, wp_bind, wp]
  dsimp only
  rcases ClientHost.spawn c.world with ⟨message | ⟨server, startedAt⟩, world⟩
  · exact ⟨hc, .of_read_none hnone⟩
  · refine ⟨⟨hc.snoc fun _ _ hcall => (by cases hcall), fun cookie n hread hn => ?_⟩, fun _ => ⟨_, rfl, rfl, rfl⟩⟩
    rw [← Option.some.inj hread] at hn
    cases hn

theorem probeCookie_served (hc : Sound c) :
    wp probeCookie (fun found c' => Sound c' ∧ ∀ resolved, found = some resolved → Served resolved c')
      (fun _ _ => False) c := by
  rw [probeCookie, wp_bind, wp_gets]
  cases hread : c.file.read with
  | none => exact ⟨hc, fun _ h => by cases h⟩
  | some cookie => exact wp_mono (resolvedFromCookie_served hc hread) (fun _ _ h => ⟨h.1, h.2.2⟩) fun _ _ h => h

theorem resolveServer_served (explicitUrl : Option String) (hc : Sound c) :
    wp (resolveServer explicitUrl) (fun resolved c' => Served resolved c') (fun _ c' => Sound c') c := by
  rw [resolveServer]
  split
  · exact ⟨hc, fun h => by cases h⟩
  rw [wp_bind]
  refine wp_mono (probeCookie_served hc) (fun found c₁ h => ?_) fun _ _ h => h.elim
  obtain ⟨hc₁, hfound⟩ := h
  cases found with
  | some server => exact hfound server rfl
  | none =>
      change wp (gets ClientState.file >>= _) _ _ c₁
      rw [wp_bind, wp_gets]
      cases hread : c₁.file.read with
      | none => exact spawn_served hc₁.filled hread
      | some cookie =>
          change wp (resolvedFromCookie cookie >>= _) _ _ c₁
          rw [wp_bind]
          refine wp_mono (resolvedFromCookie_served hc₁ hread) (fun found c₂ h => ?_) fun _ _ h => h.elim
          obtain ⟨hc₂, -, hfound⟩ := h
          cases found with
          | some server => exact hfound server rfl
          | none =>
              change wp (removeCookie >>= fun _ => spawn) _ _ c₂
              rw [wp_bind, removeCookie, wp_modify]
              exact spawn_served hc₂.filled rfl

theorem tryResolveServer_served (serverUrl : Option String) (hc : Sound c) :
    wp (tryResolveServer serverUrl) (fun found c' => Sound c' ∧ ∀ resolved, found = some resolved → Served resolved c')
      (fun _ c' => Sound c') c := by
  rw [tryResolveServer, wp_attempt, wp_map]
  refine wp_mono (resolveServer_served serverUrl hc) (fun resolved c' h => ⟨h.sound, fun _ hresolved => ?_⟩)
    fun e c' h => ?_
  · rwa [← Option.some.inj hresolved]
  · cases e with
    | daemon => exact ⟨h, fun _ h => by cases h⟩
    | usage => exact h
    | raised => exact h

/-! ### A tool -/

/-- An attach without a session gets a known one. -/
theorem ensureAttachSession_known (args : Namespace) (hc : Served resolved c) :
    wp (ensureAttachSession args resolved)
      (fun args' c' => Served resolved c' ∧ KnownSession c' resolved args.sessionId args'.sessionId)
      (fun _ c' => Sound c') c := by
  rw [ensureAttachSession]
  cases hgiven : args.sessionId with
  | some _ => exact ⟨hc, fun h => by cases h⟩
  | none =>
      dsimp only
      rw [wp_bind]
      refine wp_mono (recordedFor_known hc) (fun remembered c₁ h => ?_) fun _ _ h => h.elim
      obtain ⟨rfl, hknown⟩ := h
      cases remembered with
      | some n => exact ⟨hc, fun _ m hm => hknown m hm⟩
      | none =>
          change wp (invokeTool resolved "gdb_session_start" [] none none >>= _) _ _ c₁
          rw [wp_bind]
          refine wp_mono (invokeTool_spec ..) (fun response c₂ hcalled => ?_) fun _ c₂ h => ?_
          · have hfilled := hcalled.filled hc.sound.filled fun _ _ h => (by cases h)
            have hsilent : (response.isError = true ∨ ∀ n, sessionIdFromPayload response.payload ≠ .ok (some n)) →
                Sound c₂ := by
              refine fun hsilent => ⟨hfilled, hcalled.remembers hc.sound.default fun n _ hends => ?_⟩
              obtain ⟨-, hsuccess, ⟨-, m, hm⟩ | ⟨htool, -⟩⟩ := hends.of_response rfl
              · rcases hsilent with herror | hnone
                · cases herror.symm.trans hsuccess
                · exact hnone m hm
              · exact absurd (show "gdb_session_start" = "gdb_session_manage" from htool) (by decide)
            cases hsuccess : response.isError with
            | true =>
                change wp (narrow (ToolEnvelope.fromPayload response.payload) >>= _) _ _ c₂
                rw [wp_bind, wp_narrow]
                exact ⟨fun _ _ => hsilent (.inl hsuccess), fun _ _ => hsilent (.inl hsuccess)⟩
            | false =>
                change wp (narrow (sessionIdFromPayload response.payload) >>= _) _ _ c₂
                rw [wp_bind, wp_narrow]
                refine ⟨fun found hfound => ?_, fun e he => hsilent (.inr fun n hn => (by cases he.symm.trans hn))⟩
                cases found with
                | none => exact hsilent (.inr fun n hn => (by cases hfound.symm.trans hn))
                | some n =>
                    change wp (recordFor resolved n >>= _) _ _ c₂
                    rw [wp_bind]
                    have hknown := hcalled.known (.inl rfl) hsuccess hfound
                    refine wp_mono (recordFor_served hc hcalled hfilled hknown) (fun _ c₃ h => ?_) fun _ _ h => h.elim
                    refine ⟨h.2, fun _ m hm => ?_⟩
                    rw [← Option.some.inj hm, h.1]
                    exact hknown
          · obtain ⟨e, hcalled⟩ := h
            exact ⟨hcalled.filled hc.sound.filled fun _ _ h => (by cases h),
              hcalled.remembers hc.sound.default fun _ _ => not_ends_of_error rfl⟩

theorem preparePayload_known (spec : RegisteredToolCliSpec) (tool : String) (mode : ToolMode) (hc : Served resolved c) :
    wp (preparePayload spec tool resolved mode)
      (fun prepared c' => Sound c' ∧
        ∀ built, prepared = some built → Served resolved c' ∧ KnownSession c' resolved mode.given built.2)
      (fun _ c' => Sound c') c := by
  rw [preparePayload.eq_def]
  split
  · exact hc.sound
  · split
    · refine ⟨hc.sound, fun built hbuilt => ⟨hc, fun _ n hn => ?_⟩⟩
      rw [← Option.some.inj hbuilt] at hn
      cases hn
    · exact hc.sound
  · exact hc.sound
  · rename_i args facade
    split
    · exact hc.sound
    · rename_i args' hfacade
      have hsession : args'.sessionId = args.sessionId := by
        cases facade with
        | none => rw [Except.ok.inj hfacade]
        | some command => exact sessionId_applyFacadeMetadata hfacade
      have hbuild : ∀ c' : ClientState W, Served resolved c' → ∀ args'' : Namespace, KnownSession c' resolved args.sessionId args''.sessionId →
          wp (some <$> buildPayload spec args'' resolved) (fun prepared c' => Sound c' ∧
            ∀ built, prepared = some built → Served resolved c' ∧ KnownSession c' resolved args.sessionId built.2)
            (fun _ c' => Sound c') c' := by
        intro c' hc' args'' hknown
        refine (wp_map _ _).mpr (wp_mono (buildPayload_known spec args'' hc' hknown) (fun built c'' h => ?_) fun _ _ h => h)
        refine ⟨h.1.sound, fun built' hbuilt => ?_⟩
        rwa [← Option.some.inj hbuilt]
      by_cases hattach : tool = "gdb_attach_process"
      · rw [if_pos hattach, wp_bind, wp_attempt, wp_map]
        refine wp_mono (ensureAttachSession_known args' hc) (fun args'' c' h => ?_) fun e c' h => ?_
        · exact hbuild c' h.1 args'' (hsession ▸ h.2)
        · cases e with
          | usage => exact h
          | daemon => exact ⟨h, fun _ h => by cases h⟩
          | raised => exact ⟨h, fun _ h => by cases h⟩
      · rw [if_neg hattach]
        refine hbuild c hc args' fun hgiven n hn => ?_
        cases (hsession.trans hgiven).symm.trans hn

/-- The request of a tool, and what its response means for the default session. -/
theorem runTool_sound (specs : String → RegisteredToolCliSpec) (serverUrl : Option String) (name : String)
    (mode : ToolMode) (hc : Sound c) :
    wp (runTool specs serverUrl name mode) (fun _ c' => Sound c') (fun _ c' => Sound c') c := by
  rw [runTool]
  cases canonicalToolName name with
  | none => exact hc
  | some tool =>
      dsimp only
      rw [wp_bind]
      refine wp_mono (tryResolveServer_served serverUrl hc) (fun found c₁ h => ?_) fun _ _ h => h
      obtain ⟨hc₁, hfound⟩ := h
      cases found with
      | none => exact hc₁
      | some resolved =>
          change wp (preparePayload (specs tool) tool resolved mode >>= _) _ _ c₁
          rw [wp_bind]
          refine wp_mono (preparePayload_known (specs tool) tool mode (hfound resolved rfl)) (fun prepared c₂ h => ?_)
            fun _ _ h => h
          obtain ⟨hc₂, hprepared⟩ := h
          cases prepared with
          | none => exact hc₂
          | some built =>
              obtain ⟨hserved, hknown⟩ := hprepared built rfl
              change wp (attempt (some <$> invokeTool resolved tool built.1 mode.given built.2) (fun _ => pure none) >>= _) _ _ c₂
              rw [wp_bind, wp_attempt, wp_map]
              refine wp_mono (invokeTool_spec ..) (fun response c₃ hcalled => ?_) fun _ c₃ h => ?_
              · have hfilled := hcalled.filled hserved.sound.filled hknown
                change wp (recordCreated resolved tool response >>= _) _ _ c₃
                rw [wp_bind]
                refine wp_mono (recordCreated_spec hserved hcalled hfilled) (fun _ c₄ h => ?_) fun _ _ h => h
                have hforgotten : wp (forgetStopped resolved tool built.2 response) (fun _ c' => Sound c')
                    (fun _ c' => Sound c') c₄ := by
                  obtain ⟨hc₄, htool⟩ | ⟨rfl, hcreated⟩ := h
                  · rw [forgetStopped, beq_false_of_ne htool, Bool.and_false, if_neg Bool.false_ne_true]
                    exact hc₄
                  · exact forgetStopped_sound hserved hcalled hfilled hcreated
                rw [wp_bind]
                refine wp_mono hforgotten (fun _ c₅ hc₅ => ?_) fun _ _ h => h
                split
                · exact hc₅
                · rw [wp_bind, wp_narrow]
                  exact ⟨fun _ _ => hc₅, fun _ _ => hc₅⟩
              · obtain ⟨e, hcalled⟩ := h
                exact ⟨hcalled.filled hserved.sound.filled hknown,
                  hcalled.remembers hserved.sound.default fun _ _ => not_ends_of_error rfl⟩

/-! ### Meta commands -/

theorem runSessionUse_sound (serverUrl : Option String) (n : Int) (hc : Sound c) :
    wp (runSessionUse serverUrl n) (fun _ c' => Sound c') (fun _ c' => Sound c') c := by
  rw [runSessionUse, wp_bind]
  refine wp_mono (tryResolveServer_served serverUrl hc) (fun found c₁ h => ?_) fun _ _ h => h
  obtain ⟨hc₁, hfound⟩ := h
  cases found with
  | none => exact hc₁
  | some resolved =>
      have hserved := hfound resolved rfl
      cases hmanaged : resolved.managed with
      | false =>
          dsimp only
          rw [hmanaged]
          exact hc₁
      | true =>
          dsimp only
          rw [hmanaged, Bool.not_true, if_neg Bool.false_ne_true, wp_bind, wp_attempt, wp_map]
          refine wp_mono (invokeTool_spec ..) (fun response c₂ hcalled => ?_) fun _ c₂ h => ?_
          · have hc₂ : Sound c₂ := hcalled.query_sound hc₁ fun h => by cases h
            cases hsuccess : response.isError with
            | true =>
                dsimp only
                rw [hsuccess, if_pos rfl, wp_bind, wp_narrow]
                exact ⟨fun _ _ => hc₂, fun _ _ => hc₂⟩
            | false =>
                dsimp only
                rw [hsuccess, if_neg Bool.false_ne_true, wp_bind]
                have hknown : Known c₂.log (resolved.url, resolved.token) n := by
                  rw [hcalled.log]
                  exact .last (.inr ⟨rfl, rfl, response, rfl, hsuccess⟩)
                refine wp_mono (rememberSessionId_served hc₂.filled (hcalled.holds (hserved.holds hmanaged)) hknown)
                  (fun _ c₃ h => ?_) fun _ _ h => h.elim
                exact ⟨h.2.sound.filled, h.2.sound.default⟩
          · obtain ⟨e, hcalled⟩ := h
            exact hcalled.query_sound hc₁ fun h => by cases h

theorem daemonStatus_sound (hc : Sound c) :
    wp daemonStatus (fun _ c' => Sound c') (fun _ c' => Sound c') c := by
  rw [daemonStatus, wp_bind, wp_gets, wp_bind, wp_gets]
  split
  · exact hc
  split
  · rw [wp_bind]
    refine wp_mono (serverReachable_sound _ hc) (fun reachable c₁ h => ?_) fun _ _ h => h.elim
    cases reachable with
    | true => exact h.1
    | false => exact ⟨h.1.filled, .of_read_none rfl⟩
  · exact ⟨hc.filled, .of_read_none rfl⟩

/-- A stop leaves the cookie as it is, or removes it. -/
theorem file_stopDaemon (h : StopHost) (force : Bool) (file : CookieFile) :
    wp (h.stopDaemon force) (fun _ t => t.file = file ∨ t.file = .missing) (fun _ t => t.file = file ∨ t.file = .missing)
      { file } := by
  have hconclude : ∀ cookie requestError, wp (h.concludeStop cookie requestError)
      (fun _ t => t.file = file ∨ t.file = .missing) (fun _ t => t.file = file ∨ t.file = .missing) { file } :=
    fun cookie requestError => wp_mono (StopHost.concludeStop_spec cookie requestError file) (fun _ _ h => .inr h.file)
      fun _ _ h => h.elim
  rw [StopHost.stopDaemon, wp_bind, wp_gets]
  split
  · exact .inl rfl
  split
  · exact .inr rfl
  split
  · split
    · rw [wp_ofExcept]
      exact ⟨fun _ _ => .inl rfl, fun _ _ => .inl rfl⟩
    · exact hconclude _ _
  · exact hconclude _ _
  · exact .inl rfl

theorem stopDaemon_sound (force : Bool) (hc : Sound c) :
    wp (stopDaemon force) (fun _ c' => Sound c') (fun _ c' => Sound c') c := by
  have hfile : ∀ (world : W) (file : CookieFile), file = c.file ∨ file = .missing → Sound { c with world, file } := by
    rintro world file (rfl | rfl)
    · exact ⟨hc.filled, hc.default⟩
    · exact ⟨hc.filled, .of_read_none rfl⟩
  rw [stopDaemon, wp]
  dsimp only
  rcases ClientHost.stopHost c.world with ⟨host, world⟩
  have hsound := hfile world _ (wp_state (file_stopDaemon host force c.file))
  dsimp only
  cases ((host.stopDaemon force).run { file := c.file }).1 with
  | error => exact hsound
  | ok => exact hsound

theorem main_sound (specs : String → RegisteredToolCliSpec) (invocation : Invocation) (hc : Sound c) :
    wp (invocation.main specs) (fun _ c' => Sound c') (fun _ c' => Sound c') c := by
  cases invocation with
  | tool serverUrl name mode => exact runTool_sound specs serverUrl name mode hc
  | sessionUse serverUrl n => exact runSessionUse_sound serverUrl n hc
  | sessionCurrent =>
      rw [Invocation.main, runSessionCurrent, wp_bind, rememberedSessionId, wp_gets]
      cases c.file.read.bind Cookie.session with
      | none => exact hc
      | some n => exact ⟨hc.filled, hc.default⟩
  | daemonStatus =>
      rw [Invocation.main, wp_bind]
      exact wp_mono (daemonStatus_sound hc) (fun _ _ h => ⟨h.filled, h.default⟩) fun _ _ h => h
  | daemonStop force =>
      rw [Invocation.main, wp_bind]
      exact wp_mono (stopDaemon_sound force hc) (fun _ _ h => ⟨h.filled, h.default⟩) fun _ _ h => h

end Calls

/-! ### Runs of invocations -/

/-- One invocation, with its outcome. -/
def Performs [ClientHost W] (specs : String → RegisteredToolCliSpec) (c : ClientState W)
    (label : Invocation × Except ClientError Int) (c' : ClientState W) : Prop :=
  (label.1.main specs).run c = (label.2, c')

/-- A host with one server, which creates session 1 and succeeds with everything else. -/
structure OneServer where

/-- Every tool but the start of a session needs one. -/
def needingSession (tool : String) : RegisteredToolCliSpec where
  buildArguments args :=
    if tool = "gdb_session_start" then .ok []
    else match args.sessionId with
      | none => .error (.validation [{ type := "missing", loc := [.field "session_id"] }] "Field required")
      | some sessionId => .ok [("session_id", .int sessionId)]
  validatePayload := .ok

instance : ClientHost OneServer where
  authToken _ := none
  invokeTool _ _ tool _ w :=
    (.ok { payload := if tool = "gdb_session_start" then [("session_id", .int 1)] else [], isError := false }, w)
  spawn w := (.ok ({ pid := 100, url := "http://127.0.0.1:4000/mcp", token := "first", stage := .serving }, .none), w)
  stopHost w := (StopHost.survivor (.response 200 none), w)

end Client
end GdbMcp
