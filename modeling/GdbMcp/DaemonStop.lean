import GdbMcp.BaseEffect
import GdbMcp.BaseText
import GdbMcp.DaemonState

/-! One stop of the background server by itself, with what it observes of the process. The answer to its request and the
behaviour of the process are those of the host; time passes in the waits only. -/

namespace GdbMcp

/-- What a process is: it only ever goes down this list. -/
inductive ProcessState where
  | running | zombie | gone
  deriving DecidableEq, Repr

/-- A state after another one. -/
def ProcessState.after : ProcessState → ProcessState → Prop
  | .running, .running | .zombie, .running | .zombie, .zombie | .gone, _ => True
  | _, _ => False

/-- The process of a cookie: its states so many polls behind the request, and so many behind a termination signal;
whether it is a child of the client, and whether the client can read its file under `/proc`. -/
structure ServerProcess where
  child : Bool := false
  statReadable : Bool := true
  waiting : Nat → ProcessState
  terminated : Nat → ProcessState
  waiting_after : ∀ n, (waiting (n + 1)).after (waiting n)
  terminated_after : ∀ n, (terminated (n + 1)).after (terminated n)

/-- What comes of the request. The body of a response is missing where it is no JSON. -/
inductive HttpOutcome where
  | response (status : Nat) (body : Option Value)
  | transportError (message : String)
  /-- An exception that is no `HTTPError`. -/
  | raised (error : PyError)

/-- The host of a stop. Each wait ends at its deadline, behind some number of polls. -/
structure StopHost where
  root : String
  posix : Bool := true
  polls : Nat
  termPolls : Nat
  post : (url : String) → (force : Bool) → (token : Option String) → HttpOutcome
  process : Int → ServerProcess

/-- The cookie file; whether the process has got a termination signal, and the polls since this or since the request. -/
structure StopState where
  file : CookieFile
  signalled : Bool := false
  elapsed : Nat := 0

namespace StopHost

variable (h : StopHost)

/-- The state of the process with an id; no process has an id that is not positive. -/
def processState (pid : Int) (s : StopState) : ProcessState :=
  if pid ≤ 0 then .gone
  else if s.signalled then (h.process pid).terminated s.elapsed
  else (h.process pid).waiting s.elapsed

/-- Whether a process in a state is seen as alive. -/
def seesProcess (pid : Int) (state : ProcessState) : Bool :=
  if !h.posix then state == .running
  else if pid ≤ 0 then false
  -- `waitpid` reaps a dead child
  else if (h.process pid).child && state == .zombie then false
  -- signal 0 reaches every process that is not gone
  else if state == .gone then false
  else if (h.process pid).statReadable then state != .zombie
  else true

/-- Return whether one process is still running without signaling it. -/
def processAlive (pid : Int) (s : StopState) : Bool := h.seesProcess pid (h.processState pid s)

open Eff

/-- Poll until the process is not seen any more, or until the deadline. -/
def awaitExit (pid : Int) : Nat → Eff StopState PyError Unit
  | 0 => return ()
  | n + 1 => do
    if ← gets (h.processAlive pid) then
      modify fun s => { s with elapsed := s.elapsed + 1 }
      awaitExit pid n
    else return ()

/-- Wait for the process, and send it a termination signal if it does not exit. -/
def endProcess (pid : Int) : Eff StopState PyError Unit := do
  h.awaitExit pid h.polls
  if (← gets (h.processAlive pid)) && h.posix then
    modify fun s => { s with signalled := true, elapsed := 0 }
    h.awaitExit pid h.termPolls
  else return ()

def removeCookie : Eff StopState PyError Unit := modify fun s => { s with file := .missing }

/-- Remove the cookie, and report what has come of the stop. -/
def reportStop (cookie : Cookie) (requestError : Option String) : Eff StopState PyError StopResult := do
  removeCookie
  let alive ← gets fun s => cookie.pid.any (h.processAlive · s)
  match requestError, alive with
  | some message, true => return { stopped := false, message := s!"could not stop background server: {message}" }
  | _, _ => return { stopped := true, message := s!"stopped background server for {h.root}" }

/-- The end of a stop whose request has not been refused. -/
def concludeStop (cookie : Cookie) (requestError : Option String) : Eff StopState PyError StopResult := do
  (match cookie.pid with
    | some pid => h.endProcess pid
    | none => return ())
  h.reportStop cookie requestError

/-- The result of a response that refuses. -/
def refusal (status : Nat) (body : Option Value) : Except PyError StopResult :=
  if status = 409 then
    match body with
    | some (.dict fields) =>
      .ok { stopped := false
            message := ((fields.lookup "message").getD (.str "background server refused to stop")).text }
    | some _ => .error (.other "object has no attribute get")
    | none => .error (.valueError "Expecting value")
  else .ok { stopped := false, message := s!"background server returned HTTP {status}" }

/-- Ask the background server to exit, with a signal fallback. -/
def stopDaemon (force : Bool) : Eff StopState PyError StopResult := do
  match (← gets StopState.file).read with
  | none => return { stopped := true, message := s!"no background server for {h.root}" }
  | some cookie =>
    match cookie.url with
    | none => do
      removeCookie
      return { stopped := true, message := s!"removed invalid cookie for {h.root}" }
    | some url =>
      match h.post url force cookie.token with
      | .response status body =>
        if 400 ≤ status then ofExcept (refusal status body) else h.concludeStop cookie none
      | .transportError message => h.concludeStop cookie (some message)
      | .raised error => raise error

/-! ### Truth -/

/-- What is told of the stop is true: a server that is said not to be stopped keeps its cookie, and one that is said to
be stopped has neither a running process nor a cookie. -/
structure ToldTruth (file : CookieFile) (result : StopResult) (s : StopState) : Prop where
  kept : result.stopped = false → s.file = file ∧ file.read ≠ none
  stopped : result.stopped = true → ∀ cookie pid, file.read = some cookie → cookie.pid = some pid →
    h.processState pid s ≠ .running ∧ s.file = .missing

/-- The state of the process at the end of the first wait. -/
def waitedState (pid : Int) : ProcessState := h.processState pid { file := .missing, elapsed := h.polls }

/-- The state of the process at the end of both waits. -/
def lastState (pid : Int) : ProcessState :=
  if h.seesProcess pid (h.waitedState pid) && h.posix then
    h.processState pid { file := .missing, signalled := true, elapsed := h.termPolls }
  else h.waitedState pid

/-- The server refuses, or its process does not outlast the waits. -/
def EndsOrRefuses (force : Bool) (file : CookieFile) : Prop :=
  ∀ cookie pid, file.read = some cookie → cookie.pid = some pid →
    match cookie.url with
    | none => h.processState pid { file } ≠ .running
    | some url =>
      match h.post url force cookie.token with
      | .response status _ => 400 ≤ status ∨ h.lastState pid ≠ .running
      | .transportError _ => h.seesProcess pid (h.lastState pid) = false
      | .raised _ => True

variable {h} {pid : Int} {s t : StopState} {file : CookieFile} {force : Bool} {cookie : Cookie} {requestError : Option String}

/-! ### Waits -/

theorem pid_pos_of_sees {a : ProcessState} (hsees : h.seesProcess pid a = true) (hposix : h.posix = true) : ¬pid ≤ 0 := by
  intro hpid
  simp [seesProcess, hposix, hpid] at hsees

theorem seesProcess_running (hpid : ¬pid ≤ 0) : h.seesProcess pid .running = true := by
  cases hposix : h.posix <;> simp [seesProcess, hposix, hpid]

/-- Once a process is not seen, it is not seen again. -/
theorem seesProcess_of_after {a b : ProcessState} (hafter : b.after a) (hb : h.seesProcess pid b = true) :
    h.seesProcess pid a = true := by
  cases a with
  | running =>
      cases hposix : h.posix with
      | true => exact seesProcess_running (pid_pos_of_sees hb hposix)
      | false => simp [seesProcess, hposix]
  | zombie =>
      cases b with
      | running => exact hafter.elim
      | zombie => exact hb
      | gone => simp [seesProcess] at hb
  | gone =>
      cases b with
      | gone => exact hb
      | _ => exact hafter.elim

/-- A running process is seen. -/
theorem processAlive_of_running (hrunning : h.processState pid s = .running) : h.processAlive pid s = true := by
  have hpid : ¬pid ≤ 0 := fun hpid => by
    rw [processState, if_pos hpid] at hrunning
    exact nomatch hrunning
  rw [processAlive, hrunning]
  exact seesProcess_running hpid

theorem processState_after (pid : Int) (s : StopState) :
    (h.processState pid { s with elapsed := s.elapsed + 1 }).after (h.processState pid s) := by
  rw [processState, processState]
  split
  · trivial
  · dsimp only
    split
    · exact (h.process pid).terminated_after _
    · exact (h.process pid).waiting_after _

/-- Two states at which the process is equally running and equally seen. -/
structure SameProcess (h : StopHost) (pid : Int) (s t : StopState) : Prop where
  alive : h.processAlive pid s = h.processAlive pid t
  running : h.processState pid s = .running ↔ h.processState pid t = .running

theorem SameProcess.refl (h : StopHost) (pid : Int) (s : StopState) : SameProcess h pid s s := ⟨rfl, Iff.rfl⟩

/-- A process that is not seen stays so. -/
theorem sameProcess_of_unseen (hdead : h.processAlive pid s = false) (n : Nat) :
    SameProcess h pid s { s with elapsed := s.elapsed + n } := by
  have hlater : h.processAlive pid { s with elapsed := s.elapsed + n } = false := by
    induction n with
    | zero => exact hdead
    | succ n ih =>
        rw [← Bool.not_eq_true]
        intro halive
        have hbefore := seesProcess_of_after (processState_after pid { s with elapsed := s.elapsed + n }) halive
        exact nomatch ih.symm.trans hbefore
  have hnot : ∀ u, h.processAlive pid u = false → h.processState pid u ≠ .running := fun u hu hrunning =>
    nomatch hu.symm.trans (processAlive_of_running hrunning)
  exact ⟨hdead.trans hlater.symm, iff_of_false (hnot s hdead) (hnot _ hlater)⟩

/-- Behind a wait the process is as it would be behind all its polls. -/
theorem awaitExit_spec (pid : Int) (n : Nat) (s : StopState) :
    wp (h.awaitExit pid n)
      (fun _ t => t.file = s.file ∧ t.signalled = s.signalled ∧ SameProcess h pid t { s with elapsed := s.elapsed + n })
      (fun _ _ => False) s := by
  induction n generalizing s with
  | zero => exact ⟨rfl, rfl, .refl h pid s⟩
  | succ n ih =>
      rw [awaitExit, wp_bind, wp_gets]
      cases halive : h.processAlive pid s with
      | true =>
          rw [if_pos rfl, wp_bind, wp_modify]
          refine wp_mono (ih { s with elapsed := s.elapsed + 1 }) (fun _ t ⟨hfile, hsignalled, hsame⟩ => ?_) fun _ _ h => h
          refine ⟨hfile, hsignalled, ?_⟩
          have helapsed : s.elapsed + 1 + n = s.elapsed + (n + 1) := by omega
          rwa [helapsed] at hsame
      | false =>
          rw [if_neg Bool.false_ne_true]
          exact ⟨rfl, rfl, sameProcess_of_unseen halive (n + 1)⟩

/-- Behind the waits the file is what it was, and the process is in its last state. -/
theorem endProcess_spec (pid : Int) (file : CookieFile) :
    wp (h.endProcess pid)
      (fun _ t => t.file = file ∧ h.processAlive pid t = h.seesProcess pid (h.lastState pid) ∧
        (h.processState pid t = .running ↔ h.lastState pid = .running))
      (fun _ _ => False) { file } := by
  rw [endProcess, wp_bind]
  refine wp_mono (awaitExit_spec pid h.polls { file }) (fun _ t ⟨hfile, hsignalled, hsame⟩ => ?_) fun _ _ h => h
  have hwaited : h.processState pid { file, elapsed := 0 + h.polls } = h.waitedState pid := by
    rw [Nat.zero_add]
    rfl
  have halive : h.processAlive pid t = h.seesProcess pid (h.waitedState pid) := by
    rw [hsame.alive, processAlive, hwaited]
  rw [wp_bind, wp_gets, halive, lastState]
  split
  · rw [wp_bind, wp_modify]
    refine wp_mono (awaitExit_spec pid h.termPolls _) (fun _ u ⟨hfile', _, hlast⟩ => ?_) fun _ _ h => h
    have hterminated : h.processState pid { t with signalled := true, elapsed := 0 + h.termPolls } =
        h.processState pid { file := .missing, signalled := true, elapsed := h.termPolls } := by
      rw [Nat.zero_add]
      rfl
    refine ⟨hfile'.trans hfile, ?_, ?_⟩
    · rw [hlast.alive, processAlive, hterminated]
    · rw [hlast.running, hterminated]
  · refine ⟨hfile, halive, ?_⟩
    rw [hsame.running, hwaited]

/-! ### The end of a stop -/

/-- Behind a request that has not been refused the cookie is gone, and the stop has failed if its request has and the
process is still seen. -/
structure Concluded (h : StopHost) (cookie : Cookie) (requestError : Option String) (result : StopResult) (t : StopState) :
    Prop where
  file : t.file = .missing
  failed : result.stopped = false ↔
    requestError ≠ none ∧ ∃ pid, cookie.pid = some pid ∧ h.seesProcess pid (h.lastState pid) = true
  running : ∀ pid, cookie.pid = some pid → (h.processState pid t = .running ↔ h.lastState pid = .running)

theorem reportStop_spec (requestError : Option String)
    (hlast : ∀ pid, cookie.pid = some pid → h.processAlive pid t = h.seesProcess pid (h.lastState pid) ∧
      (h.processState pid t = .running ↔ h.lastState pid = .running)) :
    wp (h.reportStop cookie requestError) (Concluded h cookie requestError) (fun _ _ => False) t := by
  have halive : (cookie.pid.any fun pid => h.processAlive pid { t with file := .missing }) = true ↔
      ∃ pid, cookie.pid = some pid ∧ h.seesProcess pid (h.lastState pid) = true := by
    rw [Option.any_eq_true]
    refine exists_congr fun pid => and_congr_right fun hpid => ?_
    rw [← (hlast pid hpid).1]
    rfl
  have hrunning : ∀ pid, cookie.pid = some pid →
      (h.processState pid { t with file := .missing } = .running ↔ h.lastState pid = .running) :=
    fun pid hpid => (hlast pid hpid).2
  rw [reportStop, wp_bind, removeCookie, wp_modify, wp_bind, wp_gets]
  split
  · rename_i hsome halive'
    exact ⟨rfl, iff_of_true rfl ⟨Option.some_ne_none _, halive.mp halive'⟩, hrunning⟩
  · rename_i hother
    refine ⟨rfl, iff_of_false nofun ?_, hrunning⟩
    rintro ⟨hsome, hseen⟩
    obtain ⟨message, hmessage⟩ := Option.ne_none_iff_exists'.mp hsome
    exact hother message hmessage (halive.mpr hseen)

theorem concludeStop_spec (cookie : Cookie) (requestError : Option String) (file : CookieFile) :
    wp (h.concludeStop cookie requestError) (Concluded h cookie requestError) (fun _ _ => False) { file } := by
  rw [concludeStop, wp_bind]
  cases hpid : cookie.pid with
  | none => exact reportStop_spec requestError fun pid h => nomatch hpid.symm.trans h
  | some pid =>
      refine wp_mono (endProcess_spec pid file) (fun _ t ⟨_, halive, hrunning⟩ => ?_) fun _ _ h => h
      refine reportStop_spec requestError fun pid' hpid' => ?_
      obtain rfl := Option.some.inj (hpid.symm.trans hpid')
      exact ⟨halive, hrunning⟩

theorem seesProcess_lastState (hrunning : h.lastState pid = .running) : h.seesProcess pid (h.lastState pid) = true := by
  have hsees : ∀ s, h.processState pid s = .running → h.seesProcess pid .running = true := fun s hs => by
    have halive := processAlive_of_running hs
    rwa [processAlive, hs] at halive
  rw [hrunning]
  rw [lastState] at hrunning
  split at hrunning
  · exact hsees _ hrunning
  · exact hsees _ hrunning

theorem told_concludeStop_iff (requestError : Option String) (hcookie : file.read = some cookie) :
    wp (h.concludeStop cookie requestError) (h.ToldTruth file) (fun _ _ => True) { file } ↔
      ∀ pid, cookie.pid = some pid →
        if requestError = none then h.lastState pid ≠ .running else h.seesProcess pid (h.lastState pid) = false := by
  refine wp_iff_of_wp (concludeStop_spec cookie requestError file) (fun result t hconcluded => ⟨?_, ?_⟩) fun _ _ h => h.elim
  · intro htold pid hpid
    split
    · rename_i hnone
      have hstopped : result.stopped = true := by
        rw [← Bool.not_eq_false]
        exact fun hfailed => (hconcluded.failed.mp hfailed).1 hnone
      exact fun hlast => (htold.stopped hstopped cookie pid hcookie hpid).1 ((hconcluded.running pid hpid).mpr hlast)
    · rename_i hsome
      rw [← Bool.not_eq_true]
      intro hseen
      obtain ⟨hkept, hread⟩ := htold.kept (hconcluded.failed.mpr ⟨hsome, pid, hpid, hseen⟩)
      rw [hconcluded.file] at hkept
      exact hread (hkept ▸ rfl)
  · intro hends
    constructor
    · intro hfailed
      obtain ⟨hsome, pid, hpid, hseen⟩ := hconcluded.failed.mp hfailed
      have hdead := hends pid hpid
      rw [if_neg hsome, hseen] at hdead
      exact nomatch hdead
    · intro _ cookie' pid hcookie' hpid
      obtain rfl := Option.some.inj (hcookie.symm.trans hcookie')
      refine ⟨fun hrunning => ?_, hconcluded.file⟩
      have hlast := (hconcluded.running pid hpid).mp hrunning
      have hdead := hends pid hpid
      split at hdead
      · exact hdead hlast
      · exact nomatch hdead.symm.trans (seesProcess_lastState hlast)

/-- A refusal keeps the cookie. -/
theorem told_refusal {status : Nat} {body : Option Value} (hread : file.read = some cookie) :
    wp (ofExcept (refusal status body)) (h.ToldTruth file) (fun _ _ => True) { file } := by
  have hrefused : ∀ result, refusal status body = .ok result → result.stopped = false := by
    intro result hresult
    unfold refusal at hresult
    split at hresult
    · split at hresult
      · exact Except.ok.inj hresult ▸ rfl
      · exact nomatch hresult
      · exact nomatch hresult
    · exact Except.ok.inj hresult ▸ rfl
  rw [wp_ofExcept]
  refine ⟨fun result hresult => ⟨fun _ => ⟨rfl, ?_⟩, fun hstopped => ?_⟩, fun _ _ => trivial⟩
  · rw [hread]
    exact Option.some_ne_none _
  · exact nomatch (hrefused result hresult).symm.trans hstopped

/-- A stop tells the truth if and only if the server refuses, the cookie names no process, or the process does not outlast
the waits for it. -/
theorem stopDaemon_truthful_iff (h : StopHost) (force : Bool) (file : CookieFile) :
    wp (h.stopDaemon force) (h.ToldTruth file) (fun _ _ => True) { file } ↔ h.EndsOrRefuses force file := by
  rw [stopDaemon, wp_bind, wp_gets, EndsOrRefuses]
  cases hread : file.read with
  | none =>
      refine iff_of_true ⟨nofun, fun _ cookie pid hcookie => nomatch hread.symm.trans hcookie⟩ nofun
  | some cookie =>
      have hone : ∀ P : Cookie → Int → Prop, (∀ cookie' pid, some cookie = some cookie' → cookie'.pid = some pid → P cookie' pid) ↔
          ∀ pid, cookie.pid = some pid → P cookie pid :=
        fun P => ⟨fun hall pid => hall cookie pid rfl, fun hall cookie' pid h => Option.some.inj h ▸ hall pid⟩
      rw [hone]
      dsimp only
      cases cookie.url with
      | none =>
          dsimp only
          rw [wp_bind, removeCookie, wp_modify, wp_pure]
          constructor
          · exact fun htold pid hpid => (htold.stopped rfl cookie pid hread hpid).1
          · refine fun hdead => ⟨nofun, fun _ cookie' pid hcookie' hpid => ?_⟩
            obtain rfl := Option.some.inj (hread.symm.trans hcookie')
            exact ⟨hdead pid hpid, rfl⟩
      | some url =>
          dsimp only
          cases h.post url force cookie.token with
          | response status body =>
              dsimp only
              by_cases hstatus : 400 ≤ status
              · rw [if_pos hstatus]
                exact iff_of_true (told_refusal hread) fun _ _ => .inl hstatus
              · rw [if_neg hstatus, told_concludeStop_iff none hread]
                simp [hstatus]
          | transportError message =>
              rw [told_concludeStop_iff (some message) hread]
              simp
          | raised error => exact iff_of_true trivial fun _ _ => trivial

/-- A host whose server outlasts every wait. -/
def survivor (outcome : HttpOutcome) : StopHost where
  root := "/project"
  polls := 2
  termPolls := 1
  post _ _ _ := outcome
  process _ :=
    { waiting := fun _ => .running, terminated := fun _ => .running
      waiting_after := fun _ => trivial, terminated_after := fun _ => trivial }

def survivorCookie (url : Value) : CookieFile := .holds { fields := [("pid", .int 4242), ("url", url)] }

/-- The server cannot be reached, and is not stopped: the cookie is gone. The server accepts the request, or its cookie has
no valid address: it is said to be stopped, and is running. -/
theorem survivor_misreported :
    let unreachable := ((survivor (.transportError "All connection attempts failed")).stopDaemon false).run
      { file := survivorCookie (.str "http://127.0.0.1:9/mcp") }
    let accepted := ((survivor (.response 200 none)).stopDaemon false).run
      { file := survivorCookie (.str "http://127.0.0.1:9/mcp") }
    let invalid := ((survivor (.response 200 none)).stopDaemon false).run { file := survivorCookie .none }
    unreachable.1 = .ok
        { stopped := false, message := "could not stop background server: All connection attempts failed" } ∧
      unreachable.2.file = .missing ∧
      accepted.1 = .ok { stopped := true, message := "stopped background server for /project" } ∧
      (survivor (.response 200 none)).processState 4242 accepted.2 = .running ∧
      invalid.1 = .ok { stopped := true, message := "removed invalid cookie for /project" } ∧
      (survivor (.response 200 none)).processState 4242 invalid.2 = .running :=
  ⟨rfl, rfl, rfl, rfl, rfl, rfl⟩

end StopHost
end GdbMcp
