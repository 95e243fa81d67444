import GdbMcp.TransportLoop

/-! Matching of commands and results by token, over any sequence of calls on one client. -/

namespace GdbMcp

open MiClient

variable {W : Type} [Gdb W]

/-- The calls that a session makes on its client. -/
inductive ClientCall where
  | start (command : List String) (cwd : Option String)
  | adopt (endpoint : String)
  | exit
  | isAlive
  | readInitialOutput (timeoutSec : Nat)
  | send (command : String) (timeoutSec : Nat)
  | waitForStop (timeoutSec : Nat)
  | interrupt (timeoutSec : Nat)

/-- The channel after a call, whether it returned or raised. -/
def ClientCall.after (c : Channel W) : ClientCall → Channel W
  | .start command cwd => ((MiClient.start command cwd).run c).2
  | .adopt endpoint => ((MiClient.adopt endpoint).run c).2
  | .exit => (MiClient.exit.run c).2
  | .isAlive => (MiClient.isAlive.run c).2
  | .readInitialOutput timeoutSec => ((MiClient.readInitialOutput timeoutSec).run c).2
  | .send command timeoutSec => ((sendCommandAndWaitForPrompt command timeoutSec).run c).2
  | .waitForStop timeoutSec => ((MiClient.waitForStop timeoutSec).run c).2
  | .interrupt timeoutSec => ((interruptAndWaitForStop timeoutSec).run c).2

def runCalls (calls : List ClientCall) (c : Channel W) : Channel W :=
  calls.foldl ClientCall.after c

/-- A client that has made no call yet. -/
def MiClient.fresh (initialCommandToken : Nat) : MiClient := { commandToken := initialCommandToken }

namespace MiClient

def sentTokens (m : MiClient) : List Nat := m.sent.map Prod.fst

/-- The tokens written so far increase, and the next one is larger still. -/
structure TokensIncrease (m : MiClient) : Prop where
  pairwise : m.sentTokens.Pairwise (· < ·)
  below : ∀ token ∈ m.sentTokens, token < m.commandToken

theorem TokensIncrease.take {m : MiClient} (hm : m.TokensIncrease) (command : String) :
    TokensIncrease
      { m with commandToken := m.commandToken + 1, sent := m.sent ++ [(m.commandToken, command)] } where
  pairwise := by
    simp only [sentTokens, List.map_append, List.map_cons, List.map_nil, List.pairwise_append]
    refine ⟨hm.pairwise, List.pairwise_singleton _ _, fun token htoken other hother => ?_⟩
    obtain rfl := List.mem_singleton.mp hother
    exact hm.below token htoken
  below := by
    intro token htoken
    simp only [sentTokens, List.map_append, List.mem_append, List.map_cons, List.map_nil,
      List.mem_singleton] at htoken
    rcases htoken with h | rfl
    · exact Nat.lt_succ_of_lt (hm.below token h)
    · exact Nat.lt_succ_self _

end MiClient

/-! ### A relation kept by every call -/

/-- The channels whose clients are related. -/
def OnClient (R : MiClient → MiClient → Prop) (c c' : Channel W) : Prop := R c.client c'.client

instance {R : MiClient → MiClient → Prop} [Std.Refl R] : Std.Refl (OnClient (W := W) R) :=
  ⟨fun c => refl_of R c.client⟩

instance {R : MiClient → MiClient → Prop} [IsTrans MiClient R] : IsTrans (Channel W) (OnClient R) :=
  ⟨fun _ _ _ h h' => trans_of R h h'⟩

/-- What reading records and setting the controller do to the client. -/
class ClientFrame (R : MiClient → MiClient → Prop) : Prop extends Std.Refl R, IsTrans MiClient R where
  receive : ∀ m records, R m { m with received := m.received ++ records }
  control : ∀ m controller, R m { m with controller := controller }

/-- All that a call does to the client: it may also take the next token. -/
class ClientStep (R : MiClient → MiClient → Prop) : Prop extends ClientFrame R where
  take : ∀ m command, R m
    { m with commandToken := m.commandToken + 1, sent := m.sent ++ [(m.commandToken, command)] }

open Eff

section Frames

variable {R : MiClient → MiClient → Prop} [hR : ClientFrame R] {α : Type}

theorem within_call {W : Type} (f : W → Except PyError α × W) : Within (OnClient R) (call f) := by
  refine ⟨fun c => ?_⟩
  rw [call, wp_zoom]
  simp only [wp]
  split <;> exact refl_of R c.client

theorem within_observe {W : Type} (f : W → α × W) : Within (OnClient R) (observe f) := within_call _

theorem within_hasController {W : Type} : Within (OnClient (W := W) R) hasController := Within.gets _

theorem within_exit : Within (OnClient (W := W) R) MiClient.exit := by
  refine within_hasController.bind fun attached => ?_
  cases attached with
  | false => exact Within.pure _
  | true =>
      refine ⟨fun c => ?_⟩
      rw [if_pos rfl, wp_ensure]
      refine wp_mono ((within_call (R := R) Gdb.exit).outcome c) (fun _ c' h => ?_) (fun _ c' h => ?_) <;>
        exact trans_of R h (hR.control c'.client none)

theorem within_recordRead {W : Type} (records : List MiRecord) :
    Within (OnClient (W := W) R) (recordRead records) :=
  Within.modify fun c => hR.receive c.client records

theorem within_attach {W : Type} (controller : Controller) :
    Within (OnClient (W := W) R) (updateClient fun m => { m with controller := some controller }) :=
  Within.modify fun c => hR.control c.client (some controller)

theorem within_conclude (response : MiTransportResponse) (ending : ReadEnd) :
    Within (OnClient (W := W) R) (conclude response ending) := by
  cases ending with
  | completed => exact Within.pure _
  | timedOut => exact Within.pure _
  | fatal error => exact within_exit.bind fun _ => Within.pure _
  | raised e => exact Within.raise _

theorem within_awaitResult (token timeoutSec : Nat) :
    Within (OnClient (W := W) R) (awaitResult token timeoutSec) :=
  (within_observe _).bind fun _ => (within_recordRead _).bind fun _ => within_conclude _ _

theorem within_wait (timeoutSec : Nat) :
    Within (OnClient (W := W) R) (waitForStoppedNotification timeoutSec) :=
  (within_observe _).bind fun _ => (within_recordRead _).bind fun _ => within_conclude _ _

theorem within_readInitialOutput (timeoutSec : Nat) :
    Within (OnClient (W := W) R) (readInitialOutput timeoutSec) := by
  refine within_hasController.bind fun attached => ?_
  cases attached with
  | false => exact Within.pure _
  | true =>
      refine (within_observe _).bind fun polls => (within_recordRead _).bind fun _ => ?_
      split
      · exact Within.pure _
      · exact within_exit.bind fun _ => Within.raise _
      · exact Within.raise _

end Frames

section Steps

variable {R : MiClient → MiClient → Prop} [hR : ClientStep R]

theorem within_takeToken {W : Type} (command : String) : Within (OnClient (W := W) R) (takeToken command) :=
  ⟨fun c => hR.take c.client command⟩

theorem within_send (command : String) (timeoutSec : Nat) :
    Within (OnClient (W := W) R) (sendCommandAndWaitForPrompt command timeoutSec) := by
  refine within_hasController.bind fun attached => ?_
  cases attached with
  | false => exact Within.pure _
  | true =>
      refine (within_takeToken command).bind fun token => ?_
      refine (Within.attempt ((within_call _).map _) fun e => Within.pure _).bind fun written => ?_
      rcases written with (_ | _ | _ | _ | _) | _
      · exact within_exit.bind fun _ => Within.pure _
      · exact Within.raise _
      · exact Within.raise _
      · exact Within.raise _
      · exact Within.raise _
      · exact within_awaitResult token timeoutSec

/-- Every call, returning or raising, relates the client to the one before it. -/
theorem ClientCall.after_related (call : ClientCall) (c : Channel W) :
    R c.client (call.after c).client := by
  cases call with
  | start command cwd =>
      exact (((within_call _).bind fun _ => within_attach _ :
        Within (OnClient (W := W) R) (MiClient.start command cwd))).run c
  | adopt endpoint =>
      exact (((within_call _).bind fun _ => within_attach _ :
        Within (OnClient (W := W) R) (MiClient.adopt endpoint))).run c
  | exit => exact within_exit.run c
  | isAlive =>
      refine (within_hasController.bind fun attached => ?_ :
        Within (OnClient (W := W) R) MiClient.isAlive).run c
      cases attached with
      | false => exact Within.pure _
      | true => exact (within_observe _).bind fun _ => Within.pure _
  | readInitialOutput timeoutSec => exact (within_readInitialOutput timeoutSec).run c
  | send command timeoutSec => exact (within_send command timeoutSec).run c
  | waitForStop timeoutSec =>
      refine (within_hasController.bind fun attached => ?_ :
        Within (OnClient (W := W) R) (MiClient.waitForStop timeoutSec)).run c
      cases attached with
      | false => exact Within.pure _
      | true => exact within_wait timeoutSec
  | interrupt timeoutSec =>
      refine (within_hasController.bind fun attached => ?_ :
        Within (OnClient (W := W) R) (interruptAndWaitForStop timeoutSec)).run c
      cases attached with
      | false => exact Within.pure _
      | true =>
          exact Within.attempt ((within_call _).bind fun _ => within_wait timeoutSec)
            fun e => Within.pure _

end Steps

/-- An invariant that every step of a call keeps holds after every sequence of calls. -/
theorem runCalls_invariant {I : MiClient → Prop} [ClientStep (Eff.Keeps I)] (calls : List ClientCall)
    {c : Channel W} (hI : I c.client) : I (runCalls calls c).client := by
  induction calls generalizing c with
  | nil => exact hI
  | cons call rest ih => exact ih (ClientCall.after_related (R := Eff.Keeps I) call c hI)

instance : ClientStep (Eff.Keeps TokensIncrease) where
  take _ command hm := hm.take command
  receive _ _ hm := ⟨hm.pairwise, hm.below⟩
  control _ _ hm := ⟨hm.pairwise, hm.below⟩

theorem runCalls_tokensIncrease (gdb : W) (initialCommandToken : Nat) (calls : List ClientCall) :
    TokensIncrease (runCalls calls ⟨.fresh initialCommandToken, gdb⟩).client :=
  runCalls_invariant calls ⟨.nil, fun _ h => nomatch h⟩

/-! ### The responses of one wait -/

namespace ReadState

/-- The own result, once seen, is among the responses, and no result of another command is. -/
structure Owned (token : Nat) (st : ReadState) : Prop where
  own : st.sawResultRecord = true → ∃ r ∈ st.commandResponses, r.isResultOf token = true
  others : ∀ r ∈ st.commandResponses, ∀ other, r.isResultOf other = true → other = token

theorem Owned.respond {token : Nat} {st : ReadState} (hst : st.Owned token) {r : MiRecord}
    (hr : ∀ other, r.isResultOf other = true → other = token) : (st.respond r).Owned token where
  own hsaw := by
    obtain ⟨own, hmem, hown⟩ := hst.own hsaw
    exact ⟨own, List.mem_append_left _ hmem, hown⟩
  others := by
    intro r' hr' other hother
    rcases List.mem_append.mp hr' with h | h
    · exact hst.others r' h other hother
    · rw [List.mem_singleton.mp h] at hother
      exact hr other hother

theorem Owned.handle {token : Nat} {st : ReadState} (hst : st.Owned token) (r : MiRecord) :
    (st.handle token r).Owned token := by
  have hread : ({ st with read := st.read ++ [r] } : ReadState).Owned token := ⟨hst.own, hst.others⟩
  unfold ReadState.handle classify
  split
  · -- the own result
    rename_i hown
    refine ⟨fun _ => ⟨r, List.mem_append_right _ (List.mem_singleton.mpr rfl), hown⟩, ?_⟩
    refine (hread.respond fun other hother => ?_).others
    simp_all [MiRecord.isResultOf]
  · split
    · exact hread.respond fun other hother => by simp_all [MiRecord.isResultOf]
    · split
      · -- a later stop
        have h := hread.respond (r := r) fun other hother => by simp_all [MiRecord.isResultOf]
        exact ⟨h.own, h.others⟩
      · split
        · exact hread.respond fun other hother => by simp_all [MiRecord.isResultOf]
        · exact ⟨hst.own, hst.others⟩

theorem Owned.readLoop (token : Nat) (polls : List Poll) : (readLoop token {} polls).1.Owned token :=
  readLoop_invariant
    (fun st p hst => checked_cases (P := Owned token) st p fun _ => ⟨hst.own, hst.others⟩)
    (fun _ r hst => hst.handle r) ⟨by simp, by simp⟩ polls

end ReadState

/-- The filter that leaves out the results of the given commands. -/
def withoutResultsOf (tokens : List Nat) : Eraser Unit where
  keep _ r := !tokens.any r.isResultOf
  next _ _ := ()

/-- Two waits that agree on everything but the async notifications. -/
structure SameResponses (st st' : ReadState) : Prop where
  commandResponses : st'.commandResponses = st.commandResponses
  lastAliveCheckMs : st'.lastAliveCheckMs = st.lastAliveCheckMs
  sawResultRecord : st'.sawResultRecord = st.sawResultRecord
  sawStopAfterRunning : st'.sawStopAfterRunning = st.sawStopAfterRunning
  resultClass : st'.resultClass = st.resultClass

theorem withoutResultsOf_simulation {tokens : List Nat} {token : Nat} (htoken : token ∉ tokens) :
    (withoutResultsOf tokens).Simulation token fun _ st st' => SameResponses st st' where
  complete h := by simp only [ReadState.complete, h.sawResultRecord, h.resultClass, h.sawStopAfterRunning]
  lastAliveCheckMs h := h.lastAliveCheckMs
  checked p h := by
    obtain ⟨h1, h2, h3, h4, h5⟩ := h
    simp only [ReadState.checked, h2]
    split <;> constructor <;> simp_all
  kept r h _ := by
    obtain ⟨h1, h2, h3, h4, h5⟩ := h
    simp only [ReadState.handle, ReadState.classify, ReadState.respond, h3, h5]
    split_ifs <;> constructor <;> simp_all
  erased r h hr := by
    obtain ⟨other, hother, hresult⟩ : ∃ other ∈ tokens, r.isResultOf other = true := by
      simpa [withoutResultsOf] using hr
    have hne : other ≠ token := fun heq => htoken (heq ▸ hother)
    obtain ⟨htype, hrtoken⟩ : r.type = .result ∧ r.token = some other := by
      simpa [MiRecord.isResultOf] using hresult
    refine ⟨by simp [MiRecord.isFatal, htype], ?_⟩
    simp only [ReadState.handle, ReadState.classify, htype, hrtoken]
    exact ⟨by simp [hne, h.commandResponses], by simp [hne, h.lastAliveCheckMs],
      by simp [hne, h.sawResultRecord], by simp [hne, h.sawStopAfterRunning], by simp [hne, h.resultClass]⟩

/-! ### The contract of a command -/

/-- What holds of the command sent next from the channel `c`. -/
structure Matched (c : Channel W) (command : String) (timeoutSec : Nat) : Prop where
  /-- A response without error that has not timed out holds the result of this very command. -/
  own : ∀ response c', (sendCommandAndWaitForPrompt command timeoutSec).run c = (.ok response, c') →
    response.error = none → response.timedOut = false →
      c'.client.sent = c.client.sent ++ [(c.client.commandToken, command)] ∧
        ∃ r ∈ response.commandResponses, r.isResultOf c.client.commandToken = true
  /-- No response, whatever its outcome, holds the result of an earlier command. -/
  earlier : ∀ response c', (sendCommandAndWaitForPrompt command timeoutSec).run c = (.ok response, c') →
    ∀ token ∈ c.client.sentTokens, ∀ r ∈ response.commandResponses, r.isResultOf token = false
  /-- Results of earlier commands are without effect on the end and the responses of the wait. -/
  stale : ∀ polls,
    let whole := readLoop c.client.commandToken {} polls
    let filtered := readLoop c.client.commandToken {} ((withoutResultsOf c.client.sentTokens).polls () polls)
    filtered.2 = whole.2 ∧ filtered.1.commandResponses = whole.1.commandResponses

theorem conclude_response (response : MiTransportResponse) (ending : ReadEnd) (c : Channel W) :
    wp (conclude response ending)
      (fun response' _ => response'.commandResponses = response.commandResponses ∧
        (response'.error = none → response'.timedOut = false → ending = .completed))
      (fun _ _ => True) c := by
  cases ending with
  | completed => exact ⟨rfl, fun _ _ => rfl⟩
  | timedOut => exact ⟨rfl, fun _ h => nomatch h⟩
  | fatal error =>
      rw [conclude, wp_bind]
      exact wp_mono (wp_true _ _) (fun _ _ _ => ⟨rfl, fun h => nomatch h⟩) fun _ _ h => h
  | raised e => trivial

/-- The responses of a wait are those of its loop, and a clean response means that the loop ended by
itself. -/
theorem awaitResult_response (token timeoutSec : Nat) (c : Channel W) :
    wp (awaitResult token timeoutSec)
      (fun response _ => ∃ polls,
        response.commandResponses = (readLoop token {} polls).1.commandResponses ∧
        (response.error = none → response.timedOut = false →
          (readLoop token {} polls).2 = .completed))
      (fun _ _ => True) c := by
  rw [awaitResult, wp_bind]
  refine wp_mono (wp_true _ _) (fun polls c' _ => ?_) fun _ _ h => h
  exact wp_mono (conclude_response _ _ _) (fun _ _ h => ⟨polls, h⟩) fun _ _ h => h

instance : ClientFrame (Eff.Same MiClient.sent) where
  receive _ _ := rfl
  control _ _ := rfl

/-- Either no result can be in the response, or it is the response of a wait for the taken token. -/
theorem send_response (command : String) (timeoutSec : Nat) (c : Channel W) :
    wp (sendCommandAndWaitForPrompt command timeoutSec)
      (fun response c' =>
        ((response.error = none → response.timedOut = true) ∧ response.commandResponses = []) ∨
        (c'.client.sent = c.client.sent ++ [(c.client.commandToken, command)] ∧
          ∃ polls, response.commandResponses =
            (readLoop c.client.commandToken {} polls).1.commandResponses ∧
            (response.error = none → response.timedOut = false →
              (readLoop c.client.commandToken {} polls).2 = .completed)))
      (fun _ _ => True) c := by
  rw [sendCommandAndWaitForPrompt, wp_bind, hasController, wp_gets]
  cases hcontroller : c.client.controller with
  | none => exact .inl ⟨fun _ => rfl, rfl⟩
  | some controller =>
      simp only [Option.isSome_some, if_true, wp_bind, takeToken, wp_gets, updateClient, wp_modify,
        wp_pure, wp_attempt, wp_map, call, wp_zoom]
      unfold wp
      split
      · -- the write went through
        exact wp_mono
          (wp_and (awaitResult_response _ timeoutSec _)
            ((within_awaitResult (R := Eff.Same MiClient.sent) _ timeoutSec).outcome _))
          (fun _ _ h => .inr h.symm) fun _ _ _ => trivial
      · rename_i e w _
        cases e with
        | osError m =>
            change wp (exitUnlocked >>= fun _ => pure _) _ _ _
            rw [wp_bind]
            exact wp_mono (wp_true _ _) (fun _ _ _ => .inl ⟨fun h => (by cases h), rfl⟩) fun _ _ h => h
        | _ => trivial

/-- Whatever was sent before, on this controller or on others, tokens are taken in increasing order and
the response of every command is matched by its token. -/
theorem commands_matched (gdb : W) (initialCommandToken : Nat) (calls : List ClientCall) :
    let c := runCalls calls ⟨.fresh initialCommandToken, gdb⟩
    c.client.sentTokens.Pairwise (· < ·) ∧
      ∀ command timeoutSec, Matched c command timeoutSec := by
  intro c
  have htokens := runCalls_tokensIncrease gdb initialCommandToken calls
  have hfresh : c.client.commandToken ∉ c.client.sentTokens := fun hmem =>
    Nat.lt_irrefl _ (htokens.below _ hmem)
  refine ⟨htokens.pairwise, fun command timeoutSec => ⟨?_, ?_, ?_⟩⟩
  · intro response c' hrun herror htime
    rcases wp_ok (send_response command timeoutSec c) hrun with ⟨hclean, -⟩ | ⟨hsent, polls, hpolls, hend⟩
    · exact absurd (hclean herror) (by simp [htime])
    · refine ⟨hsent, ?_⟩
      have hcomplete := readLoop_completed (hend herror htime)
      rw [ReadState.complete, Bool.and_eq_true] at hcomplete
      rw [hpolls]
      exact (ReadState.Owned.readLoop c.client.commandToken polls).own hcomplete.1
  · intro response c' hrun token htoken r hr
    rcases wp_ok (send_response command timeoutSec c) hrun with ⟨-, hempty⟩ | ⟨-, polls, hpolls, -⟩
    · simp [hempty] at hr
    · rw [hpolls] at hr
      by_contra hresult
      have hown := (ReadState.Owned.readLoop c.client.commandToken polls).others r hr token
        (by simpa using hresult)
      exact hfresh (hown ▸ htoken)
  · intro polls
    obtain ⟨hend, _, hsame⟩ := (withoutResultsOf_simulation hfresh).readLoop (s := ())
      (⟨rfl, rfl, rfl, rfl, rfl⟩ : SameResponses {} {}) polls
    exact ⟨hend, hsame.commandResponses⟩

end GdbMcp
