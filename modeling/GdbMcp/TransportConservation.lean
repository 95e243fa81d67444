import GdbMcp.BaseDealing
import GdbMcp.SessionRun
import GdbMcp.TransportCompletion
import GdbMcp.TransportWait

/-! The records that one command reads, and the two lists of its response: every record goes to one of them, and the
lists keep the order of arrival. -/

namespace GdbMcp

open Eff MiClient ReadState Completion

/-- The polls that a wait makes: those up to the one that ends it. -/
def pollsMade (token : Nat) : ReadState → List Poll → List Poll
  | _, [] => []
  | st, p :: rest =>
    match readPoll token st p with
    | (_, some _) => [p]
    | (st', none) => p :: pollsMade token st' rest

section Wait

variable {token : Nat} {st : ReadState}

/-- A result record of another command. -/
def MiRecord.isStale (token : Nat) (r : MiRecord) : Bool :=
  r.type == .result && r.token.isSome && r.token != some token

/-- A response takes what is not stale, and the notifications take what is not the command's own. -/
abbrev Conserves (token : Nat) : List MiRecord → List MiRecord → List MiRecord → Prop :=
  Dealt (fun r => r.isStale token = false) fun r => r.token ≠ some token

/-- The records classified so far are dealt out to the two lists. -/
def ReadState.Conserved (token : Nat) (st : ReadState) : Prop :=
  Conserves token st.read st.commandResponses st.asyncNotifications

theorem ReadState.Conserved.handle (h : st.Conserved token) (r : MiRecord) : (st.handle token r).Conserved token := by
  unfold ReadState.Conserved ReadState.handle classify respond
  split_ifs with hresult hown hstop hplain
  · exact h.left (by simp_all [MiRecord.isStale])
  · exact h.left (by simp_all [MiRecord.isStale])
  · exact h.left (by simp_all [MiRecord.isStale])
  · exact h.left (by simp_all [MiRecord.isStale])
  · exact h.right (by simpa using hown)

theorem readLoop_conserved (token : Nat) (polls : List Poll) : (readLoop token {} polls).1.Conserved token := by
  refine readLoop_invariant (I := ReadState.Conserved token) (fun st p hst => ?_) (fun st r hst => hst.handle r) ?_ polls
  · exact checked_cases (P := ReadState.Conserved token) st p fun _ => hst
  · exact Dealt.nil

/-- The poll that completes a wait has classified its whole batch. -/
theorem readPoll_completed_read {st' : ReadState} {p : Poll} (h : readPoll token st p = (st', some .completed)) :
    ∃ batch, p.read = .ok batch ∧ st'.read = st.read ++ batch := by
  rcases readPoll_cases token st p with ⟨_, hend, hne, -, -⟩ | ⟨-, batch, hread, heq⟩
  · rw [h] at hend
    exact absurd (Option.some.inj hend).symm hne
  · refine ⟨batch, hread, ?_⟩
    have hbatch := readBatch_read token (st.checked p) batch
    rw [h] at heq
    rw [readBatch_eq] at heq hbatch
    cases hfatal : batch.find? MiRecord.isFatal with
    | some r => simp [hfatal, endBatch] at heq
    | none =>
        rw [List.takeWhile_eq_self_iff.mpr (by simpa using hfatal)] at heq hbatch
        simp only [hfatal, Option.map_none, endBatch, Prod.mk.injEq] at heq
        rw [heq.1, hbatch, checked_read]

/-- A wait that completes or times out has classified the whole of every batch that it has read. -/
theorem read_of_ended {polls : List Poll}
    (hends : (readLoop token st polls).2 = .completed ∨ (readLoop token st polls).2 = .timedOut) :
    (readLoop token st polls).1.read = st.read ++ (batches (pollsMade token st polls)).flatten := by
  induction polls generalizing st with
  | nil => simp [readLoop, pollsMade, batches]
  | cons p rest ih =>
      rw [readLoop] at hends ⊢
      rw [pollsMade]
      rcases hpoll : readPoll token st p with ⟨st', _ | ending⟩
      · rw [hpoll] at hends
        obtain ⟨-, batch, hread, -, hgrown, -⟩ := readPoll_goesOn hpoll
        have hrest := ih hends
        simp only [batches, hread, List.flatten_cons]
        rw [hrest, hgrown, List.append_assoc]
      · rw [hpoll] at hends
        obtain rfl : ending = .completed := hends.resolve_right (readPoll_ne_timedOut hpoll)
        obtain ⟨batch, hread, hgrown⟩ := readPoll_completed_read hpoll
        simpa [batches, hread] using hgrown

end Wait

/-! ### One command -/

namespace MiClient

variable {W : Type} [Gdb W]

/-- The polls that are made for a command, if it is written. -/
def pollsOf (command : String) (timeoutSec : Nat) (c : Channel W) : List Poll :=
  if c.client.controller.isSome then
    match Gdb.write c.client.commandToken command c.gdb with
    | (.ok _, w) => pollsMade c.client.commandToken {} (Gdb.polls timeoutSec w).1
    | (.error _, _) => []
  else []

theorem conclude_calm {response response' : MiTransportResponse} {ending : ReadEnd} {c c' : Channel W}
    (hrun : (conclude response ending).run c = (.ok response', c')) (hcalm : response'.fatal = false) :
    (ending = .completed ∨ ending = .timedOut) ∧ response'.commandResponses = response.commandResponses ∧
      response'.asyncNotifications = response.asyncNotifications := by
  cases ending with
  | completed =>
      obtain ⟨hresponse, -⟩ := Prod.mk.inj hrun
      obtain rfl := Except.ok.inj hresponse
      exact ⟨.inl rfl, rfl, rfl⟩
  | timedOut =>
      obtain ⟨hresponse, -⟩ := Prod.mk.inj hrun
      obtain rfl := Except.ok.inj hresponse
      exact ⟨.inr rfl, rfl, rfl⟩
  | fatal error =>
      obtain ⟨_, t, -, hpure⟩ := ok_of_run_bind hrun
      obtain ⟨hresponse, -⟩ := Prod.mk.inj hpure
      obtain rfl := Except.ok.inj hresponse
      exact nomatch hcalm
  | raised e => exact nomatch (Prod.mk.inj hrun).1

theorem pollsMade_isOk {token : Nat} {st : ReadState} {polls : List Poll}
    (hends : (readLoop token st polls).2 = .completed ∨ (readLoop token st polls).2 = .timedOut) :
    ∀ p ∈ pollsMade token st polls, p.read.isOk := by
  induction polls generalizing st with
  | nil => exact fun _ hp => nomatch hp
  | cons p rest ih =>
      rw [readLoop] at hends
      rw [pollsMade]
      rcases hpoll : readPoll token st p with ⟨st', _ | ending⟩
      · rw [hpoll] at hends
        obtain ⟨-, batch, hread, -⟩ := readPoll_goesOn hpoll
        exact List.forall_mem_cons.mpr ⟨by rw [hread]; rfl, ih hends⟩
      · rw [hpoll] at hends
        obtain rfl : ending = .completed := hends.resolve_right (readPoll_ne_timedOut hpoll)
        obtain ⟨batch, hread, -⟩ := readPoll_completed_read hpoll
        exact List.forall_mem_singleton.mpr (by rw [hread]; rfl)

/-- A wait that ends without a failure deals the records of its polls out to the response. -/
theorem awaitResult_conserves {token timeoutSec : Nat} {c c' : Channel W} {response : MiTransportResponse}
    (hrun : (awaitResult token timeoutSec).run c = (.ok response, c')) (hcalm : response.fatal = false) :
    let polls := pollsMade token {} (Gdb.polls timeoutSec c.gdb).1
    (∀ p ∈ polls, p.read.isOk) ∧
      Conserves token (batches polls).flatten response.commandResponses response.asyncNotifications := by
  rw [awaitResult] at hrun
  obtain ⟨polls, c₁, hpolls, hrun⟩ := ok_of_run_bind hrun
  obtain ⟨_, c₂, -, hconclude⟩ := ok_of_run_bind hrun
  obtain ⟨hends, hresponses, hnotifications⟩ := conclude_calm hconclude hcalm
  obtain rfl : (Gdb.polls timeoutSec c.gdb).1 = polls := Except.ok.inj (Prod.mk.inj hpolls).1
  refine ⟨pollsMade_isOk hends, ?_⟩
  have hconserved := readLoop_conserved token (Gdb.polls timeoutSec c.gdb).1
  rw [ReadState.Conserved, read_of_ended hends] at hconserved
  rw [hresponses, hnotifications]
  exact hconserved

omit [Gdb W] in
theorem takeToken_run {command : String} {token : Nat} {c c' : Channel W}
    (hrun : (takeToken command).run c = (.ok token, c')) : c.client.commandToken = token ∧ c'.gdb = c.gdb := by
  obtain ⟨htoken, rfl⟩ := Prod.mk.inj hrun
  exact ⟨Except.ok.inj htoken, rfl⟩

/-- A line that has been written without an exception. -/
theorem ok_of_run_write {token : Nat} {command : String} {c c' : Channel W}
    (hrun : (attempt (Except.ok <$> call (Gdb.write token command)) fun e => return .error e :
      ChannelM W (Except PyError Unit)).run c = (.ok (.ok ()), c')) :
    Gdb.write token command c.gdb = (.ok (), c'.gdb) := by
  simp only [attempt, Functor.map, call, zoom] at hrun
  rcases hwrite : Gdb.write token command c.gdb with ⟨e | _, w⟩
  · rw [hwrite] at hrun
    cases Except.ok.inj (Prod.mk.inj hrun).1
  · rw [hwrite] at hrun
    obtain ⟨-, rfl⟩ := Prod.mk.inj hrun
    rfl

/-- A command that does not end fatally returns every record that it has read, in one of the two lists of its response
and in the order of arrival: its own records in the responses, the results of other commands in the notifications. -/
theorem records_conserved {command : String} {timeoutSec : Nat} {c c' : Channel W} {response : MiTransportResponse}
    (hrun : (sendCommandAndWaitForPrompt command timeoutSec).run c = (.ok response, c'))
    (hcalm : response.fatal = false) :
    let token := c.client.commandToken
    let read := (batches (pollsOf command timeoutSec c)).flatten
    (∀ p ∈ pollsOf command timeoutSec c, p.read.isOk) ∧
      Conserves token read response.commandResponses response.asyncNotifications ∧
      ∀ r ∈ read, (r.token = some token → r ∈ response.commandResponses) ∧
        (r.isStale token = true → r ∈ response.asyncNotifications) := by
  intro token read
  have hdealt : (∀ p ∈ pollsOf command timeoutSec c, p.read.isOk) ∧
      Conserves token read response.commandResponses response.asyncNotifications := by
    rw [sendCommandAndWaitForPrompt] at hrun
    obtain ⟨controlled, c₁, hcontrolled, hrun⟩ := ok_of_run_bind hrun
    obtain ⟨rfl, rfl⟩ : c.client.controller.isSome = controlled ∧ c = c₁ :=
      ⟨Except.ok.inj (Prod.mk.inj hcontrolled).1, (Prod.mk.inj hcontrolled).2⟩
    cases hcontroller : c.client.controller.isSome with
    | false =>
        rw [hcontroller] at hrun
        obtain ⟨hresponse, -⟩ := Prod.mk.inj hrun
        obtain rfl := Except.ok.inj hresponse
        have hnone : pollsOf command timeoutSec c = [] := by simp [pollsOf, hcontroller]
        simp only [read, hnone]
        exact ⟨List.forall_mem_nil _, Dealt.nil⟩
    | true =>
        rw [hcontroller, if_pos rfl] at hrun
        obtain ⟨_, c₂, htoken, hrun⟩ := ok_of_run_bind hrun
        obtain ⟨rfl, hgdb⟩ := takeToken_run htoken
        obtain ⟨written, c₃, hwritten, hrun⟩ := ok_of_run_bind hrun
        cases written with
        | ok _ =>
            have hmade : pollsOf command timeoutSec c = pollsMade token {} (Gdb.polls timeoutSec c₃.gdb).1 := by
              rw [pollsOf, hcontroller, if_pos rfl, ← hgdb, ok_of_run_write hwritten]
            simp only [read, hmade]
            exact awaitResult_conserves hrun hcalm
        | error e =>
            cases e with
            | osError m =>
                obtain ⟨_, c₄, -, hpure⟩ := ok_of_run_bind hrun
                obtain ⟨hresponse, -⟩ := Prod.mk.inj hpure
                obtain rfl := Except.ok.inj hresponse
                exact nomatch hcalm
            | _ => exact nomatch (Prod.mk.inj hrun).1
  exact ⟨hdealt.1, hdealt.2, fun r hr => ⟨fun hown => hdealt.2.mem_left hr fun hother => hother hown,
    fun hstale => hdealt.2.mem_right hr (by simp [hstale])⟩⟩

/-- A debugger that answers with a result of an earlier command and news of a library, and then with the result. -/
def lateAnswer : Channel Scripted where
  client := { controller := some {} }
  gdb :=
    { script := {}
      queue := [.answering fun token =>
        [resultRecord "done" 7, notifyRecord "library-loaded" [], resultRecord "done" token]] }

theorem records_conserved_late :
    let response : MiTransportResponse :=
      { commandResponses := [resultRecord "done" 1000]
        asyncNotifications := [resultRecord "done" 7, notifyRecord "library-loaded" []] }
    ((sendCommandAndWaitForPrompt "-gdb-version" 30).run lateAnswer).1 = .ok response ∧
      (∀ p ∈ pollsOf "-gdb-version" 30 lateAnswer, p.read.isOk) ∧
      Conserves 1000 (batches (pollsOf "-gdb-version" 30 lateAnswer)).flatten response.commandResponses
        response.asyncNotifications :=
  let behind := ((sendCommandAndWaitForPrompt "-gdb-version" 30).run lateAnswer).2
  have hconserved := @records_conserved _ _ "-gdb-version" 30 lateAnswer behind _ rfl rfl
  ⟨rfl, hconserved.1, hconserved.2.1⟩

end MiClient
end GdbMcp
