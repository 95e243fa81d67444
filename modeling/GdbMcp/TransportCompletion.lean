import GdbMcp.TransportLoop
import Mathlib.Data.List.Induction
import Mathlib.Data.List.TakeWhile

/-! Completion of execution commands. A `^running` result asks for a later stop; which stops the wait
heeds depends on their token and on the last own result before them. -/

namespace GdbMcp

/-- The `^running` result of the command with the given token. -/
def MiRecord.isRunningOf (r : MiRecord) (token : Nat) : Bool :=
  r.isResultOf token && r.message == some "running"

namespace Completion

variable {token : Nat}

def stops (records : List MiRecord) : List MiRecord := records.filter MiRecord.isStop

/-- The stops without the token of the command. -/
def foreign (token : Nat) (records : List MiRecord) : List MiRecord :=
  records.filter fun r => r.token != some token

/-- The stops behind the first own `^running` result. -/
def laterStops (token : Nat) : List MiRecord → List MiRecord
  | [] => []
  | r :: rest => if r.isRunningOf token then stops rest else laterStops token rest

/-- Whether the last own result is `^running`, when `running` says so of the records before. -/
def runningAfter (token : Nat) : Bool → List MiRecord → Bool
  | running, [] => running
  | running, r :: rest =>
    runningAfter token (if r.isResultOf token then r.message == some "running" else running) rest

/-- The stops with the token of the command, and those read while the last own result is `^running`. -/
def answeredStops (token : Nat) : Bool → List MiRecord → List MiRecord
  | _, [] => []
  | running, r :: rest =>
    if r.isResultOf token then answeredStops token (r.message == some "running") rest
    else if r.isStop && (running || r.token == some token) then r :: answeredStops token running rest
    else answeredStops token running rest

theorem isStop_of_isResultOf {r : MiRecord} (h : r.isResultOf token = true) : r.isStop = false := by
  simp_all [MiRecord.isResultOf, MiRecord.isStop]

theorem runningAfter_append (running : Bool) (xs ys : List MiRecord) :
    runningAfter token running (xs ++ ys) = runningAfter token (runningAfter token running xs) ys := by
  induction xs generalizing running with
  | nil => rfl
  | cons r rest ih => exact ih _

theorem answeredStops_append (running : Bool) (xs ys : List MiRecord) :
    answeredStops token running (xs ++ ys) =
      answeredStops token running xs ++ answeredStops token (runningAfter token running xs) ys := by
  induction xs generalizing running with
  | nil => rfl
  | cons r rest ih =>
      simp only [List.cons_append, answeredStops, runningAfter]
      split_ifs <;> simp [ih]

theorem answeredStops_sublist (running : Bool) (records : List MiRecord) :
    (answeredStops token running records).Sublist (stops records) := by
  induction records generalizing running with
  | nil => exact List.Sublist.slnil
  | cons r rest ih =>
      simp only [answeredStops, stops, List.filter_cons]
      split_ifs with hresult hstop _ hstop'
      · exact (ih _).cons _
      · exact ih _
      · exact (ih _).cons_cons _
      · simp_all
      · exact (ih _).cons _
      · exact ih _

/-- Own stops are all answered. -/
theorem own_answeredStops (running : Bool) (records : List MiRecord) :
    (answeredStops token running records).filter (·.token == some token) =
      (stops records).filter (·.token == some token) := by
  induction records generalizing running with
  | nil => rfl
  | cons r rest ih =>
      have ih' := ih
      simp only [stops] at ih' ⊢
      by_cases hresult : r.isResultOf token = true
      · simp [answeredStops, hresult, isStop_of_isResultOf hresult, ih']
      · by_cases hstop : r.isStop = true <;> by_cases hown : (r.token == some token) = true <;>
          cases running <;> simp_all [answeredStops]

theorem stops_eq_answeredStops {running : Bool} {records : List MiRecord}
    (h : foreign token (answeredStops token running records) = foreign token (stops records)) :
    answeredStops token running records = stops records := by
  refine (answeredStops_sublist running records).eq_of_length ?_
  have hsplit : ∀ xs : List MiRecord, xs.length =
      (xs.filter (·.token == some token)).length + (foreign token xs).length := by
    intro xs
    rw [List.length_eq_length_filter_add (l := xs) (·.token == some token)]
    rfl
  rw [hsplit, hsplit (stops records), own_answeredStops, h]

/-- Without a token only stops behind the own `^running` are answered. -/
theorem foreign_answeredStops_sublist (records : List MiRecord) :
    (foreign token (answeredStops token false records)).Sublist
      (foreign token (laterStops token records)) := by
  induction records with
  | nil => exact List.Sublist.slnil
  | cons r rest ih =>
      by_cases hrunning : r.isRunningOf token = true
      · obtain ⟨hresult, hmessage⟩ := Bool.and_eq_true_iff.mp hrunning
        simp only [answeredStops, laterStops, hrunning, hresult, hmessage, if_true]
        exact (answeredStops_sublist true rest).filter _
      · rw [laterStops, if_neg hrunning, answeredStops]
        split_ifs with hresult hstop
        · have hmessage : (r.message == some "running") = false := by
            simpa [MiRecord.isRunningOf, hresult] using hrunning
          rwa [hmessage]
        · have hown : r.token = some token := by simp_all
          simpa [foreign, hown] using ih
        · exact ih

theorem laterStops_sublist {records : List MiRecord}
    (h : foreign token (answeredStops token false records) = foreign token (laterStops token records)) :
    (laterStops token records).Sublist (answeredStops token false records) := by
  induction records with
  | nil => exact List.Sublist.slnil
  | cons r rest ih =>
      by_cases hrunning : r.isRunningOf token = true
      · obtain ⟨hresult, hmessage⟩ := Bool.and_eq_true_iff.mp hrunning
        simp only [answeredStops, laterStops, hrunning, hresult, hmessage, if_true] at h ⊢
        rw [stops_eq_answeredStops h]
      · rw [laterStops, if_neg hrunning] at h ⊢
        rw [answeredStops] at h ⊢
        split_ifs at h ⊢ with hresult hstop
        · have hmessage : (r.message == some "running") = false := by
            simpa [MiRecord.isRunningOf, hresult] using hrunning
          rw [hmessage] at h ⊢
          exact ih h
        · have hown : r.token = some token := by simp_all
          exact (ih (by simpa [foreign, hown] using h)).cons _
        · exact ih h

theorem laterStops_eq_nil {records : List MiRecord}
    (h : records.any (·.isResultOf token) = false) : laterStops token records = [] := by
  induction records with
  | nil => rfl
  | cons r rest ih =>
      simp only [List.any_cons, Bool.or_eq_false_iff] at h
      rw [laterStops, if_neg (by simp [MiRecord.isRunningOf, h.1]), ih h.2]

theorem stops_laterStops (records : List MiRecord) :
    stops (laterStops token records) = laterStops token records := by
  induction records with
  | nil => rfl
  | cons r rest ih =>
      rw [laterStops]
      split_ifs
      · exact List.filter_filter .. |>.trans (by simp [stops])
      · exact ih

end Completion

open Completion ReadState

/-! ### What one record does to the flags of the wait -/

section Handle

variable (token : Nat) (st : ReadState) (r : MiRecord)

theorem handle_read : (st.handle token r).read = st.read ++ [r] := by
  unfold ReadState.handle classify respond
  split_ifs <;> rfl

theorem handle_result :
    (st.handle token r).sawResultRecord = (st.sawResultRecord || r.isResultOf token) := by
  unfold ReadState.handle classify respond MiRecord.isResultOf
  split_ifs <;> simp_all

theorem handle_running : (st.handle token r).running =
    if r.isResultOf token then r.message == some "running" else st.running := by
  unfold ReadState.handle classify respond ReadState.running MiRecord.isResultOf
  split_ifs <;> simp_all

theorem handle_stop : (st.handle token r).sawStopAfterRunning =
    (st.sawStopAfterRunning || (st.running && r.isStop && r.token != some token)) := by
  unfold ReadState.handle classify respond ReadState.running MiRecord.isStop
  split_ifs <;> simp_all

theorem handle_responses : stops (st.handle token r).commandResponses =
    stops st.commandResponses ++ answeredStops token st.running [r] := by
  have happend : ∀ xs ys, stops (xs ++ ys) = stops xs ++ stops ys := fun xs ys => List.filter_append ..
  unfold ReadState.handle classify respond ReadState.running
  simp only [answeredStops, MiRecord.isResultOf]
  split_ifs <;> simp_all [stops, MiRecord.isStop, List.filter_cons]
  tauto

end Handle

/-- The state of a wait in terms of the records read. -/
structure Tracks (token : Nat) (st : ReadState) : Prop where
  result : st.sawResultRecord = st.read.any (·.isResultOf token)
  running : st.running = runningAfter token false st.read
  stop : st.sawStopAfterRunning = !(foreign token (answeredStops token false st.read)).isEmpty
  responses : stops st.commandResponses = answeredStops token false st.read

theorem Tracks.handle {token : Nat} {st : ReadState} (hst : Tracks token st) (r : MiRecord) :
    Tracks token (st.handle token r) where
  result := by simp [handle_read, handle_result, hst.result]
  running := by rw [handle_read, handle_running, runningAfter_append, ← hst.running]; rfl
  stop := by
    rw [handle_read, handle_stop, answeredStops_append, ← hst.running, hst.stop, foreign, foreign,
      List.filter_append]
    simp only [answeredStops]
    split_ifs with hresult hstop
    · simp [isStop_of_isResultOf hresult]
    · by_cases hown : r.token = some token
      · simp [hown]
      · have hne : (r.token != some token) = true := by simpa using hown
        simp only [List.filter_cons, hne, if_true, List.filter_nil]
        simp_all
    · cases hrunning : st.running <;> simp_all
  responses := by rw [handle_read, handle_responses, answeredStops_append, hst.responses, ← hst.running]

theorem Tracks.checked {token : Nat} {st : ReadState} (hst : Tracks token st) (p : Poll) :
    Tracks token (st.checked p) :=
  checked_cases (P := Tracks token) st p fun _ => ⟨hst.result, hst.running, hst.stop, hst.responses⟩

theorem tracks_initial (token : Nat) : Tracks token {} := ⟨rfl, rfl, rfl, rfl⟩

theorem readLoop_tracks (token : Nat) (polls : List Poll) : Tracks token (readLoop token {} polls).1 :=
  readLoop_invariant (fun _ p hst => hst.checked p) (fun _ r hst => hst.handle r) (tracks_initial token)
    polls

/-- A wait that heeds no stop while it waits for one has an empty list of heeded stops. -/
theorem Tracks.complete_iff {token : Nat} {st : ReadState} (hst : Tracks token st) :
    st.complete = true ↔ st.read.any (·.isResultOf token) = true ∧
      (runningAfter token false st.read = true →
        foreign token (answeredStops token false st.read) ≠ []) := by
  rw [← hst.result, ← hst.running, ReadState.complete, ReadState.running, hst.stop]
  cases st.sawResultRecord <;> cases hclass : st.resultClass == some "running" <;> simp_all

/-! ### One more poll -/

theorem readPoll_ne_timedOut {token : Nat} {st st' : ReadState} {p : Poll} {ending : ReadEnd}
    (h : readPoll token st p = (st', some ending)) : ending ≠ .timedOut := by
  rcases readPoll_cases token st p with ⟨_, hend, -, hne, -⟩ | ⟨-, batch, -, heq⟩
  · rw [h] at hend
    exact Option.some.inj hend ▸ hne
  · rw [heq] at h
    rcases hbatch : (st.checked p).readBatch token batch with ⟨t, _ | payload⟩ <;>
      rw [hbatch, endBatch] at h <;> simp at h
    · simp [← h.2.2]
    · simp [← h.2]

theorem readLoop_append (token : Nat) (st : ReadState) (polls later : List Poll) :
    readLoop token st (polls ++ later) =
      match readLoop token st polls with
      | (st', .timedOut) => readLoop token st' later
      | ended => ended := by
  induction polls generalizing st with
  | nil => rfl
  | cons p rest ih =>
      rw [List.cons_append, readLoop, readLoop]
      rcases hpoll : readPoll token st p with ⟨st', _ | ending⟩
      · exact ih st'
      · have hne := readPoll_ne_timedOut hpoll
        cases ending <;> simp_all

/-- What the condition of this module asks of one batch, read after the given records. -/
structure Heeded (token : Nat) (before batch : List MiRecord) : Prop where
  /-- Every later stop without the own token comes while `^running` is the last own result. -/
  answered : foreign token (answeredStops token false (before ++ batch.takeWhile (!·.isFatal))) =
    foreign token (laterStops token (before ++ batch.takeWhile (!·.isFatal)))
  /-- Where the wait would go on after a later stop, one of them does not carry the own token. -/
  untagged : batch.all (!·.isFatal) = true → runningAfter token false (before ++ batch) = true →
    laterStops token (before ++ batch) ≠ [] → foreign token (laterStops token (before ++ batch)) ≠ []

/-- The stops that come after the command's own `^running` are heeded in every batch that the wait
reads. -/
def StopsHeeded (token : Nat) (polls : List Poll) : Prop :=
  ∀ before p after, polls = before ++ p :: after → ∀ st, readLoop token {} before = (st, .timedOut) →
    p.findsExit st.lastAliveCheckMs = false → ∀ batch, p.read = .ok batch → Heeded token st.read batch

/-- The filter that leaves out the stops before the own `^running`. -/
def withoutEarlyStops (token : Nat) : Eraser Bool where
  keep seen r := seen || !r.isStop
  next seen r := seen || r.isRunningOf token

/-- Completion of the wait for the command with the given token. -/
structure Completes (token : Nat) (polls : List Poll) : Prop where
  /-- A later stop ends the wait. -/
  ends : ∀ before, before <+: polls → laterStops token (readLoop token {} before).1.read ≠ [] →
    (readLoop token {} before).2 ≠ .timedOut
  /-- Later stops are among the responses. -/
  answers : (laterStops token (readLoop token {} polls).1.read).Sublist
    (readLoop token {} polls).1.commandResponses
  /-- Stops before the own `^running` make no difference to the end. -/
  early : (readLoop token {} ((withoutEarlyStops token).polls false polls)).2 =
    (readLoop token {} polls).2
  /-- A wait whose last own result is `^running` ends well only by a later stop. -/
  onlyLater : (readLoop token {} polls).2 = .completed →
    runningAfter token false (readLoop token {} polls).1.read = true →
      laterStops token (readLoop token {} polls).1.read ≠ []

section Contract

variable {token : Nat} {polls : List Poll}

/-- The records read after one more batch without a fatal record. -/
theorem readBatch_read (token : Nat) (st : ReadState) (batch : List MiRecord) :
    (st.readBatch token batch).1.read = st.read ++ batch.takeWhile (!·.isFatal) := by
  rw [readBatch_eq]
  generalize batch.takeWhile (!·.isFatal) = records
  induction records generalizing st with
  | nil => simp
  | cons r rest ih => rw [List.foldl_cons, ih, handle_read, List.append_assoc]; rfl

theorem checked_read (st : ReadState) (p : Poll) : (st.checked p).read = st.read :=
  checked_cases (P := fun st' => st'.read = st.read) st p fun _ => rfl

/-- A wait that goes on after one more poll has handled a whole batch that does not complete it. -/
theorem readPoll_goesOn {st st' : ReadState} {p : Poll} (h : readPoll token st p = (st', none)) :
    p.findsExit st.lastAliveCheckMs = false ∧ ∃ batch, p.read = .ok batch ∧
      batch.all (!·.isFatal) = true ∧ st'.read = st.read ++ batch ∧ st'.complete = false := by
  rcases readPoll_cases token st p with ⟨_, hend, -, -, -⟩ | ⟨hexit, batch, hread, heq⟩
  · simp [h] at hend
  · refine ⟨hexit, batch, hread, ?_⟩
    have hbatch := readBatch_read token (st.checked p) batch
    rw [h] at heq
    rw [readBatch_eq] at heq hbatch
    cases hfatal : batch.find? MiRecord.isFatal with
    | some r => simp [hfatal, endBatch] at heq
    | none =>
        have hall : batch.all (!·.isFatal) = true := by simpa using hfatal
        rw [List.takeWhile_eq_self_iff.mpr (by simpa using hfatal)] at heq hbatch
        simp only [hfatal, Option.map_none, endBatch, Prod.mk.injEq] at heq
        refine ⟨hall, ?_, ?_⟩
        · rw [heq.1, hbatch, checked_read]
        · rw [heq.1]
          simpa using heq.2

theorem readLoop_snoc {st : ReadState} {before : List Poll} {p : Poll}
    (h : readLoop token {} before = (st, .timedOut)) (after : List Poll) :
    readLoop token {} (before ++ p :: after) = readLoop token st (p :: after) := by
  rw [readLoop_append, h]

/-- Where a wait has got to when its polls are used up. -/
theorem readLoop_snoc_timedOut {st' : ReadState} {before : List Poll} {p : Poll}
    (h : readLoop token {} (before ++ [p]) = (st', .timedOut)) :
    ∃ st, readLoop token {} before = (st, .timedOut) ∧ readPoll token st p = (st', none) := by
  rw [readLoop_append] at h
  rcases hbefore : readLoop token {} before with ⟨st, ending⟩
  rw [hbefore] at h
  cases ending with
  | timedOut =>
      refine ⟨st, rfl, ?_⟩
      simp only [readLoop] at h
      rcases hpoll : readPoll token st p with ⟨t, _ | ending⟩
      · simp_all
      · have := readPoll_ne_timedOut hpoll
        simp_all
  | _ => simp at h

theorem readLoop_ended (h : (readLoop token {} polls).2 ≠ .timedOut) :
    ∃ before p after st, polls = before ++ p :: after ∧ readLoop token {} before = (st, .timedOut) ∧
      readPoll token st p = ((readLoop token {} polls).1, some (readLoop token {} polls).2) := by
  suffices hgen : ∀ st, (readLoop token st polls).2 ≠ .timedOut →
      ∃ before p after st', polls = before ++ p :: after ∧ readLoop token st before = (st', .timedOut) ∧
        readPoll token st' p = ((readLoop token st polls).1, some (readLoop token st polls).2) from
    hgen {} h
  clear h
  induction polls with
  | nil => exact fun st h => absurd rfl h
  | cons p rest ih =>
      intro st h
      rcases hpoll : readPoll token st p with ⟨t, _ | ending⟩
      · have hrun : readLoop token st (p :: rest) = readLoop token t rest := by rw [readLoop, hpoll]
        rw [hrun] at h ⊢
        obtain ⟨before, p', after, st', hsplit, hbefore, hlast⟩ := ih t h
        exact ⟨p :: before, p', after, st', by rw [hsplit]; rfl, by rw [readLoop, hpoll]; exact hbefore, hlast⟩
      · have hrun : readLoop token st (p :: rest) = (t, ending) := by rw [readLoop, hpoll]
        rw [hrun]
        exact ⟨[], p, rest, st, rfl, rfl, hpoll⟩

/-- Under the condition, a wait that has not ended has read no later stop. -/
theorem StopsHeeded.laterStops_eq_nil (hheeded : StopsHeeded token polls) {before : List Poll}
    (hbefore : before <+: polls) (htime : (readLoop token {} before).2 = .timedOut) :
    laterStops token (readLoop token {} before).1.read = [] := by
  induction before using List.reverseRecOn with
  | nil => rfl
  | append_singleton before p _ =>
      obtain ⟨after, hsplit⟩ := hbefore
      rcases hrun : readLoop token {} (before ++ [p]) with ⟨st', ending⟩
      obtain rfl : ending = .timedOut := by simpa [hrun] using htime
      obtain ⟨st, hst, hpoll⟩ := readLoop_snoc_timedOut hrun
      obtain ⟨hexit, batch, hread, hall, hreadEq, hopen⟩ := readPoll_goesOn hpoll
      have hbatch := hheeded before p after (by simpa using hsplit.symm) st hst hexit batch hread
      have hanswered := hbatch.answered
      rw [List.takeWhile_eq_self_iff.mpr (by simpa using hall), ← hreadEq] at hanswered
      have htracks := readLoop_tracks token (before ++ [p])
      rw [hrun] at htracks
      have hincomplete : ¬st'.complete = true := by simp [hopen]
      rw [htracks.complete_iff, not_and] at hincomplete
      by_cases hresult : st'.read.any (·.isResultOf token) = true
      · have hwaits := hincomplete hresult
        push Not at hwaits
        by_contra hlater
        exact hbatch.untagged hall (hreadEq ▸ hwaits.1) (hreadEq ▸ hlater)
          (by rw [← hreadEq, ← hanswered]; exact hwaits.2)
      · exact Completion.laterStops_eq_nil (by simpa using hresult)

theorem StopsHeeded.answers (hheeded : StopsHeeded token polls) :
    (laterStops token (readLoop token {} polls).1.read).Sublist
      (readLoop token {} polls).1.commandResponses := by
  have htracks := readLoop_tracks token polls
  by_cases htime : (readLoop token {} polls).2 = .timedOut
  · rw [hheeded.laterStops_eq_nil List.prefix_rfl htime]
    exact List.nil_sublist _
  · obtain ⟨before, p, after, st, hsplit, hst, hpoll⟩ := readLoop_ended htime
    have hnone := hheeded.laterStops_eq_nil ⟨p :: after, hsplit.symm⟩ (by rw [hst])
    rw [hst] at hnone
    rcases readPoll_cases token st p with ⟨_, -, -, -, hsame | hsame⟩ | ⟨hexit, batch, hread, heq⟩
    · rw [show (readLoop token {} polls).1 = st by rw [← hsame, hpoll], hnone]
      exact List.nil_sublist _
    · rw [show (readLoop token {} polls).1 = st.checked p by rw [← hsame, hpoll], checked_read, hnone]
      exact List.nil_sublist _
    · have hreadEq : (readLoop token {} polls).1.read =
          st.read ++ batch.takeWhile (!·.isFatal) := by
        rw [← checked_read st p, ← readBatch_read token, ← endBatch_fst, ← heq, hpoll]
      have hanswered := (hheeded before p after hsplit st hst hexit batch hread).answered
      rw [← hreadEq] at hanswered
      have hsublist := laterStops_sublist hanswered
      rw [← htracks.responses] at hsublist
      exact hsublist.trans List.filter_sublist

/-- Stops before the own `^running` leave the flags of the wait alone. -/
theorem withoutEarlyStops_simulation (token : Nat) :
    (withoutEarlyStops token).Simulation token fun seen st st' =>
      (st'.lastAliveCheckMs = st.lastAliveCheckMs ∧ st'.sawResultRecord = st.sawResultRecord ∧
        st'.sawStopAfterRunning = st.sawStopAfterRunning ∧ st'.resultClass = st.resultClass) ∧
      (seen = false → st.running = false) where
  complete h := by simp only [ReadState.complete, h.1.2.1, h.1.2.2.1, h.1.2.2.2]
  lastAliveCheckMs h := h.1.1
  checked p h := by
    obtain ⟨⟨h1, h2, h3, h4⟩, h5⟩ := h
    simp only [ReadState.checked, h1]
    split <;> exact ⟨⟨by simp_all, h2, h3, h4⟩, h5⟩
  kept r h _ := by
    obtain ⟨⟨h1, h2, h3, h4⟩, h5⟩ := h
    refine ⟨?_, fun hseen => ?_⟩
    · simp only [ReadState.handle, classify, respond, h2, h4]
      split_ifs <;> simp_all
    · obtain ⟨hunseen, hrunning⟩ : _ = false ∧ r.isRunningOf token = false := by
        simpa [withoutEarlyStops] using hseen
      rw [handle_running, h5 hunseen]
      split_ifs with hresult
      · simpa [MiRecord.isRunningOf, hresult] using hrunning
      · rfl
  erased r h hr := by
    obtain ⟨⟨h1, h2, h3, h4⟩, h5⟩ := h
    obtain ⟨hunseen, hstop⟩ : _ = false ∧ r.isStop = true := by simpa [withoutEarlyStops] using hr
    obtain ⟨htype, hmessage⟩ : r.type = .notify ∧ r.message = some "stopped" := by
      simpa [MiRecord.isStop] using hstop
    have hidle := h5 hunseen
    have hresult : r.isResultOf token = false := by simp [MiRecord.isResultOf, htype]
    refine ⟨by simp [MiRecord.isFatal, htype], ⟨?_, fun _ => ?_⟩⟩
    · rw [ReadState.running, Bool.and_eq_false_iff] at hidle
      simp only [ReadState.handle, classify, respond, htype]
      split_ifs <;> simp_all
    · rw [handle_running, hresult]
      exact hidle

theorem early_stops_never_end (token : Nat) (polls : List Poll) :
    (readLoop token {} ((withoutEarlyStops token).polls false polls)).2 =
      (readLoop token {} polls).2 :=
  (@Eraser.Simulation.readLoop _ _ _ _ (withoutEarlyStops_simulation token) false {} {}
    ⟨⟨rfl, rfl, rfl, rfl⟩, fun _ => rfl⟩ polls).1

theorem completed_only_by_later_stop (hend : (readLoop token {} polls).2 = .completed)
    (hrunning : runningAfter token false (readLoop token {} polls).1.read = true) :
    laterStops token (readLoop token {} polls).1.read ≠ [] := by
  intro hnone
  have hcomplete := readLoop_completed hend
  rw [(readLoop_tracks token polls).complete_iff] at hcomplete
  have hsublist := @foreign_answeredStops_sublist token (readLoop token {} polls).1.read
  rw [hnone] at hsublist
  exact hcomplete.2 hrunning (List.sublist_nil.mp hsublist)

/-- Without a fatal record, a poll that is read ends the wait only if it completes it. -/
theorem complete_of_ended {token : Nat} {st st' : ReadState} {p : Poll} {batch : List MiRecord} {ending : ReadEnd}
    (hexit : p.findsExit st.lastAliveCheckMs = false) (hread : p.read = .ok batch)
    (hall : batch.all (!·.isFatal) = true) (hpoll : readPoll token st p = (st', some ending)) :
    st'.complete = true := by
  have hend := @readPoll_of_batch token _ _ _ hexit hread
  rw [hpoll, readBatch_eq] at hend
  have hnofatal : batch.find? MiRecord.isFatal = none := by simpa using hall
  simp only [hnofatal, Option.map_none, endBatch, Prod.mk.injEq] at hend
  rw [hend.1]
  by_contra hopen
  simp [hopen] at hend

/-- The wait completes as it should exactly when the stops that come after the command's own `^running`
are heeded. -/
theorem completes_iff_stopsHeeded (token : Nat) (polls : List Poll) :
    Completes token polls ↔ StopsHeeded token polls := by
  refine ⟨fun hcompletes => ?_, fun hheeded => ⟨fun before hbefore hlater htime =>
    hlater (hheeded.laterStops_eq_nil hbefore htime), hheeded.answers, early_stops_never_end token polls,
    completed_only_by_later_stop⟩⟩
  intro before p after hsplit st hst hexit batch hread
  have hreadEq : (readPoll token st p).1.read = st.read ++ batch.takeWhile (!·.isFatal) := by
    rw [readPoll_of_batch hexit hread, endBatch_fst, readBatch_read, checked_read]
  rcases hpoll : readPoll token st p with ⟨st', _ | ending⟩
  · -- the wait goes on, so no later stop has been read
    have hrun : readLoop token {} (before ++ [p]) = (st', .timedOut) := by
      rw [readLoop_snoc hst]
      simp only [readLoop, hpoll]
    have hnone : laterStops token st'.read = [] := by
      by_contra hlater
      have hprefix : before ++ [p] <+: polls := ⟨after, by simp [hsplit]⟩
      exact hcompletes.ends _ hprefix (by rw [hrun]; exact hlater) (by rw [hrun])
    rw [hpoll] at hreadEq
    rw [hreadEq] at hnone
    refine ⟨?_, fun hall _ hlater => ?_⟩
    · have hsublist := @foreign_answeredStops_sublist token
        (st.read ++ batch.takeWhile (!·.isFatal))
      rw [hnone] at hsublist ⊢
      exact List.sublist_nil.mp hsublist
    · rw [List.takeWhile_eq_self_iff.mpr (by simpa using hall)] at hnone
      exact absurd hnone hlater
  · -- the wait ends with this poll
    have hrun : readLoop token {} polls = (st', ending) := by
      rw [hsplit, readLoop_snoc hst]
      simp only [readLoop, hpoll]
    have htracks := readLoop_tracks token polls
    have hanswers : (stops (laterStops token (readLoop token {} polls).1.read)).Sublist
        (stops (readLoop token {} polls).1.commandResponses) := hcompletes.answers.filter _
    rw [hrun] at htracks hanswers
    rw [stops_laterStops, htracks.responses] at hanswers
    have hanswered : foreign token (answeredStops token false st'.read) =
        foreign token (laterStops token st'.read) :=
      (foreign_answeredStops_sublist st'.read).antisymm (hanswers.filter _)
    rw [hpoll] at hreadEq
    refine ⟨hreadEq ▸ hanswered, fun hall hrunning _ => ?_⟩
    have htake : batch.takeWhile (!·.isFatal) = batch :=
      List.takeWhile_eq_self_iff.mpr (by simpa using hall)
    rw [htake] at hreadEq
    have hcomplete := complete_of_ended hexit hread hall hpoll
    rw [htracks.complete_iff] at hcomplete
    rw [← hreadEq] at hrunning ⊢
    rw [← hanswered]
    exact hcomplete.2 hrunning

/-- A stop with the command's own token, read after `^running`, leaves the wait to run out of time. -/
theorem own_stop_times_out : ¬Completes 1000
    [{ read := .ok [{ type := .result, token := some 1000, message := some "running" }] },
     { read := .ok [{ type := .notify, token := some 1000, message := some "stopped" }] }] :=
  fun h => h.ends _ List.prefix_rfl (by decide) (by decide)

end Contract
end GdbMcp
