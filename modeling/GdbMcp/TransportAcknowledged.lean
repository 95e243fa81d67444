import GdbMcp.TransportResponses
import GdbMcp.TransportWait

/-! The wait for a result behind the own `^running`. It goes on until a stop or the deadline, so that it reads nothing
more just when the batch of the `^running` completes it or the debugger falls silent. -/

namespace GdbMcp

open Completion ReadState

/-- The time of the last liveness check after a poll. -/
def Poll.checkedMs (p : Poll) (lastAliveCheckMs : Nat) : Nat :=
  if p.due lastAliveCheckMs then p.elapsedMs else lastAliveCheckMs

/-- Nothing is read in these polls, and the process is found alive. -/
def ReadsNothing : Nat → List Poll → Prop
  | _, [] => True
  | lastAliveCheckMs, p :: rest =>
    p.findsExit lastAliveCheckMs = false ∧ p.read = .ok [] ∧ ReadsNothing (p.checkedMs lastAliveCheckMs) rest

section Reading

variable {token : Nat}

theorem checked_lastAliveCheckMs (st : ReadState) (p : Poll) :
    (st.checked p).lastAliveCheckMs = p.checkedMs st.lastAliveCheckMs := by
  unfold ReadState.checked Poll.checkedMs
  split <;> rfl

theorem readBatch_lastAliveCheckMs (token : Nat) (st : ReadState) (batch : List MiRecord) :
    (st.readBatch token batch).1.lastAliveCheckMs = st.lastAliveCheckMs := by
  rw [readBatch_eq]
  refine List.foldlRecOn (motive := fun (st' : ReadState) => st'.lastAliveCheckMs = st.lastAliveCheckMs) _ _ rfl fun st' ih r _ => ?_
  rw [← ih]
  unfold ReadState.handle classify respond
  split_ifs <;> rfl

/-- A poll adds to what has been read, at most the whole of its batch. -/
theorem readPoll_read (st : ReadState) (p : Poll) :
    st.read <+: (readPoll token st p).1.read ∧
      (readPoll token st p).1.read <+: st.read ++ (batches [p]).flatten := by
  rcases readPoll_cases token st p with ⟨_, -, -, -, h | h⟩ | ⟨-, batch, hread, h⟩
  · rw [h]
    exact ⟨List.prefix_rfl, List.prefix_append _ _⟩
  · rw [h, checked_read]
    exact ⟨List.prefix_rfl, List.prefix_append _ _⟩
  · rw [h, endBatch_fst, readBatch_read, checked_read]
    refine ⟨List.prefix_append _ _, (List.prefix_append_right_inj _).mpr ?_⟩
    simpa [batches, hread] using List.takeWhile_prefix _

theorem batches_cons_flatten (p : Poll) (rest : List Poll) :
    (batches [p]).flatten <+: (batches (p :: rest)).flatten := by
  cases hread : p.read with
  | error e => simp [batches, hread]
  | ok batch => simp [batches, hread]

theorem readLoop_read (st : ReadState) (polls : List Poll) :
    st.read <+: (readLoop token st polls).1.read ∧
      (readLoop token st polls).1.read <+: st.read ++ (batches polls).flatten := by
  induction polls generalizing st with
  | nil => exact ⟨List.prefix_rfl, List.prefix_append _ _⟩
  | cons p rest ih =>
      obtain ⟨hgrown, hbounded⟩ := @readPoll_read token st p
      rw [readLoop]
      rcases hpoll : readPoll token st p with ⟨st', _ | ending⟩
      · obtain ⟨hexit, batch, hread, hall, hreadEq, -⟩ := readPoll_goesOn hpoll
        obtain ⟨hgrown', hbounded'⟩ := ih st'
        rw [hpoll] at hgrown
        refine ⟨hgrown.trans hgrown', ?_⟩
        rw [hreadEq, List.append_assoc] at hbounded'
        simpa [batches, hread] using hbounded'
      · rw [hpoll] at hgrown hbounded
        exact ⟨hgrown, hbounded.trans ((List.prefix_append_right_inj _).mpr (batches_cons_flatten p rest))⟩

/-- A wait that goes on has read all batches as a whole. -/
theorem readLoop_read_timedOut {st : ReadState} {polls : List Poll} (h : (readLoop token st polls).2 = .timedOut) :
    (readLoop token st polls).1.read = st.read ++ (batches polls).flatten := by
  induction polls generalizing st with
  | nil => simp [readLoop, batches]
  | cons p rest ih =>
      rw [readLoop] at h ⊢
      rcases hpoll : readPoll token st p with ⟨st', _ | ending⟩
      · rw [hpoll] at h
        obtain ⟨hexit, batch, hread, hall, hreadEq, -⟩ := readPoll_goesOn hpoll
        rw [ih h, hreadEq]
        simp [batches, hread]
      · rw [hpoll] at h
        exact absurd h (readPoll_ne_timedOut hpoll)

end Reading

/-! ### Silence -/

section Silence

variable {token : Nat} {st : ReadState}

/-- The wait reads nothing, and does not fail. -/
def Pauses (token : Nat) (st : ReadState) (polls : List Poll) : Prop :=
  (readLoop token st polls).1.read = st.read ∧
    ((readLoop token st polls).2 = .completed ∨ (readLoop token st polls).2 = .timedOut)

theorem readPoll_empty {p : Poll} (hopen : st.complete = false) (hexit : p.findsExit st.lastAliveCheckMs = false)
    (hread : p.read = .ok []) : readPoll token st p = (st.checked p, none) := by
  rw [readPoll_of_batch hexit hread]
  simp [readBatch, endBatch, hopen]

/-- A wait that reads a batch but no record from it goes on. -/
theorem readPoll_pauses {p : Poll} (hopen : st.complete = false) {rest : List Poll}
    (h : Pauses token st (p :: rest)) :
    p.findsExit st.lastAliveCheckMs = false ∧ p.read = .ok [] ∧ Pauses token (st.checked p) rest := by
  obtain ⟨hsame, hends⟩ := h
  rw [readLoop] at hsame hends
  rcases readPoll_cases token st p with ⟨ending, hend, hne, hne', -⟩ | ⟨hexit, batch, hread, heq⟩
  · rcases hpoll : readPoll token st p with ⟨st', _ | ending'⟩
    · rw [hpoll] at hend
      cases hend
    · rw [hpoll] at hend hends
      obtain rfl := Option.some.inj hend
      exact absurd hends (not_or.mpr ⟨hne, hne'⟩)
  · have hempty : batch = [] := by
      cases batch with
      | nil => rfl
      | cons r records =>
          exfalso
          by_cases hfatal : r.isFatal = true
          · have hfails : readPoll token st p = (st.checked p, some (.fatal (fatalMessage r.payload))) := by
              rw [heq, readBatch, if_pos hfatal]
              rfl
            rw [hfails] at hends
            rcases hends with h | h <;> cases h
          · have hgrows : (readPoll token st p).1.read =
                st.read ++ r :: (records.takeWhile (!·.isFatal)) := by
              rw [heq, endBatch_fst, readBatch_read, checked_read, List.takeWhile_cons_of_pos (by simpa using hfatal)]
            have hlong : (readPoll token st p).1.read.length ≤ st.read.length := by
              rcases hpoll : readPoll token st p with ⟨st', _ | ending⟩
              · rw [hpoll] at hsame
                exact hsame ▸ (readLoop_read st' rest).1.length_le
              · rw [hpoll] at hsame
                exact hsame ▸ le_refl _
            rw [hgrows, List.length_append, List.length_cons] at hlong
            omega
    subst hempty
    rw [readPoll_empty hopen hexit hread] at hsame hends
    exact ⟨hexit, hread, hsame.trans (checked_read st p).symm, hends⟩

theorem pauses_iff_readsNothing {polls : List Poll} (hopen : st.complete = false) :
    Pauses token st polls ↔ ReadsNothing st.lastAliveCheckMs polls := by
  induction polls generalizing st with
  | nil => exact iff_of_true ⟨rfl, .inr rfl⟩ trivial
  | cons p rest ih =>
      have hnext := @ih (st.checked p) (by rw [checked_complete, hopen])
      rw [checked_lastAliveCheckMs] at hnext
      constructor
      · intro h
        obtain ⟨hexit, hread, hrest⟩ := readPoll_pauses hopen h
        exact ⟨hexit, hread, hnext.mp hrest⟩
      · rintro ⟨hexit, hread, hrest⟩
        obtain ⟨hsame, hends⟩ := hnext.mpr hrest
        rw [checked_read] at hsame
        rw [Pauses, readLoop, readPoll_empty hopen hexit hread]
        exact ⟨hsame, hends⟩

end Silence

/-! ### The batch of the own `^running` -/

section Lists

variable {token : Nat}

theorem laterStops_append {before records : List MiRecord} (h : before.any (·.isResultOf token) = false) :
    laterStops token (before ++ records) = laterStops token records := by
  induction before with
  | nil => rfl
  | cons r rest ih =>
      simp only [List.any_cons, Bool.or_eq_false_iff] at h
      rw [List.cons_append, laterStops, if_neg (by simp [MiRecord.isRunningOf, h.1]), ih h.2]

/-- All own results are `^running`. -/
abbrev OnlyRuns (token : Nat) (records : List MiRecord) : Prop :=
  ∀ r ∈ records, r.isResultOf token = true → r.message = some "running"

theorem foreign_answeredStops_running {records : List MiRecord} (h : OnlyRuns token records) :
    foreign token (answeredStops token true records) = foreign token (stops records) := by
  induction records with
  | nil => rfl
  | cons r rest ih =>
      obtain ⟨hr, hrest⟩ := List.forall_mem_cons.mp h
      have ih := ih hrest
      by_cases hresult : r.isResultOf token = true
      · have hstop := isStop_of_isResultOf hresult
        simp [answeredStops, hresult, hr hresult, stops, hstop] at ih ⊢
        exact ih
      · cases hstop : r.isStop with
        | false => simpa [answeredStops, hresult, hstop, stops] using ih
        | true =>
            simp only [answeredStops, hresult, hstop, stops, foreign] at ih ⊢
            simp only [Bool.false_eq_true, if_false, Bool.true_or, Bool.and_true, if_true, List.filter_cons, hstop]
            split <;> simp [ih]

theorem foreign_answeredStops {records : List MiRecord} (h : OnlyRuns token records) :
    foreign token (answeredStops token false records) = foreign token (laterStops token records) := by
  induction records with
  | nil => rfl
  | cons r rest ih =>
      obtain ⟨hr, hrest⟩ := List.forall_mem_cons.mp h
      rw [answeredStops, laterStops]
      by_cases hresult : r.isResultOf token = true
      · have hrunning : r.isRunningOf token = true := by simp [MiRecord.isRunningOf, hresult, hr hresult]
        rw [if_pos hresult, if_pos hrunning, hr hresult]
        exact foreign_answeredStops_running hrest
      · have hrunning : ¬r.isRunningOf token = true := by simp [MiRecord.isRunningOf, hresult]
        rw [if_neg hresult, if_neg hrunning]
        split
        · rename_i hown
          have htoken : r.token = some token := by simpa using (Bool.and_eq_true_iff.mp hown).2
          simpa [foreign, htoken] using ih hrest
        · exact ih hrest

theorem runningAfter_of_onlyRuns {records : List MiRecord} {running : Bool} (h : OnlyRuns token records) :
    runningAfter token running records = (running || records.any (·.isResultOf token)) := by
  induction records generalizing running with
  | nil => simp [runningAfter]
  | cons r rest ih =>
      obtain ⟨hr, hrest⟩ := List.forall_mem_cons.mp h
      rw [runningAfter, ih hrest, List.any_cons]
      by_cases hresult : r.isResultOf token = true
      · simp [hresult, hr hresult]
      · simp [hresult]

end Lists

/-- The own result of a command is `^running`, and arrives with a batch that the wait comes to. -/
structure RunningArrives (token : Nat) (polls before : List Poll) (p : Poll) (after : List Poll)
    (batch : List MiRecord) : Prop where
  split : polls = before ++ p :: after
  awaited : (readLoop token {} before).2 = .timedOut
  alive : p.findsExit (readLoop token {} before).1.lastAliveCheckMs = false
  read : p.read = .ok batch
  earlier : (readLoop token {} before).1.read.any (·.isResultOf token) = false
  arrives : batch.any (·.isRunningOf token) = true
  results : ∀ r ∈ heardResults token (batches polls).flatten, r.message = some "running"

section Arrival

variable {token : Nat} {polls before after : List Poll} {p : Poll} {batch : List MiRecord}

theorem mem_heardResults {records : List MiRecord} {r : MiRecord} (hmem : r ∈ records)
    (hresult : r.isResultOf token = true) : r ∈ heardResults token records := by
  rw [heardResults, List.mem_filter]
  simp_all [MiRecord.isResultOf]

/-- What the wait has read has no own result but `^running`. -/
theorem RunningArrives.onlyRuns (h : RunningArrives token polls before p after batch) {records : List MiRecord}
    (hread : records ⊆ (batches polls).flatten) : OnlyRuns token records :=
  fun _ hr hresult => h.results _ (mem_heardResults (hread hr) hresult)

/-- The reads of polls behind which a wait goes on all return. -/
theorem batches_append_of_timedOut {st : ReadState} (h : (readLoop token st before).2 = .timedOut) (later : List Poll) :
    batches (before ++ later) = batches before ++ batches later := by
  induction before generalizing st with
  | nil => rfl
  | cons p rest ih =>
      rw [readLoop] at h
      rcases hpoll : readPoll token st p with ⟨st', _ | ending⟩
      · rw [hpoll] at h
        obtain ⟨-, batch, hread, -⟩ := readPoll_goesOn hpoll
        simp [batches, hread, ih h]
      · rw [hpoll] at h
        exact absurd h (readPoll_ne_timedOut hpoll)

theorem RunningArrives.batches_eq (h : RunningArrives token polls before p after batch) :
    (batches (before ++ [p])).flatten = (readLoop token {} before).1.read ++ batch ∧
      (batches polls).flatten = (readLoop token {} before).1.read ++ batch ++ (batches after).flatten := by
  have hbefore : (readLoop token {} before).1.read = (batches before).flatten := readLoop_read_timedOut h.awaited
  rw [h.split, batches_append_of_timedOut h.awaited, batches_append_of_timedOut h.awaited, hbefore]
  simp [batches, h.read]

/-- A batch without a fatal record is read as a whole. Behind it the wait goes on, unless a stop behind the `^running`
has completed it. -/
theorem RunningArrives.readPoll (h : RunningArrives token polls before p after batch)
    (hcalm : batch.all (!·.isFatal) = true) :
    ∃ st, st.read = (readLoop token {} before).1.read ++ batch ∧
      st.lastAliveCheckMs = p.checkedMs (readLoop token {} before).1.lastAliveCheckMs ∧
      (st.complete = true ↔ foreign token (laterStops token batch) ≠ []) ∧
      GdbMcp.readPoll token (readLoop token {} before).1 p = (st, if st.complete then some .completed else none) := by
  have htracks := readLoop_tracks token before
  generalize hst₀ : (readLoop token {} before).1 = st₀ at htracks ⊢
  have hwhole : batch.takeWhile (!·.isFatal) = batch := List.takeWhile_eq_self_iff.mpr (by simpa using hcalm)
  have hfind : batch.find? MiRecord.isFatal = none := by simpa using hcalm
  have hread : ((st₀.checked p).readBatch token batch).1.read = st₀.read ++ batch := by
    rw [readBatch_read, checked_read, hwhole]
  refine ⟨((st₀.checked p).readBatch token batch).1, hread, ?_, ?_, ?_⟩
  · rw [readBatch_lastAliveCheckMs, checked_lastAliveCheckMs]
  · have htracked : Tracks token ((st₀.checked p).readBatch token batch).1 := by
      rw [readBatch_eq]
      exact List.foldlRecOn _ _ (htracks.checked p) fun st hst r _ => hst.handle r
    have honly : OnlyRuns token (st₀.read ++ batch) := by
      rw [← hst₀]
      exact h.onlyRuns fun r hr => h.batches_eq.2 ▸ List.mem_append_left _ hr
    have hany : (st₀.read ++ batch).any (·.isResultOf token) = true := by
      obtain ⟨r, hmem, hrunning⟩ := List.any_eq_true.mp h.arrives
      exact List.any_eq_true.mpr ⟨r, List.mem_append_right _ hmem, (Bool.and_eq_true_iff.mp hrunning).1⟩
    rw [htracked.complete_iff, hread, foreign_answeredStops honly, runningAfter_of_onlyRuns honly, hany,
      laterStops_append (by rw [← hst₀]; exact h.earlier)]
    simp
  · rw [readPoll_of_batch (hst₀ ▸ h.alive) h.read, readBatch_eq, hfind]
    rfl

/-- A fatal record in the batch ends the wait. -/
theorem RunningArrives.readPoll_fatal (h : RunningArrives token polls before p after batch)
    (hfatal : batch.all (!·.isFatal) = false) :
    ∃ st error, GdbMcp.readPoll token (readLoop token {} before).1 p = (st, some (.fatal error)) := by
  rw [readPoll_of_batch h.alive h.read, readBatch_eq]
  cases hfind : batch.find? MiRecord.isFatal with
  | none =>
      have hcalm : batch.all (!·.isFatal) = true := by simpa using hfind
      exact nomatch hfatal.symm.trans hcalm
  | some r => exact ⟨_, _, rfl⟩

/-- The wait reads nothing behind the batch of its `^running`, and does not fail, just when a stop behind the `^running`
completes it or nothing follows. -/
theorem RunningArrives.reads_iff (h : RunningArrives token polls before p after batch) :
    (readLoop token {} polls).1.read = (batches (before ++ [p])).flatten ∧
        ((readLoop token {} polls).2 = .completed ∨ (readLoop token {} polls).2 = .timedOut) ↔
      batch.all (!·.isFatal) = true ∧ (foreign token (laterStops token batch) ≠ [] ∨
        ReadsNothing (p.checkedMs (readLoop token {} before).1.lastAliveCheckMs) after) := by
  have hloop : readLoop token {} polls = readLoop token (readLoop token {} before).1 (p :: after) := by
    rw [h.split]
    exact readLoop_snoc (Prod.ext rfl h.awaited) after
  rw [hloop, h.batches_eq.1]
  cases hcalm : batch.all (!·.isFatal) with
  | false =>
      obtain ⟨st, error, hpoll⟩ := h.readPoll_fatal hcalm
      simp [readLoop, hpoll]
  | true =>
      obtain ⟨st, hread, hchecked, hcomplete, hpoll⟩ := h.readPoll hcalm
      rw [readLoop, hpoll, ← hcomplete, ← hread, ← hchecked]
      cases hdone : st.complete with
      | true => simp
      | false =>
          have hsilent := @pauses_iff_readsNothing token st after hdone
          simp only [Bool.false_eq_true, if_false, false_or, true_and]
          exact hsilent

end Arrival

end GdbMcp
