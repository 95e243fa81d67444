import GdbMcp.TransportClient

/-! The wait for a stop, in terms of the batches that it reads. What stands behind the stop in its own
batch has been taken from the debugger and reaches nobody. -/

namespace GdbMcp

/-- The records of a batch behind its first stop. -/
def behindStop (batch : List MiRecord) : List MiRecord := (batch.dropWhile fun r => !r.isStop).tail

/-- The batches up to the first read that raises. -/
def batches : List Poll → List (List MiRecord)
  | [] => []
  | p :: rest =>
    match p.read with
    | .ok batch => batch :: batches rest
    | .error _ => []

/-- The records behind the first stop, in the batch of the stop. -/
def behindFirstStop (polls : List Poll) : List MiRecord :=
  ((batches polls).find? fun batch => batch.any MiRecord.isStop).elim [] behindStop

/-- A read raises an exception that the client does not handle, and no stop comes before it. -/
def raises : List Poll → Bool
  | [] => false
  | p :: rest =>
    match p.read with
    | .ok batch => !batch.any MiRecord.isStop && raises rest
    | .error (.osError _) => false
    | .error _ => true

/-- No record stands behind the first stop in its batch, and no record before a read that raises. -/
structure Undivided (polls : List Poll) : Prop where
  stop : behindFirstStop polls = []
  raised : raises polls = true → (batches polls).flatten = []

/-- Before a read that raises there is no stop. -/
theorem behindFirstStop_of_raises {polls : List Poll} (h : raises polls = true) : behindFirstStop polls = [] := by
  induction polls with
  | nil => rfl
  | cons p rest ih =>
      rw [raises] at h
      rcases hread : p.read with e | batch
      · simp [behindFirstStop, batches, hread]
      · obtain ⟨hany, hrest⟩ : batch.any MiRecord.isStop = false ∧ raises rest = true := by simpa [hread] using h
        simpa [behindFirstStop, batches, hread, hany] using ih hrest

/-- The end of a wait whose controller is not torn down. -/
def ReadEnd.survives : ReadEnd → Bool
  | .fatal _ => false
  | _ => true

/-- No record is a stop. -/
def Stopless (records : List MiRecord) : Prop := ∀ r ∈ records, r.isStop = false

theorem any_isStop_of_stopless {records : List MiRecord} (h : Stopless records) :
    records.any MiRecord.isStop = false := by
  simpa [Stopless] using h

theorem behindStop_append {quiet : List MiRecord} (hquiet : Stopless quiet) {r : MiRecord} (hstop : r.isStop = true)
    (rest : List MiRecord) : behindStop (quiet ++ r :: rest) = rest := by
  induction quiet with
  | nil => simp [behindStop, hstop]
  | cons q quiet ih =>
      obtain ⟨hq, hrest⟩ := List.forall_mem_cons.mp hquiet
      have hskip : behindStop (q :: (quiet ++ r :: rest)) = behindStop (quiet ++ r :: rest) := by simp [behindStop, hq]
      exact hskip.trans (ih hrest)

/-- A batch is fatal, or ends the wait at its first stop, or is taken as a whole. -/
theorem waitBatch_cases (responses batch : List MiRecord) :
    (∃ e, (waitBatch responses batch).2 = some (.fatal e)) ∨
    (∃ quiet r rest, batch = quiet ++ r :: rest ∧ Stopless quiet ∧ r.isStop = true ∧
      waitBatch responses batch = (responses ++ quiet ++ [r], some .completed)) ∨
    (Stopless batch ∧ waitBatch responses batch = (responses ++ batch, none)) := by
  induction batch generalizing responses with
  | nil => exact .inr (.inr ⟨fun _ hr => (nomatch hr), by simp [waitBatch]⟩)
  | cons r rest ih =>
      rw [waitBatch]
      by_cases hfatal : r.isFatal = true
      · exact .inl ⟨fatalMessage r.payload, by simp [hfatal]⟩
      rw [if_neg hfatal]
      by_cases hstop : r.isStop = true
      · exact .inr (.inl ⟨[], r, rest, rfl, fun _ hr => (nomatch hr), hstop, by simp [hstop]⟩)
      rw [if_neg hstop]
      have hr : r.isStop = false := by simpa using hstop
      rcases ih (responses ++ [r]) with hrest | ⟨quiet, q, after, rfl, hquiet, hq, hrest⟩ | ⟨hquiet, hrest⟩
      · exact .inl hrest
      · exact .inr (.inl ⟨r :: quiet, q, after, rfl, List.forall_mem_cons.mpr ⟨hr, hquiet⟩, hq, by simp [hrest]⟩)
      · exact .inr (.inr ⟨List.forall_mem_cons.mpr ⟨hr, hquiet⟩, by simp [hrest]⟩)

/-- The end of a wait that is not fatal: what it has read, whether it raises, and the stop that ends it. -/
structure Ends (st : WaitState) (polls : List Poll) (st' : WaitState) (ending : ReadEnd) : Prop where
  read : st'.read = st'.commandResponses ++ behindFirstStop polls
  raises_iff : raises polls = true ↔ ∃ e, ending = .raised e
  raised : raises polls = true → st'.read = st.read ++ (batches polls).flatten
  completed : ending = .completed →
    ∃ quiet r, st'.commandResponses = st.commandResponses ++ quiet ++ [r] ∧ Stopless quiet ∧ r.isStop = true
  timedOut : ending = .timedOut →
    ∃ quiet, st'.commandResponses = st.commandResponses ++ quiet ∧ Stopless quiet

theorem waitLoop_ends {st st' : WaitState} {polls : List Poll} {ending : ReadEnd}
    (h : waitLoop st polls = (st', ending)) (hends : ending.survives = true)
    (hst : st.read = st.commandResponses) : Ends st polls st' ending := by
  induction polls generalizing st with
  | nil =>
      obtain ⟨rfl, rfl⟩ := Prod.mk.inj h
      exact ⟨by simpa [behindFirstStop, batches] using hst, by simp [raises], by simp [raises],
        fun hend => (nomatch hend), fun _ => ⟨[], by simp, fun _ hr => (nomatch hr)⟩⟩
  | cons p rest ih =>
      rw [waitLoop] at h
      rcases hread : p.read with e | batch
      · simp only [hread] at h
        have hnone : behindFirstStop (p :: rest) = [] := by simp [behindFirstStop, batches, hread]
        cases e with
        | osError m =>
            obtain ⟨-, rfl⟩ := Prod.mk.inj h
            exact nomatch hends
        | _ =>
            obtain ⟨rfl, rfl⟩ := Prod.mk.inj h
            exact ⟨by simpa [hnone] using hst, by simp [raises, hread], by simp [batches, hread],
              fun hend => (nomatch hend), fun hend => (nomatch hend)⟩
      · simp only [hread] at h
        rcases waitBatch_cases st.commandResponses batch with ⟨e, hbatch⟩ |
          ⟨quiet, r, after, rfl, hquiet, hstop, hbatch⟩ | ⟨hquiet, hbatch⟩
        · rcases hrun : waitBatch st.commandResponses batch with ⟨responses, ending'⟩
          obtain rfl : ending' = some (.fatal e) := by rw [← hbatch, hrun]
          simp only [hrun] at h
          obtain ⟨-, rfl⟩ := Prod.mk.inj h
          exact nomatch hends
        · simp only [hbatch] at h
          obtain ⟨rfl, rfl⟩ := Prod.mk.inj h
          have hfirst : behindFirstStop (p :: rest) = after := by
            simp [behindFirstStop, batches, hread, hstop, behindStop_append hquiet hstop]
          exact ⟨by simp [hfirst, hst], by simp [raises, hread, hstop], by simp [raises, hread, hstop],
            fun _ => ⟨quiet, r, rfl, hquiet, hstop⟩, fun hend => (nomatch hend)⟩
        · simp only [hbatch] at h
          have hany := any_isStop_of_stopless hquiet
          have hnext : behindFirstStop (p :: rest) = behindFirstStop rest := by
            simp [behindFirstStop, batches, hread, hany]
          have hraises : raises (p :: rest) = raises rest := by simp [raises, hread, hany]
          obtain ⟨hall, hiff, hraised, hcompleted, htimedOut⟩ := ih h (by simp [hst])
          refine ⟨hnext ▸ hall, hraises ▸ hiff, fun hr => ?_, fun hend => ?_, fun hend => ?_⟩
          · simp [batches, hread, hraised (hraises ▸ hr)]
          · obtain ⟨quiet, r, hresponses, hrest, hstop⟩ := hcompleted hend
            exact ⟨batch ++ quiet, r, by simp [hresponses], List.forall_mem_append.mpr ⟨hquiet, hrest⟩, hstop⟩
          · obtain ⟨quiet, hresponses, hrest⟩ := htimedOut hend
            exact ⟨batch ++ quiet, by simp [hresponses], List.forall_mem_append.mpr ⟨hquiet, hrest⟩⟩

end GdbMcp
