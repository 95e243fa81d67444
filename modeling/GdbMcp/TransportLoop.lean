import GdbMcp.TransportClient

/-! Rules for the wait for a command's result: an invariant of the single record is one of the whole
wait, and records whose handling changes nothing that matters can be erased from the stream. -/

namespace GdbMcp

namespace ReadState

variable {token : Nat}

theorem readBatch_eq (token : Nat) (st : ReadState) (batch : List MiRecord) :
    st.readBatch token batch =
      ((batch.takeWhile fun r => !r.isFatal).foldl (handle token) st,
        (batch.find? MiRecord.isFatal).map MiRecord.payload) := by
  induction batch generalizing st with
  | nil => rfl
  | cons r rest ih =>
      rw [readBatch]
      by_cases hfatal : r.isFatal <;> simp [hfatal, ih]

@[simp] theorem checked_complete (st : ReadState) (p : Poll) : (st.checked p).complete = st.complete := by
  unfold checked
  split <;> rfl

/-- Everything but the time of the last liveness check is left as it was by that check. -/
theorem checked_cases {P : ReadState → Prop} (st : ReadState) (p : Poll)
    (hP : ∀ ms, P { st with lastAliveCheckMs := ms }) : P (st.checked p) := by
  unfold checked
  split
  · exact hP _
  · exact hP st.lastAliveCheckMs

end ReadState

open ReadState

theorem endBatch_fst (x : ReadState × Option Value) : (endBatch x).1 = x.1 := by
  rcases x with ⟨st, _ | payload⟩ <;> rfl

theorem endBatch_completed {x : ReadState × Option Value} (h : (endBatch x).2 = some .completed) :
    x.1.complete = true := by
  rcases x with ⟨st, _ | payload⟩ <;> simp_all [endBatch]

theorem readPoll_of_batch {token : Nat} {st : ReadState} {p : Poll} {batch : List MiRecord}
    (hexit : p.findsExit st.lastAliveCheckMs = false) (hread : p.read = .ok batch) :
    readPoll token st p = endBatch ((st.checked p).readBatch token batch) := by
  simp [readPoll, hexit, hread]

/-- How one iteration goes: it ends without looking at a batch, or it handles one. -/
theorem readPoll_cases (token : Nat) (st : ReadState) (p : Poll) :
    (∃ ending, (readPoll token st p).2 = some ending ∧ ending ≠ .completed ∧ ending ≠ .timedOut ∧
      ((readPoll token st p).1 = st ∨ (readPoll token st p).1 = st.checked p)) ∨
    (p.findsExit st.lastAliveCheckMs = false ∧ ∃ batch, p.read = .ok batch ∧
      readPoll token st p = endBatch ((st.checked p).readBatch token batch)) := by
  unfold readPoll
  by_cases hexit : p.findsExit st.lastAliveCheckMs
  · exact .inl ⟨.fatal (exitDetails p.elapsedMs p.status), by simp [hexit]⟩
  · rcases hread : p.read with e | batch
    · left
      cases e <;> simp [hexit]
    · have hexit : p.findsExit st.lastAliveCheckMs = false := by simpa using hexit
      exact .inr ⟨hexit, batch, rfl, by simp [hexit]⟩

section Invariants

variable {token : Nat} {I : ReadState → Prop}

theorem readPoll_invariant (hchecked : ∀ st p, I st → I (st.checked p))
    (hhandle : ∀ st r, I st → I (st.handle token r)) {st : ReadState} (hI : I st) (p : Poll) :
    I (readPoll token st p).1 := by
  rcases readPoll_cases token st p with ⟨_, -, -, -, h | h⟩ | ⟨-, batch, -, h⟩
  · rwa [h]
  · rw [h]
    exact hchecked st p hI
  · have hbatch : I ((st.checked p).readBatch token batch).1 := by
      rw [readBatch_eq]
      exact List.foldlRecOn _ _ (hchecked st p hI) fun st hst r _ => hhandle st r hst
    rwa [h, endBatch_fst]

/-- What every handled record keeps holds of every wait. -/
theorem readLoop_invariant (hchecked : ∀ st p, I st → I (st.checked p))
    (hhandle : ∀ st r, I st → I (st.handle token r)) {st : ReadState} (hI : I st) (polls : List Poll) :
    I (readLoop token st polls).1 := by
  induction polls generalizing st with
  | nil => exact hI
  | cons p rest ih =>
      have hpoll := readPoll_invariant hchecked hhandle hI p
      rw [readLoop]
      split
      · rename_i h
        rwa [h] at hpoll
      · rename_i h
        rw [h] at hpoll
        exact ih hpoll

end Invariants

theorem readPoll_completed {token : Nat} {st : ReadState} {p : Poll}
    (h : (readPoll token st p).2 = some .completed) : (readPoll token st p).1.complete = true := by
  rcases readPoll_cases token st p with ⟨ending, hend, hne, -, -⟩ | ⟨-, batch, -, heq⟩
  · simp_all
  · rw [heq] at h ⊢
    rw [endBatch_fst]
    exact endBatch_completed h

theorem readLoop_completed {token : Nat} {st : ReadState} {polls : List Poll}
    (h : (readLoop token st polls).2 = .completed) : (readLoop token st polls).1.complete = true := by
  induction polls generalizing st with
  | nil => simp [readLoop] at h
  | cons p rest ih =>
      rw [readLoop] at h ⊢
      split at h
      · rename_i hpoll
        have := @readPoll_completed token st p
        simp_all
      · exact ih h

/-! ### Erasing records

A filter with a memory of its own goes over the stream. The wait on the filtered stream ends as the
wait on the whole one does when the records left out change nothing that the relation sees. -/

structure Eraser (S : Type) where
  keep : S → MiRecord → Bool
  next : S → MiRecord → S

namespace Eraser

variable {S : Type} (f : Eraser S)

def batch : S → List MiRecord → List MiRecord
  | _, [] => []
  | s, r :: rest => if f.keep s r then r :: batch (f.next s r) rest else batch (f.next s r) rest

def polls : S → List Poll → List Poll
  | _, [] => []
  | s, p :: rest =>
    match p.read with
    | .error _ => p :: polls s rest
    | .ok records => { p with read := .ok (f.batch s records) } :: polls (records.foldl f.next s) rest

/-- A relation between the wait on the whole stream and the wait on the filtered one. -/
structure Simulation (token : Nat) (R : S → ReadState → ReadState → Prop) : Prop where
  complete : ∀ {s st st'}, R s st st' → st'.complete = st.complete
  lastAliveCheckMs : ∀ {s st st'}, R s st st' → st'.lastAliveCheckMs = st.lastAliveCheckMs
  checked : ∀ {s st st'} p, R s st st' → R s (st.checked p) (st'.checked p)
  kept : ∀ {s st st'} r, R s st st' → f.keep s r = true →
    R (f.next s r) (st.handle token r) (st'.handle token r)
  erased : ∀ {s st st'} r, R s st st' → f.keep s r = false →
    r.isFatal = false ∧ R (f.next s r) (st.handle token r) st'

variable {f} {token : Nat} {R : S → ReadState → ReadState → Prop}

theorem Simulation.readBatch (hsim : f.Simulation token R) {s : S} {st st' : ReadState}
    (hR : R s st st') (records : List MiRecord) :
    (st'.readBatch token (f.batch s records)).2 = (st.readBatch token records).2 ∧
      ∃ s', ((st.readBatch token records).2 = none → s' = records.foldl f.next s) ∧
        R s' (st.readBatch token records).1 (st'.readBatch token (f.batch s records)).1 := by
  induction records generalizing s st st' with
  | nil => exact ⟨rfl, s, fun _ => rfl, hR⟩
  | cons r rest ih =>
      by_cases hkeep : f.keep s r = true
      · by_cases hfatal : r.isFatal = true
        · simp only [batch, hkeep, if_true, ReadState.readBatch, hfatal]
          exact ⟨trivial, s, fun h => by simp at h, hR⟩
        · simp only [batch, hkeep, if_true, ReadState.readBatch, hfatal]
          exact ih (hsim.kept r hR hkeep)
      · have hkeep : f.keep s r = false := by simpa using hkeep
        obtain ⟨hfatal, hR'⟩ := hsim.erased r hR hkeep
        simp only [batch, hkeep, ReadState.readBatch, hfatal, Bool.false_eq_true, if_false]
        exact ih hR'

/-- One iteration ends alike on both streams; where it does not end, the relation holds again. -/
theorem Simulation.readPoll (hsim : f.Simulation token R) {s : S} {st st' : ReadState}
    (hR : R s st st') (p : Poll) (rest : List Poll) :
    ∃ p' s', f.polls s (p :: rest) = p' :: f.polls s' rest ∧
      (GdbMcp.readPoll token st' p').2 = (GdbMcp.readPoll token st p).2 ∧
      ∃ s'', ((GdbMcp.readPoll token st p).2 = none → s'' = s') ∧
        R s'' (GdbMcp.readPoll token st p).1 (GdbMcp.readPoll token st' p').1 := by
  have hlast := hsim.lastAliveCheckMs hR
  have hchecked := hsim.checked p hR
  rcases hread : p.read with e | records
  · refine ⟨p, s, by simp [polls, hread], ?_⟩
    cases hexit : p.findsExit st.lastAliveCheckMs with
    | true =>
        simp only [GdbMcp.readPoll, hlast, hexit, if_true]
        exact ⟨trivial, s, fun _ => rfl, hR⟩
    | false =>
        cases e <;> simp only [GdbMcp.readPoll, hlast, hexit, hread, Bool.false_eq_true, if_false] <;>
          exact ⟨trivial, s, fun _ => rfl, hchecked⟩
  · refine ⟨{ p with read := .ok (f.batch s records) }, records.foldl f.next s,
      by simp [polls, hread], ?_⟩
    have hexitEq : Poll.findsExit { p with read := .ok (f.batch s records) } st'.lastAliveCheckMs =
        p.findsExit st.lastAliveCheckMs := by rw [hlast]; rfl
    have hcheckedEq : st'.checked { p with read := .ok (f.batch s records) } = st'.checked p := rfl
    cases hexit : p.findsExit st.lastAliveCheckMs with
    | true =>
        simp only [GdbMcp.readPoll, hexitEq, hexit, if_true]
        exact ⟨trivial, s, fun h => by simp at h, hR⟩
    | false =>
        obtain ⟨hend, s', hs', hbatch⟩ := hsim.readBatch hchecked records
        simp only [GdbMcp.readPoll, hexitEq, hexit, hcheckedEq, hread, Bool.false_eq_true, if_false,
          endBatch_fst]
        rcases hrun : (st.checked p).readBatch token records with ⟨t, _ | payload⟩ <;>
          rcases hrun' : (st'.checked p).readBatch token (f.batch s records) with ⟨t', ending⟩ <;>
          rw [hrun, hrun'] at hend hbatch
        · obtain rfl : ending = none := hend
          refine ⟨?_, s', fun _ => hs' (by rw [hrun]), hbatch⟩
          simp only [endBatch, hsim.complete hbatch]
        · obtain rfl : ending = some payload := hend
          exact ⟨rfl, s', fun h => by simp [endBatch] at h, hbatch⟩

theorem Simulation.readLoop (hsim : f.Simulation token R) {s : S} {st st' : ReadState}
    (hR : R s st st') (ps : List Poll) :
    (GdbMcp.readLoop token st' (f.polls s ps)).2 = (GdbMcp.readLoop token st ps).2 ∧
      ∃ s', R s' (GdbMcp.readLoop token st ps).1 (GdbMcp.readLoop token st' (f.polls s ps)).1 := by
  induction ps generalizing s st st' with
  | nil => exact ⟨rfl, s, hR⟩
  | cons p rest ih =>
      obtain ⟨p', s', hpolls, hend, s'', hs'', hR'⟩ := hsim.readPoll hR p rest
      rw [hpolls, GdbMcp.readLoop, GdbMcp.readLoop]
      rcases hrun : GdbMcp.readPoll token st p with ⟨t, _ | ending⟩ <;>
        rcases hrun' : GdbMcp.readPoll token st' p' with ⟨t', ending'⟩ <;>
        rw [hrun, hrun'] at hend hR'
      · obtain rfl : ending' = none := hend
        obtain rfl := hs'' (by rw [hrun])
        exact ih hR'
      · obtain rfl : ending' = some ending := hend
        exact ⟨rfl, s'', hR'⟩

end Eraser
end GdbMcp
