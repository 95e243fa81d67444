import GdbMcp.TransportCompletion

/-! How a wait sorts the records that it reads into the two lists of its response. -/

namespace GdbMcp

open Completion ReadState

/-- The stops that a wait puts behind the responses: those without the own token that are read while the
last own result is not `^running`. -/
def passedStops (token : Nat) : Bool → List MiRecord → List MiRecord
  | _, [] => []
  | running, r :: rest =>
    if r.isResultOf token then passedStops token (r.message == some "running") rest
    else if r.isStop && !(running || r.token == some token) then r :: passedStops token running rest
    else passedStops token running rest

/-- The result records that a wait does not put aside. -/
def heardResults (token : Nat) (records : List MiRecord) : List MiRecord :=
  records.filter fun r => r.type == .result && (r.token == some token || r.token == none)

section Lists

variable (token : Nat)

theorem passedStops_append (running : Bool) (xs ys : List MiRecord) :
    passedStops token running (xs ++ ys) =
      passedStops token running xs ++ passedStops token (runningAfter token running xs) ys := by
  induction xs generalizing running with
  | nil => rfl
  | cons r rest ih =>
      simp only [List.cons_append, passedStops, runningAfter]
      split_ifs <;> simp [ih]

/-- The two lists of a response, in terms of the records read. -/
structure Sorts (st : ReadState) : Prop extends Tracks token st where
  perm : (st.commandResponses ++ st.asyncNotifications).Perm st.read
  passed : stops st.asyncNotifications = passedStops token false st.read
  results : st.commandResponses.filter (·.type == .result) = heardResults token st.read

theorem handle_passed (st : ReadState) (r : MiRecord) : stops (st.handle token r).asyncNotifications =
    stops st.asyncNotifications ++ passedStops token st.running [r] := by
  unfold ReadState.handle classify respond ReadState.running
  simp only [passedStops, MiRecord.isResultOf]
  split_ifs <;> simp_all [stops, MiRecord.isStop, List.filter_cons]
  grind

theorem handle_results (st : ReadState) (r : MiRecord) :
    (st.handle token r).commandResponses.filter (·.type == .result) =
      st.commandResponses.filter (·.type == .result) ++ heardResults token [r] := by
  unfold ReadState.handle classify respond
  split_ifs <;> simp_all [heardResults, List.filter_cons]
  grind

theorem handle_perm (st : ReadState) (r : MiRecord) :
    ((st.handle token r).commandResponses ++ (st.handle token r).asyncNotifications).Perm
      (st.commandResponses ++ st.asyncNotifications ++ [r]) := by
  have hbehind : (st.commandResponses ++ [r] ++ st.asyncNotifications).Perm
      (st.commandResponses ++ st.asyncNotifications ++ [r]) := by
    rw [List.append_assoc, List.append_assoc]
    exact List.perm_append_comm.append_left _
  unfold ReadState.handle classify respond
  split_ifs
  iterate 4 exact hbehind
  rw [List.append_assoc]

theorem readLoop_sorts (polls : List Poll) : Sorts token (readLoop token {} polls).1 := by
  refine readLoop_invariant (I := Sorts token) (fun st p hst => ?_) (fun st r hst => ?_) ?_ polls
  · exact checked_cases (P := Sorts token) st p fun _ =>
      ⟨⟨hst.result, hst.running, hst.stop, hst.responses⟩, hst.perm, hst.passed, hst.results⟩
  · refine ⟨hst.toTracks.handle r, ?_, ?_, ?_⟩
    · rw [handle_read]
      exact (handle_perm token st r).trans (hst.perm.append_right [r])
    · rw [handle_passed, hst.passed, handle_read, passedStops_append, ← hst.running]
    · rw [handle_results, hst.results, handle_read, heardResults, heardResults, heardResults,
        List.filter_append]
  · exact ⟨tracks_initial token, .refl _, rfl, rfl⟩

end Lists

/-- The stops in the order in which the runner sees them. -/
def seenStops (token : Nat) (records : List MiRecord) : List MiRecord :=
  answeredStops token false records ++ passedStops token false records

/-- Every stop is seen, in one of the two lists. -/
theorem seenStops_perm (token : Nat) (records : List MiRecord) :
    (seenStops token records).Perm (stops records) := by
  have hperm : ∀ running, (answeredStops token running records ++ passedStops token running records).Perm
      (stops records) := by
    induction records with
    | nil => exact fun _ => .refl _
    | cons r rest ih =>
        intro running
        simp only [stops] at ih
        simp only [answeredStops, passedStops, stops, List.filter_cons]
        by_cases hresult : r.isResultOf token = true
        · simpa [hresult, isStop_of_isResultOf hresult] using ih _
        · cases hstop : r.isStop with
          | false => simpa [hresult] using ih running
          | true =>
              cases hseen : running || r.token == some token with
              | true => simpa [hresult, hseen] using ih running
              | false =>
                  simp only [hresult, Bool.true_and, Bool.not_false, if_true, if_false, Bool.false_eq_true]
                  exact List.perm_middle.trans ((ih running).cons r)
  exact hperm false

end GdbMcp
