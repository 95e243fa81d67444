import GdbMcp.RunnerStops
import GdbMcp.TransportResponses

/-! Debuggers that answer every command in one batch: the records of the command and then its result. What the runner
makes of such an answer. -/

namespace GdbMcp

open Eff Completion ReadState

/-! ### The console output of a response -/

/-- The console records that a wait does not put aside. -/
def heardConsole (token : Nat) (records : List MiRecord) : List MiRecord :=
  records.filter fun r => r.type == .console && (r.token == some token || r.token == none)

/-- The console records of the responses are those that are heard. -/
def ReadState.HoldsConsole (token : Nat) (st : ReadState) : Prop :=
  st.commandResponses.filter (·.type == .console) = heardConsole token st.read

theorem handle_console (token : Nat) (st : ReadState) (r : MiRecord) :
    (st.handle token r).commandResponses.filter (·.type == .console) =
      st.commandResponses.filter (·.type == .console) ++ heardConsole token [r] := by
  unfold ReadState.handle classify respond heardConsole
  split_ifs <;> simp_all [List.filter_cons]
  grind

theorem readLoop_console (token : Nat) (polls : List Poll) : (readLoop token {} polls).1.HoldsConsole token := by
  refine readLoop_invariant (I := HoldsConsole token) (fun st p hst => ?_) (fun st r hst => ?_) (by rfl) polls
  · exact checked_cases (P := HoldsConsole token) st p fun _ => hst
  · rw [HoldsConsole, handle_console, hst, handle_read]
    exact (List.filter_append _ _).symm

theorem console_parseMiResponses (records : List MiRecord) :
    (parseMiResponses records).console = (records.filter (·.type == .console)).map MiRecord.payload := by
  induction records using List.reverseRecOn with
  | nil => rfl
  | append_singleton records r ih =>
      rw [parseMiResponses, List.foldl_append, List.filter_append]
      cases htype : r.type <;> simp_all [ParsedMiResponse.add, parseMiResponses]

/-! ### The wait for an answer -/

section Wait

variable {token : Nat} {others : List MiRecord} {result : MiRecord}

/-- One batch that ends with the own result completes the wait, if that result is not `^running`. -/
theorem readLoop_answered (hothers : ∀ r ∈ others, r.isFatal = false) (hresult : result.isResultOf token = true)
    (hmessage : result.message ≠ some "running") :
    (readLoop token {} [{ read := .ok (others ++ [result]) }]).2 = .completed ∧
      (readLoop token {} [{ read := .ok (others ++ [result]) }]).1.read = others ++ [result] := by
  have hresultPlain : result.isFatal = false := by
    simp only [MiRecord.isResultOf, Bool.and_eq_true, beq_iff_eq] at hresult
    simp [MiRecord.isFatal, hresult.1]
  have hfatal : ∀ r ∈ others ++ [result], (!r.isFatal) = true := by
    simp only [List.forall_mem_append, List.forall_mem_singleton, hresultPlain, Bool.not_false, and_true]
    exact fun r hr => by rw [hothers r hr]; rfl
  have htracks := readLoop_tracks token [{ read := .ok (others ++ [result]) }]
  have hread := readBatch_read token {} (others ++ [result])
  rw [List.takeWhile_eq_self_iff.mpr hfatal] at hread
  have hnone : ((({} : ReadState).readBatch token (others ++ [result])).2) = none := by
    rw [readBatch_eq, Option.map_eq_none_iff, List.find?_eq_none]
    exact fun r hr => by simpa using hfatal r hr
  have hpoll : readPoll token {} { read := .ok (others ++ [result]) } =
      ReadState.endBatch (({} : ReadState).readBatch token (others ++ [result])) := rfl
  rcases hbatch : ({} : ReadState).readBatch token (others ++ [result]) with ⟨st, payload⟩
  rw [hbatch] at hread hnone hpoll
  obtain rfl : payload = none := hnone
  have hloop : (readLoop token {} [{ read := .ok (others ++ [result]) }]).1 = st := by
    rw [readLoop, hpoll, ReadState.endBatch]
    cases st.complete <;> rfl
  have hcomplete : st.complete = true := by
    rw [hloop] at htracks
    rw [htracks.complete_iff, show st.read = others ++ [result] from hread, runningAfter_append]
    refine ⟨by simp [hresult], fun hrunning => absurd ?_ hmessage⟩
    simpa [runningAfter, hresult] using hrunning
  refine ⟨?_, hloop ▸ hread⟩
  rw [readLoop, hpoll, ReadState.endBatch, hcomplete]
  rfl

/-- The response of such a wait has the class and the payload of the result, and the news of the records before it. -/
theorem parseResponse_answered (hothers : ∀ r ∈ others, r.type ≠ .result) (hresult : result.isResultOf token = true)
    {st : ReadState} (hst : Sorts token st) (hread : st.read = others ++ [result]) :
    let parsed := Session.parseResponse
      { commandResponses := st.commandResponses, asyncNotifications := st.asyncNotifications }
    parsed.resultClass = result.message ∧ parsed.result = result.payload ∧
      ∀ n ∈ parsed.notify, ∃ r ∈ others, r.notification = some n := by
  have htype : result.type = .result := by
    simp only [MiRecord.isResultOf, Bool.and_eq_true, beq_iff_eq] at hresult
    exact hresult.1
  have hresults : st.commandResponses.filter (·.type == .result) = [result] := by
    have hnone : heardResults token others = [] := by
      rw [heardResults, List.filter_eq_nil_iff]
      exact fun r hr => by simp [hothers r hr]
    have hone : heardResults token [result] = [result] := by
      simp only [MiRecord.isResultOf] at hresult
      simp_all [heardResults]
    rw [hst.results, hread, heardResults, List.filter_append]
    change heardResults token others ++ heardResults token [result] = _
    rw [hnone, hone]
    rfl
  have hclass := result_parseMiResponses st.commandResponses
  rw [hresults] at hclass
  refine ⟨hclass.1, hclass.2, fun n hn => ?_⟩
  obtain ⟨r, hr, hnotify⟩ := mem_notify_parseResponse hn
  rw [hst.perm.mem_iff, hread] at hr
  rcases List.mem_append.mp hr with hr | hr
  · exact ⟨r, hr, hnotify⟩
  · obtain rfl := List.mem_singleton.mp hr
    cases htype.symm.trans (notification_eq_some hnotify).1

/-- The console output of a response is the text of the console records. -/
theorem console_answered (hothers : ∀ r ∈ others, r.type = .console → r.token = none)
    (hresult : result.isResultOf token = true)
    {st : ReadState} (hst : HoldsConsole token st) (hread : st.read = others ++ [result]) :
    (Session.parseResponse
      { commandResponses := st.commandResponses, asyncNotifications := st.asyncNotifications }).console =
      (others.filter (·.type == .console)).map MiRecord.payload := by
  have hown : heardConsole token [result] = [] := by
    simp only [MiRecord.isResultOf, Bool.and_eq_true, beq_iff_eq] at hresult
    simp [heardConsole, hresult.1]
  have hheard : heardConsole token others = others.filter (·.type == .console) := by
    refine List.filter_congr fun r hr => ?_
    cases htype : r.type == .console
    · rfl
    · simp [hothers r hr (by simpa using htype)]
  show (parseMiResponses st.commandResponses).console = _
  rw [console_parseMiResponses, hst, hread, ← hheard, heardConsole, List.filter_append]
  change List.map _ (heardConsole token others ++ heardConsole token [result]) = _
  rw [hown, List.append_nil]

end Wait

end GdbMcp
