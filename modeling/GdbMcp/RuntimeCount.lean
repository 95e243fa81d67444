import GdbMcp.RuntimeSteps
import GdbMcp.SessionRun

/-! The inferior count beside the table of inferiors. Most mutators write the two together; a runtime that
becomes ready, or that selects an inferior without a valid number, adds a record and leaves the count. -/

namespace GdbMcp

/-- A count covers a table that is not empty if it is known and no smaller than the number of its keys. -/
def Covers (count : Option Int) (table : InferiorTable) : Prop :=
  table.keys ≠ [] → ∃ n, count = some n ∧ (table.keys.length : Int) ≤ n

theorem covers_empty (count : Option Int) : Covers count ∅ := fun h => absurd rfl h

theorem covers_iff_of_mem {count : Option Int} {table : InferiorTable} {k : Int} (hk : k ∈ table) :
    Covers count table ↔ (table.keys.length : Int) ≤ count.getD 0 := by
  have hne : table.keys ≠ [] := List.ne_nil_of_mem (AList.mem_keys.mp hk)
  have hpos : 0 < table.keys.length := List.length_pos_of_ne_nil hne
  constructor
  · intro h
    obtain ⟨n, rfl, hn⟩ := h hne
    exact hn
  · intro h _
    cases count with
    | none =>
        simp only [Option.getD_none] at h
        omega
    | some n => exact ⟨n, rfl, h⟩

/-- The number of records once inferior `k` has one. -/
def sizeWith (table : InferiorTable) (k : Int) : Nat :=
  if k ∈ table then table.keys.length else table.keys.length + 1

theorem length_keys_insert (table : InferiorTable) (k : Int) (state : InferiorRuntimeState) :
    (table.insert k state).keys.length = sizeWith table k := by
  rw [AList.keys_insert, List.length_cons, sizeWith]
  split
  · rename_i hk
    have hmem : k ∈ table.keys := AList.mem_keys.mp hk
    rw [List.length_erase_of_mem hmem]
    have hpos : 0 < table.keys.length := List.length_pos_of_mem hmem
    omega
  · rename_i hk
    rw [List.erase_of_not_mem fun hmem => hk (AList.mem_keys.mpr hmem)]

theorem covers_insert_iff (count : Option Int) (table : InferiorTable) (k : Int)
    (state : InferiorRuntimeState) :
    Covers count (table.insert k state) ↔ (sizeWith table k : Int) ≤ count.getD 0 := by
  rw [covers_iff_of_mem ((AList.mem_insert _).mpr (.inl rfl)), length_keys_insert]

/-- A count that has been raised to the size of the table covers it. -/
theorem covers_raised (count : Option Int) (table : InferiorTable) :
    Covers (some (max (count.getD 0) table.entries.length)) table := by
  intro _
  refine ⟨_, rfl, ?_⟩
  have hlength : table.keys.length = table.entries.length := List.length_map _
  rw [hlength]
  exact Int.le_max_right _ _

namespace SessionRuntime

/-- The count of the runtime covers its table. -/
def Counted (rt : SessionRuntime) : Prop := Covers rt.inferiorCount rt.inferiorStates

/-- A step leaves room in the count for the record that it adds. Only three mutators add a record without
raising the count. -/
def LeavesRoom (rt : SessionRuntime) : RuntimeStep → Prop
  | .mutate .markReady =>
    rt.currentInferiorId = none → (sizeWith rt.inferiorStates 1 : Int) ≤ rt.inferiorCount.getD 1
  | .mutate (.markInferiorSelected (some k)) =>
    k ≤ 0 → (sizeWith rt.inferiorStates k : Int) ≤ rt.inferiorCount.getD 0
  | .mutate (.updateInferiorInventory current count ids) =>
    ∀ k ≤ 0, rt.nextCurrent current ids = some k → (sizeWith (rt.listed ids) k : Int) ≤ count
  | _ => True

variable {rt : SessionRuntime}

theorem Counted.of_inventory {rt' : SessionRuntime} (h : rt.Counted) (heq : rt'.inventory = rt.inventory) :
    rt'.Counted := by
  obtain ⟨_, hcount, hstates⟩ : rt'.currentInferiorId = rt.currentInferiorId ∧
      rt'.inferiorCount = rt.inferiorCount ∧ rt'.inferiorStates = rt.inferiorStates := by
    simpa [inventory] using heq
  rw [Counted, hcount, hstates]
  exact h

theorem counted_raise (rt : SessionRuntime) : rt.raiseInferiorCount.Counted := covers_raised _ _

/-- A synchronization that finds the record of the current inferior adds none. -/
theorem Counted.synchronize (h : rt.Counted)
    (htracked : ∀ k, rt.currentInferiorId = some k → k ∈ rt.inferiorStates) :
    rt.synchronizeSelectedState.Counted := by
  unfold synchronizeSelectedState
  cases hcurrent : rt.currentInferiorId with
  | none => exact h
  | some k =>
      have hk := htracked k hcurrent
      refine (covers_insert_iff _ _ _ _).mpr ?_
      rw [sizeWith, if_pos hk]
      exact (covers_iff_of_mem hk).mp h

theorem counted_synchronize_iff {k : Int} (hcurrent : rt.currentInferiorId = some k) :
    rt.synchronizeSelectedState.Counted ↔ (sizeWith rt.inferiorStates k : Int) ≤ rt.inferiorCount.getD 0 := by
  unfold synchronizeSelectedState
  rw [hcurrent]
  exact covers_insert_iff _ _ _ _

theorem mem_ensureInferior {k : Int} (hk : 0 < k) : k ∈ (rt.ensureInferior k).inferiorStates := by
  unfold ensureInferior
  rw [if_neg (by omega)]
  exact (AList.mem_insert _).mpr (.inl rfl)

@[simp] theorem currentInferiorId_ensureInferior (rt : SessionRuntime) (k : Int) :
    (rt.ensureInferior k).currentInferiorId = rt.currentInferiorId := by
  unfold ensureInferior
  split <;> rfl

theorem counted_ensureInferior {k : Int} (hk : 0 < k) : (rt.ensureInferior k).Counted := by
  unfold ensureInferior
  rw [if_neg (by omega)]
  exact counted_raise _

/-- Ensuring the current inferior and synchronizing counts it if its number is valid; otherwise the count
has to leave room for it. -/
theorem counted_ensure_synchronize {k : Int} (hcurrent : rt.currentInferiorId = some k) :
    (rt.ensureInferior k).synchronizeSelectedState.Counted ↔
      (k ≤ 0 → (sizeWith rt.inferiorStates k : Int) ≤ rt.inferiorCount.getD 0) := by
  by_cases hk : k ≤ 0
  · have hsame : rt.ensureInferior k = rt := by
      unfold ensureInferior
      rw [if_pos hk]
    rw [hsame, counted_synchronize_iff hcurrent]
    exact ⟨fun h _ => h, fun h => h hk⟩
  · have hcounted : (rt.ensureInferior k).synchronizeSelectedState.Counted := by
      refine (counted_ensureInferior (by omega)).synchronize fun j hj => ?_
      rw [currentInferiorId_ensureInferior, hcurrent] at hj
      obtain rfl := Option.some.inj hj
      exact mem_ensureInferior (by omega)
    exact ⟨fun _ h => absurd h hk, fun _ => hcounted⟩

theorem currentTracked (hmirror : rt.Mirror) {k : Int} (hcurrent : rt.currentInferiorId = some k) :
    k ∈ rt.inferiorStates := by
  rw [← AList.lookup_isSome, hmirror.selected k hcurrent]
  rfl

theorem counted_updateInferiorState (rt : SessionRuntime) (k : Option Int) (state : InferiorRuntimeState) :
    (rt.updateInferiorState k state).Counted := by
  unfold updateInferiorState
  extract_lets target rt'
  have hrt' : rt'.Counted := counted_raise _
  split
  · exact hrt'.of_inventory rfl
  · exact hrt'

theorem counted_markReady_iff (hmirror : rt.Mirror) (hcounted : rt.Counted) :
    rt.markReady.Counted ↔ rt.LeavesRoom (.mutate .markReady) := by
  have hready : rt.markReady.Counted ↔
      (sizeWith rt.inferiorStates (rt.currentInferiorId.getD 1) : Int) ≤ rt.inferiorCount.getD 1 := by
    unfold markReady
    extract_lets current rt₁
    have hsize : sizeWith (if current ∈ rt.inferiorStates then rt.inferiorStates
        else rt.inferiorStates.insert current rt.selectedState) current = sizeWith rt.inferiorStates current := by
      split
      · rfl
      · rw [sizeWith, if_pos ((AList.mem_insert _).mpr (.inl rfl)), length_keys_insert]
    rw [← hsize]
    exact counted_synchronize_iff rfl
  rw [hready, LeavesRoom]
  cases hcurrent : rt.currentInferiorId with
  | none => exact ⟨fun h _ => h, fun h => h rfl⟩
  | some k =>
      have hk := currentTracked hmirror hcurrent
      obtain ⟨n, hn, hle⟩ := hcounted (List.ne_nil_of_mem (AList.mem_keys.mp hk))
      have hroom : (sizeWith rt.inferiorStates k : Int) ≤ rt.inferiorCount.getD 1 := by
        rw [sizeWith, if_pos hk, hn]
        exact hle
      exact ⟨fun _ hnone => (nomatch hnone), fun _ => hroom⟩

theorem counted_updateInferiorInventory_iff (current : Option Int) (count : Int) (ids : Option (List Int)) :
    (rt.updateInferiorInventory current count ids).Counted ↔
      rt.LeavesRoom (.mutate (.updateInferiorInventory current count ids)) := by
  unfold updateInferiorInventory
  extract_lets rt₁ rt₂
  have hcurrent : rt₂.currentInferiorId = rt.nextCurrent current ids := rfl
  rw [LeavesRoom, ← hcurrent]
  cases hnext : rt₂.currentInferiorId with
  | none =>
      have hempty : rt₂.inferiorStates.keys = [] := by
        rw [hcurrent, nextCurrent] at hnext
        cases current with
        | none => exact List.min?_eq_none_iff.mp hnext
        | some k => exact nomatch hnext
      have hcounted : rt₂.Counted := fun hne => absurd hempty hne
      refine ⟨fun _ k _ hk => (nomatch hk), fun _ => hcounted.synchronize fun k hk => ?_⟩
      rw [hnext] at hk
      exact nomatch hk
  | some k =>
      refine (counted_ensure_synchronize hnext).trans ⟨fun h j hj hsome => ?_, fun h hk => h k hk rfl⟩
      obtain rfl := Option.some.inj hsome
      exact h hj

theorem Counted.removeInferior (hmirror : rt.Mirror) (hcounted : rt.Counted) (k : Int) :
    (rt.removeInferior k).Counted := by
  unfold SessionRuntime.removeInferior
  split
  · rename_i hk
    have hcovers : Covers (some ((rt.inferiorStates.erase k).entries.length : Int)) (rt.inferiorStates.erase k) := by
      intro _
      have hlength : (rt.inferiorStates.erase k).keys.length = (rt.inferiorStates.erase k).entries.length :=
        List.length_map _
      exact ⟨_, rfl, Int.le_of_eq (congrArg Nat.cast hlength)⟩
    extract_lets rt₁ rt₂
    split
    · refine Counted.synchronize hcovers fun j hj => ?_
      exact AList.mem_keys.mpr (List.min?_mem hj)
    · rename_i hother
      refine Counted.synchronize hcovers fun j hj => ?_
      have hne : j ≠ k := fun heq => hother (heq ▸ hj)
      exact AList.mem_erase.mpr ⟨hne, currentTracked hmirror hj⟩
  · exact hcounted

/-- From a runtime whose count is right, a step leaves it right exactly if it leaves room in it. -/
theorem counted_take_iff (hmirror : rt.Mirror) (hcounted : rt.Counted) (step : RuntimeStep) :
    (rt.take step).Counted ↔ rt.LeavesRoom step := by
  have hkept : ∀ {rt' : SessionRuntime}, rt'.inventory = rt.inventory → (rt'.Counted ↔ True) :=
    fun h => iff_true_intro (hcounted.of_inventory h)
  cases step with
  | stop command fields timestamp =>
      rw [take, applyStop_eq]
      have hupdated := counted_updateInferiorState (rt.selectStop fields) (rt.stopInferior fields) (stopState fields)
      exact iff_true_intro (hupdated.of_inventory rfl)
  | client transport => exact hkept rfl
  | loaded targetLoaded => exact hkept rfl
  | probed disassembleA readMemoryBytes => exact hkept rfl
  | mutate m =>
      cases m with
      | beginStartup config => exact iff_true_intro (covers_empty _)
      | markFailed message => exact iff_true_intro (covers_empty _)
      | markTransportTerminated message => exact iff_true_intro (covers_empty _)
      | markStopped => exact iff_true_intro (covers_empty _)
      | markReady => exact counted_markReady_iff hmirror hcounted
      | markInferiorSelected k =>
          cases k with
          | none =>
              refine iff_true_intro (Counted.synchronize ?_ fun k hk => nomatch hk)
              exact hcounted
          | some k => exact counted_ensure_synchronize rfl
      | updateInferiorInventory current count ids => exact counted_updateInferiorInventory_iff current count ids
      | ensureInferior k =>
          by_cases hk : k ≤ 0
          · exact hkept (congrArg inventory (if_pos hk))
          · exact iff_true_intro (counted_ensureInferior (by omega))
      | removeInferior k => exact iff_true_intro (hcounted.removeInferior hmirror k)
      | markInferiorNotStarted k => exact iff_true_intro (counted_updateInferiorState rt k _)
      | markInferiorRunning k => exact iff_true_intro (counted_updateInferiorState rt k _)
      | markInferiorPaused reason k => exact iff_true_intro (counted_updateInferiorState rt k _)
      | markInferiorExited reason code k => exact iff_true_intro (counted_updateInferiorState rt k _)
      | _ => exact hkept rfl

theorem Fresh.counted (h : rt.Fresh) : rt.Counted := by
  obtain ⟨transport, stopHistoryLimit, commandTranscriptLimit, rfl⟩ := h
  exact covers_empty _

theorem Reached.counted (h : rt.Reached LeavesRoom) : rt.Counted := by
  refine h.invariant_with (fun rt hrt => Reached.mirror hrt) (fun rt hrt => hrt.counted) ?_
  intro rt step rt' hmirror hcounted hroom hstep
  rw [hstep]
  exact (counted_take_iff hmirror hcounted step).mpr hroom

theorem length_inferiorsStateSummary (rt : SessionRuntime) :
    rt.inferiorsStateSummary.length = rt.inferiorStates.keys.length := by
  rw [inferiorsStateSummary, List.length_map, List.length_mergeSort]

/-- In every run whose steps leave room in the count, a session that is ready counts at least the inferiors
that it tracks and lists in its status; and the first step that does not leave room makes the count wrong. -/
theorem count_covers_inferiors (h : rt.Reached LeavesRoom) :
    (rt.state = .ready → rt.inferiorStates.keys ≠ [] → ∃ n, rt.inferiorCount = some n ∧
      (rt.inferiorStates.keys.length : Int) ≤ n ∧ (rt.statusSnapshot.inferiorStates.length : Int) ≤ n) ∧
    ∀ step, (rt.take step).Counted ↔ rt.LeavesRoom step := by
  refine ⟨fun _ hne => ?_, counted_take_iff (Reached.mirror h) (Reached.counted h)⟩
  obtain ⟨n, hn, hle⟩ := Reached.counted h hne
  refine ⟨n, hn, hle, ?_⟩
  rw [statusSnapshot, length_inferiorsStateSummary]
  exact hle

end SessionRuntime

open SessionRuntime

theorem count_covers_inferiors_ready :
    (({} : SessionRuntime).take (.mutate .markReady)).inferiorStates.keys = [1] ∧
      ∃ n, (({} : SessionRuntime).take (.mutate .markReady)).inferiorCount = some n ∧ 1 ≤ n := by
  have hroom : ({} : SessionRuntime).LeavesRoom (.mutate .markReady) := fun _ => by decide
  have hreached : (({} : SessionRuntime).take (.mutate .markReady)).Reached LeavesRoom :=
    .step (.initial ⟨{}, _, _, rfl⟩) hroom rfl
  obtain ⟨n, hn, hle, _⟩ := (count_covers_inferiors hreached).1 rfl nofun
  exact ⟨rfl, n, hn, hle⟩

/-- A start whose init command creates a second inferior before the first has a record. -/
def addInferiorAtStartup : Step where
  operation := .start { initCommands := ["add-inferior"] }
  script :=
    { Script.accepting with
      rounds := fun k =>
        if k = 1 then
          { own := .answering fun token =>
              [notifyRecord "thread-group-added" [("id", .str "i2")], resultRecord "done" token] }
        else { own := .answering fun token => [resultRecord "done" token] } }

/-- The session is ready with two inferiors and a count of one. -/
theorem count_below_inferiors :
    (runSteps {} [addInferiorAtStartup]).state = .ready ∧
      (runSteps {} [addInferiorAtStartup]).inferiorStates.keys = [1, 2] ∧
      (runSteps {} [addInferiorAtStartup]).inferiorCount = some 1 := by
  refine ⟨rfl, ?_, ?_⟩
  · decide +kernel
  · decide +kernel

end GdbMcp
