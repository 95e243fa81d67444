import GdbMcp.BaseTransition
import GdbMcp.RunnerMutators

/-! The steps in which a session changes its runtime: the mutators, a stop, which is written as a whole,
and the writes of single fields from outside. -/

namespace GdbMcp

/-- One change of the runtime. -/
inductive RuntimeStep where
  | mutate (m : Mutator)
  | stop (command : String) (fields : StopFields) (timestamp : Nat)
  | client (transport : MiClient)
  | loaded (targetLoaded : Bool)
  | probed (disassembleASupported readMemoryBytesSupported : Option Bool)

namespace SessionRuntime

def take (rt : SessionRuntime) : RuntimeStep → SessionRuntime
  | .mutate m => rt.apply m
  | .stop command fields timestamp => rt.applyStop command fields timestamp
  | .client transport => rt.withTransport transport
  | .loaded targetLoaded => { rt with targetLoaded := targetLoaded }
  | .probed disassembleASupported readMemoryBytesSupported =>
    { rt with
      disassembleASupported := disassembleASupported
      readMemoryBytesSupported := readMemoryBytesSupported }

/-- A runtime before its first step. -/
def Fresh (rt : SessionRuntime) : Prop :=
  ∃ transport stopHistoryLimit commandTranscriptLimit,
    rt = fresh transport stopHistoryLimit commandTranscriptLimit

/-- The runtimes that steps with a condition on the runtime before them lead to. -/
abbrev Reached (allowed : SessionRuntime → RuntimeStep → Prop) : SessionRuntime → Prop :=
  Reachable Fresh (fun rt step rt' => rt' = rt.take step) allowed

/-! ### What inventories and stops do to the inferiors -/

/-- The inventory of inferiors that a runtime holds. -/
def inventory (rt : SessionRuntime) : Option Int × Option Int × InferiorTable :=
  (rt.currentInferiorId, rt.inferiorCount, rt.inferiorStates)

@[simp] theorem inventory_selectStop (rt : SessionRuntime) (stop : StopFields) :
    (rt.selectStop stop).inventory = rt.inventory := by
  unfold selectStop
  extract_lets rt'
  have hrt' : rt'.inventory = rt.inventory := by
    simp only [rt']
    split <;> rfl
  split
  · exact hrt'
  · exact hrt'

/-- The table that an inventory of these inferiors leaves; one without a listing leaves the table. -/
def listed (rt : SessionRuntime) (ids : Option (List Int)) : InferiorTable :=
  ids.elim rt.inferiorStates rt.keepInferiors

/-- The inferior that an inventory makes the current one. -/
def nextCurrent (rt : SessionRuntime) (current : Option Int) (ids : Option (List Int)) : Option Int :=
  current <|> (rt.listed ids).keys.min?

/-- The inferior that a stop is of. -/
def stopInferior (rt : SessionRuntime) (stop : StopFields) : Option Int :=
  stop.inferiorId <|> rt.currentInferiorId

/-- The record that a stop leaves behind for its inferior. -/
def stopState (stop : StopFields) : InferiorRuntimeState :=
  if isExitReason stop.reason then
    { executionState := .exited, stopReason := stop.reason, exitCode := stop.exitCode }
  else { executionState := .paused, stopReason := stop.reason }

/-- A stop selects, updates the record of its inferior and is recorded. -/
theorem applyStop_eq (rt : SessionRuntime) (command : String) (stop : StopFields) (timestamp : Nat) :
    rt.applyStop command stop timestamp =
      ((rt.selectStop stop).updateInferiorState (rt.stopInferior stop) (stopState stop)).recordStopEvent
        (buildStopEvent command stop (rt.stopInferior stop) timestamp) := by
  unfold applyStop stopState
  by_cases hexit : isExitReason stop.reason = true
  · simp only [if_pos hexit]
    rfl
  · simp only [if_neg hexit]
    rfl

theorem Mirror.applyStop {rt : SessionRuntime} (h : rt.Mirror) (command : String) (stop : StopFields)
    (timestamp : Nat) : (rt.applyStop command stop timestamp).Mirror := by
  have hselected : (rt.selectStop stop).Mirror := (@updated_selectStop (fun _ => True) stop rt).mirror h
  rw [applyStop_eq]
  exact (hselected.updateInferiorState _ _).of_eq rfl rfl rfl

/-- Every step keeps the mirror. -/
theorem Mirror.take {rt : SessionRuntime} (h : rt.Mirror) (step : RuntimeStep) : (rt.take step).Mirror := by
  cases step with
  | mutate m => exact h.apply m
  | stop command fields timestamp => exact h.applyStop command fields timestamp
  | client transport => exact h.of_eq rfl rfl rfl
  | loaded targetLoaded => exact h.of_eq rfl rfl rfl
  | probed disassembleA readMemoryBytes => exact h.of_eq rfl rfl rfl

theorem Fresh.mirror {rt : SessionRuntime} (h : rt.Fresh) : rt.Mirror := by
  obtain ⟨transport, stopHistoryLimit, commandTranscriptLimit, rfl⟩ := h
  exact ⟨fun k hk => (nomatch hk), fun _ => rfl⟩

theorem Reached.mirror {allowed : SessionRuntime → RuntimeStep → Prop} {rt : SessionRuntime}
    (h : rt.Reached allowed) : rt.Mirror := by
  refine h.invariant (fun rt hrt => hrt.mirror) fun rt step rt' hrt _ hstep => ?_
  rw [hstep]
  exact hrt.take step

/-! ### The record that an update writes -/

/-- The inferior whose record is written. -/
def target (rt : SessionRuntime) (inferiorId : Option Int) : Int :=
  inferiorId.getD (rt.currentInferiorId.getD 1)

/-- The record that is written is the one of the current inferior, or becomes it. -/
def Selects (rt : SessionRuntime) (inferiorId : Option Int) : Prop :=
  rt.currentInferiorId = none ∨ inferiorId = none ∨ inferiorId = rt.currentInferiorId

instance (rt : SessionRuntime) (inferiorId : Option Int) : Decidable (rt.Selects inferiorId) :=
  inferInstanceAs (Decidable (_ ∨ _ ∨ _))

theorem selects_iff (rt : SessionRuntime) (inferiorId : Option Int) :
    rt.Selects inferiorId ↔ rt.currentInferiorId.getD (rt.target inferiorId) = rt.target inferiorId := by
  unfold Selects target
  cases rt.currentInferiorId <;> cases inferiorId <;> simp [eq_comm]

section Update

variable (rt : SessionRuntime) (inferiorId : Option Int) (state : InferiorRuntimeState)

@[simp] theorem currentInferiorId_updateInferiorState :
    (rt.updateInferiorState inferiorId state).currentInferiorId =
      some (rt.currentInferiorId.getD (rt.target inferiorId)) := by
  unfold updateInferiorState
  extract_lets k rt'
  split <;> rfl

@[simp] theorem inferiorStates_updateInferiorState :
    (rt.updateInferiorState inferiorId state).inferiorStates =
      rt.inferiorStates.insert (rt.target inferiorId) state := by
  unfold updateInferiorState
  extract_lets k rt'
  split <;> rfl

theorem lookup_updateInferiorState (k : Int) :
    (rt.updateInferiorState inferiorId state).inferiorStates.lookup k =
      if k = rt.target inferiorId then some state else rt.inferiorStates.lookup k := by
  rw [inferiorStates_updateInferiorState]
  split
  · rename_i heq
    rw [heq, AList.lookup_insert]
  · rename_i hne
    exact AList.lookup_insert_ne hne

theorem selectedState_updateInferiorState :
    (rt.updateInferiorState inferiorId state).selectedState =
      if rt.Selects inferiorId then state else rt.selectedState := by
  simp only [selects_iff]
  unfold updateInferiorState
  extract_lets k rt'
  have hiff : rt'.currentInferiorId = some k ↔
      rt.currentInferiorId.getD (rt.target inferiorId) = rt.target inferiorId := by
    simp [rt', raiseInferiorCount, k, target]
  simp only [hiff]
  split <;> rfl

end Update

@[simp] theorem selectedState_selectStop (rt : SessionRuntime) (stop : StopFields) :
    (rt.selectStop stop).selectedState = rt.selectedState := by
  unfold selectStop
  extract_lets rt'
  have hrt' : rt'.selectedState = rt.selectedState := by
    simp only [rt']
    split <;> rfl
  split
  · exact hrt'
  · exact hrt'

section Stop

variable (rt : SessionRuntime) (command : String) (stop : StopFields) (timestamp : Nat)

@[simp] theorem currentInferiorId_selectStop : (rt.selectStop stop).currentInferiorId = rt.currentInferiorId :=
  congrArg Prod.fst (inventory_selectStop rt stop)

@[simp] theorem inferiorStates_selectStop : (rt.selectStop stop).inferiorStates = rt.inferiorStates :=
  congrArg (fun inventory => inventory.2.2) (inventory_selectStop rt stop)

theorem target_stopInferior : (rt.selectStop stop).target (rt.stopInferior stop) = rt.target stop.inferiorId := by
  unfold target stopInferior
  rw [currentInferiorId_selectStop]
  cases stop.inferiorId <;> cases rt.currentInferiorId <;> rfl

theorem selects_stopInferior : (rt.selectStop stop).Selects (rt.stopInferior stop) ↔ rt.Selects stop.inferiorId := by
  rw [selects_iff, selects_iff, target_stopInferior, currentInferiorId_selectStop]

/-- A stop writes the record of its inferior. -/
theorem lookup_applyStop (k : Int) : (rt.applyStop command stop timestamp).inferiorStates.lookup k =
    if k = rt.target stop.inferiorId then some (stopState stop) else rt.inferiorStates.lookup k := by
  rw [applyStop_eq]
  show ((rt.selectStop stop).updateInferiorState _ _).inferiorStates.lookup k = _
  rw [lookup_updateInferiorState, target_stopInferior, inferiorStates_selectStop]

/-- A stop shows in the top-level fields where its inferior is the current one. -/
theorem selectedState_applyStop : (rt.applyStop command stop timestamp).selectedState =
    if rt.Selects stop.inferiorId then stopState stop else rt.selectedState := by
  rw [applyStop_eq]
  show ((rt.selectStop stop).updateInferiorState _ _).selectedState = _
  simp only [selectedState_updateInferiorState, selects_stopInferior, selectedState_selectStop]

@[simp] theorem currentInferiorId_applyStop : (rt.applyStop command stop timestamp).currentInferiorId =
    some (rt.currentInferiorId.getD (rt.target stop.inferiorId)) := by
  rw [applyStop_eq]
  show ((rt.selectStop stop).updateInferiorState _ _).currentInferiorId = _
  rw [currentInferiorId_updateInferiorState, target_stopInferior, currentInferiorId_selectStop]

@[simp] theorem lastStopEvent_applyStop : (rt.applyStop command stop timestamp).lastStopEvent =
    some (buildStopEvent command stop (rt.stopInferior stop) timestamp) := by
  rw [applyStop_eq]
  rfl

end Stop

end SessionRuntime
end GdbMcp
