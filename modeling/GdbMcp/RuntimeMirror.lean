import GdbMcp.RuntimeState

/-! The top-level execution state of a session mirrors the record of its selected inferior, whatever
sequence of mutators is called. -/

namespace GdbMcp

/-- A call of one mutator of the runtime. -/
inductive Mutator where
  | beginStartup (config : SessionConfig)
  | markReady
  | markFailed (message : String)
  | markTransportTerminated (message : String)
  | markStopped
  | markThreadSelected (threadId : Option Int)
  | markFrameSelected (frameNumber : Option Int)
  | markInferiorSelected (inferiorId : Option Int)
  | updateInferiorInventory (currentInferiorId : Option Int) (count : Int) (inferiorIds : Option (List Int))
  | ensureInferior (inferiorId : Int)
  | removeInferior (inferiorId : Int)
  | markFollowForkMode (mode : Option FollowForkMode)
  | markDetachOnFork (enabled : Option Bool)
  | markAttached (pid : Int)
  | clearAttachedPid
  | markInferiorNotStarted (inferiorId : Option Int)
  | markInferiorRunning (inferiorId : Option Int)
  | markInferiorPaused (reason : Option String) (inferiorId : Option Int)
  | markInferiorExited (reason : Option String) (exitCode : Option Int) (inferiorId : Option Int)
  | recordStopEvent (event : StopEvent)
  | recordCommandTranscript (entry : CommandTranscriptEntry)

namespace SessionRuntime

def apply (rt : SessionRuntime) : Mutator → SessionRuntime
  | .beginStartup config => rt.beginStartup config
  | .markReady => rt.markReady
  | .markFailed message => rt.markFailed message
  | .markTransportTerminated message => rt.markTransportTerminated message
  | .markStopped => rt.markStopped
  | .markThreadSelected threadId => rt.markThreadSelected threadId
  | .markFrameSelected frameNumber => rt.markFrameSelected frameNumber
  | .markInferiorSelected inferiorId => rt.markInferiorSelected inferiorId
  | .updateInferiorInventory currentInferiorId count inferiorIds =>
    rt.updateInferiorInventory currentInferiorId count inferiorIds
  | .ensureInferior inferiorId => rt.ensureInferior inferiorId
  | .removeInferior inferiorId => rt.removeInferior inferiorId
  | .markFollowForkMode mode => rt.markFollowForkMode mode
  | .markDetachOnFork enabled => rt.markDetachOnFork enabled
  | .markAttached pid => rt.markAttached pid
  | .clearAttachedPid => rt.clearAttachedPid
  | .markInferiorNotStarted inferiorId => rt.markInferiorNotStarted inferiorId
  | .markInferiorRunning inferiorId => rt.markInferiorRunning inferiorId
  | .markInferiorPaused reason inferiorId => rt.markInferiorPaused reason inferiorId
  | .markInferiorExited reason exitCode inferiorId => rt.markInferiorExited reason exitCode inferiorId
  | .recordStopEvent event => rt.recordStopEvent event
  | .recordCommandTranscript entry => rt.recordCommandTranscript entry

/-- The selected inferior has a record, and the top-level fields are that record. -/
structure Mirror (rt : SessionRuntime) : Prop where
  selected : ∀ k, rt.currentInferiorId = some k → rt.inferiorStates.lookup k = some rt.selectedState
  unselected : rt.currentInferiorId = none → rt.selectedState = {}

theorem Mirror.of_eq {rt rt' : SessionRuntime} (h : rt.Mirror)
    (hcurrent : rt'.currentInferiorId = rt.currentInferiorId)
    (hstates : rt'.inferiorStates = rt.inferiorStates)
    (hselected : rt'.selectedState = rt.selectedState) : rt'.Mirror where
  selected k hk := by rw [hstates, hselected]; exact h.selected k (hcurrent ▸ hk)
  unselected hnone := by rw [hselected]; exact h.unselected (hcurrent ▸ hnone)

/-- After a synchronization the mirror holds, whatever was there before. -/
theorem mirror_synchronizeSelectedState (rt : SessionRuntime) : rt.synchronizeSelectedState.Mirror := by
  unfold synchronizeSelectedState
  cases hcurrent : rt.currentInferiorId with
  | none => exact ⟨fun k hk => by simp [withSelectedState, hcurrent] at hk, fun _ => rfl⟩
  | some k =>
      refine ⟨fun j hj => ?_, fun hnone => by simp [withSelectedState] at hnone⟩
      obtain rfl : k = j := by simpa [withSelectedState, hcurrent] using hj
      exact AList.lookup_insert _

theorem mirror_resetTransient (rt : SessionRuntime) : rt.resetTransient.Mirror :=
  ⟨fun _ h => (nomatch h), fun _ => rfl⟩

theorem Mirror.ensureInferior {rt : SessionRuntime} (h : rt.Mirror) (inferiorId : Int) :
    (rt.ensureInferior inferiorId).Mirror := by
  unfold SessionRuntime.ensureInferior
  split
  · exact h
  · refine ⟨fun k hk => ?_, h.unselected⟩
    have hk' := h.selected k hk
    change (rt.inferiorStates.insert inferiorId (rt.inferiorState inferiorId)).lookup k =
      some rt.selectedState
    by_cases heq : k = inferiorId
    · subst heq
      rw [AList.lookup_insert, inferiorState, hk']
      rfl
    · rwa [AList.lookup_insert_ne heq]

theorem Mirror.removeInferior {rt : SessionRuntime} (h : rt.Mirror) (inferiorId : Int) :
    (rt.removeInferior inferiorId).Mirror := by
  unfold SessionRuntime.removeInferior
  split
  · exact mirror_synchronizeSelectedState _
  · exact h

/-- An update of the selected inferior is mirrored; one of another inferior leaves the record of the
selected one alone. -/
theorem Mirror.updateInferiorState {rt : SessionRuntime} (h : rt.Mirror) (inferiorId : Option Int)
    (state : InferiorRuntimeState) : (rt.updateInferiorState inferiorId state).Mirror := by
  unfold SessionRuntime.updateInferiorState
  extract_lets target rt'
  have hlookup : rt'.inferiorStates.lookup target = some state := AList.lookup_insert _
  split
  · rename_i htarget
    refine ⟨fun k hk => ?_, fun hnone => ?_⟩
    · obtain rfl : target = k := by simpa [withSelectedState, htarget] using hk
      exact hlookup
    · simp [withSelectedState, htarget] at hnone
  · rename_i hother
    refine ⟨fun k hk => ?_, fun hnone => (nomatch hnone)⟩
    have hne : k ≠ target := fun heq => hother (heq ▸ hk)
    have hcurrent : rt.currentInferiorId = some k := by
      cases hc : rt.currentInferiorId with
      | none =>
          have : some target = some k := by simpa [rt', raiseInferiorCount, hc] using hk
          exact absurd (Option.some.inj this).symm hne
      | some j => simpa [rt', raiseInferiorCount, hc] using hk
    exact (AList.lookup_insert_ne hne).trans (h.selected k hcurrent)

/-- Every mutator keeps the mirror. -/
theorem Mirror.apply {rt : SessionRuntime} (h : rt.Mirror) (m : Mutator) : (rt.apply m).Mirror := by
  cases m with
  | beginStartup config => exact (mirror_resetTransient rt).of_eq rfl rfl rfl
  | markReady => exact (mirror_synchronizeSelectedState _).of_eq rfl rfl rfl
  | markFailed message => exact mirror_resetTransient _
  | markTransportTerminated message => exact mirror_resetTransient _
  | markStopped => exact mirror_resetTransient _
  | markInferiorSelected inferiorId => exact mirror_synchronizeSelectedState _
  | updateInferiorInventory current count ids => exact mirror_synchronizeSelectedState _
  | ensureInferior inferiorId => exact h.ensureInferior inferiorId
  | removeInferior inferiorId => exact h.removeInferior inferiorId
  | markInferiorNotStarted inferiorId => exact h.updateInferiorState inferiorId _
  | markInferiorRunning inferiorId => exact h.updateInferiorState inferiorId _
  | markInferiorPaused reason inferiorId => exact h.updateInferiorState inferiorId _
  | markInferiorExited reason exitCode inferiorId => exact h.updateInferiorState inferiorId _
  | _ => exact h.of_eq rfl rfl rfl

/-- A runtime that no mutator has been called on, with the limits and the client it was built with. -/
def fresh (transport : MiClient) (stopHistoryLimit commandTranscriptLimit : Nat) : SessionRuntime :=
  { transport := transport
    stopHistoryLimit := stopHistoryLimit
    commandTranscriptLimit := commandTranscriptLimit }

/-- The top-level execution state mirrors the selected inferior after every sequence of mutators. -/
theorem selected_state_mirrors (transport : MiClient) (stopHistoryLimit commandTranscriptLimit : Nat)
    (mutators : List Mutator) :
    (mutators.foldl apply (fresh transport stopHistoryLimit commandTranscriptLimit)).Mirror :=
  List.foldlRecOn mutators apply ⟨fun _ h => (nomatch h), fun _ => rfl⟩ fun _ h m _ => h.apply m

end SessionRuntime
end GdbMcp
