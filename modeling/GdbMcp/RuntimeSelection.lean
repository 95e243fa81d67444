import GdbMcp.RuntimeSteps
import GdbMcp.SessionRun

/-! The selected thread and frame beside the current inferior. The owner of a selection is the inferior
that was stopped in or current when it was made; it is remembered next to the runtime, which does not
keep it. -/

namespace GdbMcp

/-- A runtime and the inferiors that its selected thread and its selected frame belong to. -/
structure Owned where
  runtime : SessionRuntime
  threadOwner : Option Int := none
  frameOwner : Option Int := none

namespace Owned

/-- A stop selects for the inferior that it names, or for the one that is current once it is applied; the
other selections are made for the current inferior. -/
def take (o : Owned) (step : RuntimeStep) : Owned :=
  let rt := o.runtime.take step
  match step with
  | .stop _ fields _ =>
    let owner := fields.inferiorId <|> rt.currentInferiorId
    { runtime := rt
      threadOwner := if fields.threadId.isSome then owner else o.threadOwner
      frameOwner := if fields.frameLevel.isSome then owner else o.frameOwner }
  | .mutate (.markThreadSelected _) => { o with runtime := rt, threadOwner := o.runtime.currentInferiorId }
  | .mutate (.markFrameSelected _) => { o with runtime := rt, frameOwner := o.runtime.currentInferiorId }
  | _ => { o with runtime := rt }

/-- The selected thread and the selected frame belong to the current inferior. -/
structure Coherent (o : Owned) : Prop where
  thread : o.runtime.currentThreadId ≠ none → o.threadOwner = o.runtime.currentInferiorId
  frame : o.runtime.currentFrame ≠ none → o.frameOwner = o.runtime.currentInferiorId

end Owned

namespace SessionRuntime

/-- Neither a thread nor a frame is selected. -/
def Unselected (rt : SessionRuntime) : Prop := rt.currentThreadId = none ∧ rt.currentFrame = none

/-- A stop in inferior `k` selects `new` over `old` in the current inferior only; where none is current it
leaves nothing selected from before. -/
def SelectsInCurrent (current k new old : Option Int) : Prop :=
  match current with
  | some c => new.isSome → ∀ j, k = some j → j = c
  | none => new = none → old = none

/-- A step that makes an inferior current which was not so finds nothing selected, and a stop selects only
in the current inferior. -/
def KeepsOwner (rt : SessionRuntime) : RuntimeStep → Prop
  | .stop _ fields _ =>
    SelectsInCurrent rt.currentInferiorId fields.inferiorId fields.threadId rt.currentThreadId ∧
      SelectsInCurrent rt.currentInferiorId fields.inferiorId fields.frameLevel rt.currentFrame
  | .mutate (.updateInferiorInventory current _ ids) =>
    rt.nextCurrent current ids = rt.currentInferiorId ∨ rt.Unselected
  | .mutate .markReady => rt.currentInferiorId = none → rt.Unselected
  | .mutate (.markInferiorNotStarted _) => rt.currentInferiorId = none → rt.Unselected
  | .mutate (.markInferiorRunning _) => rt.currentInferiorId = none → rt.Unselected
  | .mutate (.markInferiorPaused ..) => rt.currentInferiorId = none → rt.Unselected
  | .mutate (.markInferiorExited ..) => rt.currentInferiorId = none → rt.Unselected
  | _ => True

/-- The current inferior, and the thread and the frame selected in it. -/
def selection (rt : SessionRuntime) : Option Int × Option Int × Option Int :=
  (rt.currentInferiorId, rt.currentThreadId, rt.currentFrame)

variable (rt : SessionRuntime)

@[simp] theorem selection_synchronizeSelectedState : rt.synchronizeSelectedState.selection = rt.selection := by
  unfold synchronizeSelectedState
  split <;> rfl

@[simp] theorem selection_ensureInferior (k : Int) : (rt.ensureInferior k).selection = rt.selection := by
  unfold ensureInferior
  split <;> rfl

theorem selection_markReady :
    rt.markReady.selection = (some (rt.currentInferiorId.getD 1), rt.currentThreadId, rt.currentFrame) :=
  selection_synchronizeSelectedState _

theorem selection_updateInferiorState (k : Option Int) (state : InferiorRuntimeState) :
    (rt.updateInferiorState k state).selection =
      (some (rt.currentInferiorId.getD (k.getD 1)), rt.currentThreadId, rt.currentFrame) := by
  unfold updateInferiorState
  extract_lets target rt'
  have hrt' : rt'.selection =
      (some (rt.currentInferiorId.getD (k.getD 1)), rt.currentThreadId, rt.currentFrame) := by
    simp only [rt', target, raiseInferiorCount, selection]
    cases rt.currentInferiorId <;> rfl
  split
  · exact hrt'
  · exact hrt'

theorem selection_markInferiorSelected (k : Option Int) :
    (rt.markInferiorSelected k).selection = (k, none, none) := by
  unfold markInferiorSelected
  rw [selection_synchronizeSelectedState]
  cases k with
  | none => rfl
  | some k => exact selection_ensureInferior _ _

theorem selection_updateInferiorInventory (current : Option Int) (count : Int) (ids : Option (List Int)) :
    (rt.updateInferiorInventory current count ids).selection =
      (rt.nextCurrent current ids, rt.currentThreadId, rt.currentFrame) := by
  unfold updateInferiorInventory
  extract_lets rt₁ rt₂
  have hrt₂ : rt₂.selection = (rt.nextCurrent current ids, rt.currentThreadId, rt.currentFrame) := rfl
  rw [selection_synchronizeSelectedState]
  cases rt₂.currentInferiorId with
  | none => exact hrt₂
  | some k => exact (selection_ensureInferior _ _).trans hrt₂

/-- Removing an inferior keeps the selection, or clears it. -/
theorem selection_removeInferior (k : Int) :
    (rt.removeInferior k).selection = rt.selection ∨ (rt.removeInferior k).Unselected := by
  unfold removeInferior
  split
  · extract_lets rt₁ rt₂
    split
    · right
      have hcleared := selection_synchronizeSelectedState
        { rt₂ with currentInferiorId := rt₂.lowestInferior, currentThreadId := none, currentFrame := none }
      exact ⟨congrArg (fun s => s.2.1) hcleared, congrArg (fun s => s.2.2) hcleared⟩
    · exact .inl (selection_synchronizeSelectedState _)
  · exact .inl rfl

theorem selection_selectStop (stop : StopFields) :
    (rt.selectStop stop).selection =
      (rt.currentInferiorId, stop.threadId <|> rt.currentThreadId, stop.frameLevel <|> rt.currentFrame) := by
  unfold selectStop
  cases stop.threadId <;> cases stop.frameLevel <;> rfl

theorem selection_applyStop (command : String) (stop : StopFields) (timestamp : Nat) :
    (rt.applyStop command stop timestamp).selection =
      (some (rt.currentInferiorId.getD (stop.inferiorId.getD 1)), stop.threadId <|> rt.currentThreadId,
        stop.frameLevel <|> rt.currentFrame) := by
  have hselected := rt.selection_selectStop stop
  simp only [selection, Prod.mk.injEq] at hselected
  obtain ⟨hcurrent, hthread, hframe⟩ := hselected
  rw [applyStop_eq]
  refine (selection_updateInferiorState _ _ _).trans ?_
  rw [hcurrent, hthread, hframe, stopInferior]
  cases rt.currentInferiorId <;> cases stop.inferiorId <;> rfl

end SessionRuntime

namespace Owned

open SessionRuntime

variable {o : Owned}

theorem coherent_of_unselected {o' : Owned} (h : o'.runtime.Unselected) : o'.Coherent :=
  ⟨fun hthread => absurd h.1 hthread, fun hframe => absurd h.2 hframe⟩

/-- With the same thread, frame and owners the selection stays coherent exactly if the current inferior
stays, or nothing is selected. -/
theorem coherent_iff_of_same (h : o.Coherent) {rt : SessionRuntime} {current : Option Int}
    (hrt : rt.selection = (current, o.runtime.currentThreadId, o.runtime.currentFrame)) :
    ({ o with runtime := rt } : Owned).Coherent ↔
      (current = o.runtime.currentInferiorId ∨ o.runtime.Unselected) := by
  simp only [selection, Prod.mk.injEq] at hrt
  obtain ⟨hcurrent, hthread, hframe⟩ := hrt
  constructor
  · intro h'
    by_cases hselected : o.runtime.Unselected
    · exact .inr hselected
    · left
      rw [Unselected, not_and_or] at hselected
      rcases hselected with hsome | hsome
      · rw [← hcurrent, ← h'.thread (hthread ▸ hsome)]
        exact h.thread hsome
      · rw [← hcurrent, ← h'.frame (hframe ▸ hsome)]
        exact h.frame hsome
  · rintro (hsame | hnone)
    · refine ⟨fun hsome => ?_, fun hsome => ?_⟩
      · exact (h.thread (hthread ▸ hsome)).trans (hcurrent.trans hsame).symm
      · exact (h.frame (hframe ▸ hsome)).trans (hcurrent.trans hsame).symm
    · exact coherent_of_unselected ⟨hthread.trans hnone.1, hframe.trans hnone.2⟩

/-- The owner of one selected number behind a stop in inferior `k`, which selects `new` over `old`. -/
theorem owner_of_stop {current k new old owner : Option Int} (h : old ≠ none → owner = current) :
    ((new <|> old) ≠ none →
      (if new.isSome then k <|> some (current.getD (k.getD 1)) else owner) = some (current.getD (k.getD 1))) ↔
    SelectsInCurrent current k new old := by
  unfold SelectsInCurrent
  cases new with
  | none =>
      cases current with
      | none =>
          cases old with
          | none => simp
          | some t =>
              obtain rfl : owner = none := h nofun
              simp
      | some c =>
          refine iff_of_true (fun hold => ?_) fun hnew => nomatch hnew
          simpa using h hold
  | some t =>
      cases current with
      | none => cases k <;> simp
      | some c => cases k <;> simp

/-- A stop selects in the current inferior, or nothing is selected that it does not select anew. -/
theorem coherent_stop_iff (h : o.Coherent) (command : String) (fields : StopFields) (timestamp : Nat) :
    (o.take (.stop command fields timestamp)).Coherent ↔
      o.runtime.KeepsOwner (.stop command fields timestamp) := by
  have hselection := o.runtime.selection_applyStop command fields timestamp
  simp only [selection, Prod.mk.injEq] at hselection
  obtain ⟨hcurrent, hthread, hframe⟩ := hselection
  have hthreadIff := @owner_of_stop o.runtime.currentInferiorId fields.inferiorId fields.threadId _ _ h.thread
  have hframeIff := @owner_of_stop o.runtime.currentInferiorId fields.inferiorId fields.frameLevel _ _ h.frame
  rw [← hcurrent, ← hthread] at hthreadIff
  rw [← hcurrent, ← hframe] at hframeIff
  have hcoherent : (o.take (.stop command fields timestamp)).Coherent ↔ _ ∧ _ :=
    ⟨fun h => ⟨h.thread, h.frame⟩, fun h => ⟨h.1, h.2⟩⟩
  rw [hcoherent]
  exact and_congr hthreadIff hframeIff

/-- From a coherent selection, a step leaves it coherent exactly if it keeps the owner. -/
theorem coherent_take_iff (h : o.Coherent) (step : RuntimeStep) :
    (o.take step).Coherent ↔ o.runtime.KeepsOwner step := by
  have hkept : ∀ {rt : SessionRuntime}, rt.selection = o.runtime.selection →
      (({ o with runtime := rt } : Owned).Coherent ↔ True) := by
    intro rt hrt
    exact iff_true_intro ((coherent_iff_of_same h hrt).mpr (.inl rfl))
  have hcleared : ∀ {rt : SessionRuntime}, rt.Unselected →
      (({ o with runtime := rt } : Owned).Coherent ↔ True) :=
    fun hrt => iff_true_intro (coherent_of_unselected hrt)
  have hupdated : ∀ k state,
      (({ o with runtime := o.runtime.updateInferiorState k state } : Owned).Coherent ↔
        (o.runtime.currentInferiorId = none → o.runtime.Unselected)) := by
    intro k state
    rw [coherent_iff_of_same h (o.runtime.selection_updateInferiorState k state)]
    cases o.runtime.currentInferiorId <;> simp
  cases step with
  | stop command fields timestamp => exact coherent_stop_iff h command fields timestamp
  | client transport => exact hkept rfl
  | loaded targetLoaded => exact hkept rfl
  | probed disassembleA readMemoryBytes => exact hkept rfl
  | mutate m =>
      cases m with
      | beginStartup config => exact hcleared ⟨rfl, rfl⟩
      | markFailed message => exact hcleared ⟨rfl, rfl⟩
      | markTransportTerminated message => exact hcleared ⟨rfl, rfl⟩
      | markStopped => exact hcleared ⟨rfl, rfl⟩
      | markReady =>
          refine (coherent_iff_of_same h o.runtime.selection_markReady).trans ?_
          rw [KeepsOwner]
          cases o.runtime.currentInferiorId <;> simp
      | markThreadSelected threadId => exact iff_true_intro ⟨fun _ => rfl, h.frame⟩
      | markFrameSelected frameNumber => exact iff_true_intro ⟨h.thread, fun _ => rfl⟩
      | markInferiorSelected k =>
          have hselection := o.runtime.selection_markInferiorSelected k
          exact hcleared ⟨congrArg (fun s => s.2.1) hselection, congrArg (fun s => s.2.2) hselection⟩
      | updateInferiorInventory current count ids =>
          exact coherent_iff_of_same h (o.runtime.selection_updateInferiorInventory current count ids)
      | ensureInferior k => exact hkept (o.runtime.selection_ensureInferior k)
      | removeInferior k =>
          rcases o.runtime.selection_removeInferior k with hsame | hnone
          · exact hkept hsame
          · exact hcleared hnone
      | markInferiorNotStarted k => exact hupdated k _
      | markInferiorRunning k => exact hupdated k _
      | markInferiorPaused reason k => exact hupdated k _
      | markInferiorExited reason code k => exact hupdated k _
      | _ => exact hkept rfl

/-- The runtimes with their owners that steps with a condition on the runtime before them lead to. -/
abbrev Reached (allowed : SessionRuntime → RuntimeStep → Prop) : Owned → Prop :=
  Reachable (fun o => o.runtime.Fresh) (fun o step o' => o' = o.take step) fun o => allowed o.runtime

theorem coherent_of_fresh (h : o.runtime.Fresh) : o.Coherent := by
  obtain ⟨transport, stopHistoryLimit, commandTranscriptLimit, hrt⟩ := h
  refine coherent_of_unselected ?_
  rw [hrt]
  exact ⟨rfl, rfl⟩

/-- In every run whose steps keep the owner, the selected thread and frame belong to the current inferior;
and the first step that does not keep it selects in an inferior that is not current, or leaves a selection
behind in one. -/
theorem selection_coherent (h : o.Reached KeepsOwner) :
    o.Coherent ∧ ∀ step, (o.take step).Coherent ↔ o.runtime.KeepsOwner step := by
  have hcoherent : o.Coherent := by
    refine h.invariant (fun o ho => coherent_of_fresh ho) fun o step o' ho hallowed hstep => ?_
    rw [hstep]
    exact (coherent_take_iff ho step).mpr hallowed
  exact ⟨hcoherent, coherent_take_iff hcoherent⟩

end Owned

open SessionRuntime Owned

/-- A stop of thread 4 in inferior `k`. -/
def stopOfThread (k : Int) : RuntimeStep :=
  .stop "-exec-continue" { payload := .dict [], reason := some "breakpoint-hit", inferiorId := some k, threadId := some 4 } 0

def readySession : Owned := { runtime := ({} : SessionRuntime).take (.mutate .markReady) }

theorem readySession_reached : readySession.Reached KeepsOwner :=
  .step (s := { runtime := {} }) (l := .mutate .markReady) (.initial ⟨{}, _, _, rfl⟩) (fun _ => ⟨rfl, rfl⟩) rfl

theorem selection_coherent_stopInCurrent :
    (readySession.take (stopOfThread 1)).runtime.currentThreadId = some 4 ∧
      (readySession.take (stopOfThread 1)).threadOwner = some 1 := by
  have hkeeps : readySession.runtime.KeepsOwner (stopOfThread 1) :=
    ⟨fun _ j hj => (Option.some.inj hj).symm, nofun⟩
  have hreached : (readySession.take (stopOfThread 1)).Reached KeepsOwner :=
    .step readySession_reached hkeeps rfl
  exact ⟨rfl, (selection_coherent hreached).1.thread nofun⟩

/-- The debugger stops in inferior 2 while inferior 1 is current. -/
def stopInOtherInferior : List Step :=
  [{ operation := .start {}, script := .accepting },
    { operation := .continueExecution {}
      script :=
        { rounds := fun _ =>
            { own := .answering fun token =>
                [resultRecord "running" token,
                  notifyRecord "stopped" [("reason", .str "breakpoint-hit"), ("thread-group", .str "i2"),
                    ("thread-id", .str "4")]] } } }]

/-- The session then has thread 4 selected, which it knows to be of inferior 2, in inferior 1. -/
theorem stop_leaves_inferior_behind :
    (runSteps {} stopInOtherInferior).currentThreadId = some 4 ∧
      (runSteps {} stopInOtherInferior).lastStopEvent.map StopEvent.inferiorId = some (some 2) ∧
      (runSteps {} stopInOtherInferior).lastStopEvent.map StopEvent.threadId = some (some 4) ∧
      (runSteps {} stopInOtherInferior).currentInferiorId = some 1 ∧
      ¬(readySession.take (stopOfThread 2)).Coherent := by
  refine ⟨?_, ?_, ?_, ?_, fun h => ?_⟩
  · decide +kernel
  · decide +kernel
  · decide +kernel
  · decide +kernel
  · exact absurd (h.thread nofun) (by decide)

end GdbMcp
