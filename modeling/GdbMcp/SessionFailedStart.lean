import GdbMcp.SessionLifecycle

/-! A start that fails leaves no half-started session, at whichever of its exits it fails. -/

namespace GdbMcp

/-- The transient fields are those of a session that has not started. -/
structure SessionRuntime.Reset (rt : SessionRuntime) : Prop where
  isRunning : rt.isRunning = false
  targetLoaded : rt.targetLoaded = false
  attachedPid : rt.attachedPid = none
  executionState : rt.executionState = .unknown
  stopReason : rt.stopReason = none
  exitCode : rt.exitCode = none
  currentThreadId : rt.currentThreadId = none
  currentFrame : rt.currentFrame = none
  currentInferiorId : rt.currentInferiorId = none
  inferiorCount : rt.inferiorCount = none
  inferiorStates : rt.inferiorStates = ∅
  followForkMode : rt.followForkMode = none
  detachOnFork : rt.detachOnFork = none
  disassembleASupported : rt.disassembleASupported = none
  readMemoryBytesSupported : rt.readMemoryBytesSupported = none

theorem SessionRuntime.reset_resetTransient (rt : SessionRuntime) : rt.resetTransient.Reset := by
  constructor <;> rfl

/-- No controller is attached, and the session has failed with a message. -/
structure SessionRuntime.TornDown (rt : SessionRuntime) : Prop extends rt.Reset where
  controller : rt.transport.controller = none
  state : rt.state = .failed
  lastFailureMessage : rt.lastFailureMessage.isSome = true

theorem SessionRuntime.tornDown_markFailed {rt : SessionRuntime} (hrt : rt.transport.controller = none)
    (message : String) : (rt.markFailed message).TornDown where
  toReset := reset_resetTransient _
  controller := hrt
  state := rfl
  lastFailureMessage := rfl

namespace Session

open Eff

variable {W : Type} {α β : Type}

/-- A part of a start that leaves nothing behind when it returns an error. -/
def FailsClean (m : SessionM W (OperationResult α)) : Prop :=
  ∀ s, wp m (fun result s' => result.isSuccess = false → s'.runtime.TornDown) (fun _ _ => True) s

theorem FailsClean.pure_success (value : α) (warnings : List String) :
    FailsClean (pure (.success value warnings) : SessionM W (OperationResult α)) :=
  fun _ h => nomatch h

theorem FailsClean.bind {m : SessionM W β} {next : β → SessionM W (OperationResult α)}
    (hnext : ∀ b, FailsClean (next b)) : FailsClean (m >>= next) := by
  intro s
  rw [wp_bind]
  exact wp_mono (wp_true m s) (fun b s' _ => hnext b s') fun _ _ h => h

/-- A failed part ends the start: its error is passed on. -/
theorem FailsClean.andThen {m : SessionM W (OperationResult β)}
    {next : OperationResult β → SessionM W (OperationResult α)} (hm : FailsClean m)
    (hsuccess : ∀ value warnings, FailsClean (next (.success value warnings)))
    (herror : ∀ message fatal details code,
      next (.error message fatal details code) = pure (.error message fatal details code)) :
    FailsClean (m >>= next) := by
  intro s
  rw [wp_bind]
  refine wp_mono (hm s) (fun result s' h => ?_) fun _ _ h => h
  cases result with
  | success value warnings => exact hsuccess value warnings s'
  | error message fatal details code =>
      rw [herror]
      exact fun _ => h rfl

variable [Gdb W]

/-- Whatever `exit` does, no controller is attached after it. -/
theorem exit_detaches (c : Channel W) :
    wp MiClient.exit (fun _ c' => c'.client.controller = none) (fun _ c' => c'.client.controller = none) c := by
  rw [MiClient.exit, MiClient.exitUnlocked, wp_bind, MiClient.hasController, wp_gets]
  cases hcontroller : c.client.controller with
  | none => exact hcontroller
  | some controller =>
      rw [Option.isSome_some, if_pos rfl, wp_ensure]
      exact wp_mono (wp_true _ _) (fun _ _ _ => rfl) fun _ _ _ => rfl

theorem exitQuietly_detaches (s : Session W) :
    wp exitQuietly (fun _ s' => s'.runtime.transport.controller = none) (fun _ _ => False) s := by
  rw [exitQuietly, wp_bind, hasController, read, wp_gets, SessionRuntime.hasController]
  cases hcontroller : s.runtime.transport.controller with
  | none => exact hcontroller
  | some controller =>
      rw [Option.isSome_some, if_pos rfl, wp_attempt, onChannel, wp_zoom]
      exact wp_mono (exit_detaches _) (fun _ _ h => h) fun _ _ h => h

/-- A cleanup always returns, and leaves nothing behind. -/
theorem cleanupFailedStart_tornDown (message : String) (s : Session W) :
    wp (cleanupFailedStart message) (fun _ s' => s'.runtime.TornDown) (fun _ _ => False) s := by
  rw [cleanupFailedStart, wp_bind]
  refine wp_mono (exitQuietly_detaches s) (fun _ s' hs' => ?_) fun _ _ h => h
  exact SessionRuntime.tornDown_markFailed hs' message

theorem failStart_failsClean (failure message : String) (fatal : Bool) (details : List (String × Value)) :
    FailsClean (failStart failure message fatal details : SessionM W (OperationResult α)) := by
  intro s
  rw [failStart, wp_bind]
  exact wp_mono (cleanupFailedStart_tornDown failure s) (fun _ _ h _ => h) fun _ _ _ => trivial

theorem applyEnvironment_failsClean (env : List (String × String)) (output : List Value) :
    FailsClean (applyEnvironment env output : SessionM W _) := by
  induction env generalizing output with
  | nil => exact FailsClean.pure_success _ _
  | cons entry rest ih =>
      obtain ⟨name, value⟩ := entry
      rw [applyEnvironment]
      split
      · exact failStart_failsClean _ _ _ _
      · refine FailsClean.bind fun result => ?_
        cases result with
        | success value warnings => exact ih _
        | error message fatal details code => exact failStart_failsClean _ _ _ _

theorem failInitCommand_failsClean (command message : String) (fatal : Bool) (output : List Value) :
    FailsClean (failInitCommand command message fatal output : SessionM W _) := by
  rw [failInitCommand]
  split
  · exact FailsClean.bind fun _ => failStart_failsClean _ _ _ _
  · exact failStart_failsClean _ _ _ _

theorem runInitCommands_failsClean (commands : List String) (output : List Value) :
    FailsClean (runInitCommands commands output : SessionM W _) := by
  induction commands generalizing output with
  | nil => exact FailsClean.pure_success _ _
  | cons command rest ih =>
      rw [runInitCommands]
      refine FailsClean.bind fun outcome => ?_
      rcases outcome with e | value | error
      · exact FailsClean.bind fun _ => failStart_failsClean _ _ _ _
      · exact ih _
      · exact failInitCommand_failsClean _ _ _ _

theorem configureSession_failsClean (a : StartArgs) (startup : ParsedMiResponse) (notes : List String) :
    FailsClean (configureSession a startup notes : SessionM W _) := by
  refine FailsClean.bind fun _ => FailsClean.bind fun _ => ?_
  refine (applyEnvironment_failsClean a.env []).andThen (fun envOutput _ => ?_) fun _ _ _ _ => rfl
  refine (runInitCommands_failsClean a.initCommands []).andThen (fun initOutput _ => ?_) fun _ _ _ _ => rfl
  exact FailsClean.bind fun _ => FailsClean.bind fun _ => FailsClean.bind fun _ =>
    FailsClean.pure_success _ _

theorem launchSession_failsClean (a : StartArgs) (gdbPath : String) (notes : List String) :
    FailsClean (launchSession a gdbPath notes : SessionM W _) := by
  refine FailsClean.bind fun _ => FailsClean.bind fun _ => FailsClean.bind fun ready => ?_
  split
  · exact failStart_failsClean _ _ _ _
  · exact configureSession_failsClean a _ notes

/-- The failures before the launch find no controller, those behind it clean up. -/
theorem startChecked_failsClean (a : StartArgs) (gdbPath : String) (notes : List String) {s : Session W}
    (hs : s.runtime.transport.controller = none) :
    wp (startChecked a gdbPath notes) (fun result s' => result.isSuccess = false → s'.runtime.TornDown)
      (fun _ _ => True) s := by
  rw [startChecked]
  split
  · exact fun _ => SessionRuntime.tornDown_markFailed hs _
  · rw [wp_bind, wp_gets]
    split
    · exact launchSession_failsClean a gdbPath notes s
    · exact fun _ => SessionRuntime.tornDown_markFailed hs _

theorem failStartException_tornDown (e : PyError) (s : Session W) :
    wp (failStartException e) (fun _ s' => s'.runtime.TornDown) (fun _ _ => False) s := by
  have hfail : ∀ failure message : String,
      wp (failStart failure message : SessionM W (OperationResult SessionStartInfo))
        (fun _ s' => s'.runtime.TornDown) (fun _ _ => False) s := by
    intro failure message
    rw [failStart, wp_bind]
    exact wp_mono (cleanupFailedStart_tornDown failure s) (fun _ _ h => h) fun _ _ h => h
  cases e <;> exact hfail _ _

/-- A start always returns. Where it returns an error, either a controller was attached before, and the
runtime is as it was, or the session is torn down. -/
theorem failed_start_tears_down (args : StartArgs) (s : Session W) :
    ∃ result s', (start args).run s = (.ok result, s') ∧
      (result.isSuccess = false →
        (s.runtime.hasController = true ∧
          result = .error "Session already running. Stop it first." ∧ s'.runtime = s.runtime) ∨
        s'.runtime.TornDown) := by
  have h : wp (start args)
      (fun result s' => result.isSuccess = false →
        (s.runtime.hasController = true ∧
          result = .error "Session already running. Stop it first." ∧ s'.runtime = s.runtime) ∨
        s'.runtime.TornDown)
      (fun _ _ => False) s := by
    rw [start, wp_bind, hasController, read, wp_gets]
    cases hcontroller : s.runtime.hasController with
    | true => exact fun _ => .inl ⟨rfl, rfl, rfl⟩
    | false =>
        have hnone : s.runtime.transport.controller = none := by
          simpa [SessionRuntime.hasController] using hcontroller
        simp only [Bool.false_eq_true, if_false, wp_bind, wp_gets, update, onRuntime, wp_zoom, wp_modify,
          wp_attempt]
        refine wp_mono (startChecked_failsClean _ _ _ hnone) (fun _ _ h hfails => .inr (h hfails))
          fun e s' _ => ?_
        exact wp_mono (failStartException_tornDown e s') (fun _ _ h _ => .inr h) fun _ _ h => h
  unfold wp at h
  split at h
  · rename_i result s' hrun
    exact ⟨result, s', hrun, h⟩
  · exact h.elim

end Session
end GdbMcp
