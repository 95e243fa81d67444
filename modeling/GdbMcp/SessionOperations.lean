import GdbMcp.SessionOutcome

/-! How each operation leaves a session with a controller, in terms of the script that it meets. -/

namespace GdbMcp

open Eff

/-- The operations that talk to a running debugger. -/
def Operation.isCall : Operation → Bool
  | .start _ => false
  | .getStatus => false
  | .stop => false
  | _ => true

/-- The losses that a script has in store for a wait, which sends nothing in its round. -/
def Script.windowLosses (script : Script) : Losses where
  gone := (script.rounds 0).status.alive = false
  own := ∃ error, (waitLoop {} ((script.rounds 0).own.replies 0)).2 = .fatal error
  refresh := ∃ token, (script.rounds 0).refresh.Lost token

/-- The losses that a script has in store for an operation. Only a run with arguments has two rounds;
only an interrupt swallows exceptions. -/
def Operation.losses : Operation → Script → Losses
  | .waitForStop .., script => script.windowLosses
  | .interrupt, script => { script.windowLosses with swallowed := True }
  | .run args _ _, script =>
    if args.isEmpty then script.roundLosses 0
    else
      { gone := (script.roundLosses 0).gone ∨ (script.roundLosses 1).gone
        own := (script.roundLosses 0).own ∨ (script.roundLosses 1).own
        refresh := (script.roundLosses 0).refresh ∨ (script.roundLosses 1).refresh }
  | _, script => script.roundLosses 0

namespace Session

variable {s s₁ s₂ : Session Scripted} {losses losses' : Losses} {α β : Type} {ending : Option Bool}

/-- How an operation leaves the session, whatever round it has come to. -/
def Ends (losses : Losses) (s s' : Session Scripted) (ending : Option Bool) : Prop :=
  ∃ base : Session Scripted, base.runtime = s.runtime ∧ base.gdb.script = s.gdb.script ∧
    Leaves losses base s' ending

theorem Ends.mono (h : Ends losses s s₁ ending) (hle : losses ≤ losses') : Ends losses' s s₁ ending :=
  h.imp fun _ h => ⟨h.1, h.2.1, h.2.2.mono hle⟩

theorem ends_inRound (h : Leaves losses s.inRound s₁ ending) : Ends losses s s₁ ending :=
  ⟨s.inRound, rfl, rfl, h⟩

theorem ends_unchanged (hs : s.runtime.hasController = true) : Ends losses s s ending :=
  ⟨s, rfl, rfl, Leaves.refl hs⟩

/-- What follows a step that keeps the life cycle, in whatever round. -/
theorem Ends.of_kept (h : Kept s s₁) (h' : Ends losses s₁ s₂ ending) : Ends losses s s₂ ending := by
  obtain ⟨base, hbase, hscript, h'⟩ := h'
  refine ⟨{ runtime := s.runtime, gdb := base.gdb }, rfl, hscript.trans h.script, ?_⟩
  have hkept : Kept { runtime := s.runtime, gdb := base.gdb } base :=
    ⟨⟨rfl, rfl⟩, by rw [hbase, h.state], by rw [hbase, h.isRunning]⟩
  exact Leaves.of_kept hkept h'

/-- However the operation ends, it leaves the session in a way that fits its value. -/
def Ending (losses : Losses) (good : α → Bool) (m : SessionM Scripted α) (s : Session Scripted) : Prop :=
  wp m (fun a s' => Ends losses s s' (some (good a))) (fun _ s' => Ends losses s s' none) s

theorem Ending.mono {good : α → Bool} {m : SessionM Scripted α} (h : Ending losses good m s)
    (hle : losses ≤ losses') : Ending losses' good m s :=
  wp_mono h (fun _ _ h => h.mono hle) fun _ _ h => h.mono hle

theorem executeCommandResult_ends (hs : s.runtime.hasController = true) (command : String)
    (timeoutSec : Nat) (allow : Bool) :
    Ending s.roundLosses OperationResult.isSuccess (executeCommandResult command timeoutSec allow) s :=
  wp_mono (executeCommandResult_leaves hs command timeoutSec allow) (fun _ _ h => ends_inRound h)
    fun _ _ h => ends_inRound h

/-- A second command goes on where the first has left the session, or is refused. -/
theorem executeCommandResult_then (h : Leaves losses s.inRound s₁ (some true)) (command : String)
    (timeoutSec : Nat) (allow : Bool) (hle : losses ≤ losses')
    (hle' : s.gdb.script.roundLosses (s.gdb.nextRound + 1) ≤ losses') :
    wp (executeCommandResult command timeoutSec allow)
      (fun result s' => Ends losses' s s' (some result.isSuccess)) (fun _ s' => Ends losses' s s' none) s₁ := by
  cases h with
  | attached kept attached =>
      have hlosses : s₁.roundLosses = s.gdb.script.roundLosses (s.gdb.nextRound + 1) := by
        rw [roundLosses, kept.script, kept.nextRound]
        rfl
      have hkept : ∀ s' ending, Ends s₁.roundLosses s₁ s' ending → Ends losses' s s' ending :=
        fun s' ending h => (Ends.of_kept (s := s.inRound) kept h).mono (hlosses ▸ hle')
      exact wp_mono (executeCommandResult_ends attached command timeoutSec allow)
        (fun _ s' h => hkept s' _ h) fun _ s' h => hkept s' _ h
  | tornDown failed => exact absurd rfl failed
  | exitRaised raised => simp at raised
  | refreshLost script detached lost exited state isRunning =>
      unfold wp
      rw [executeCommandResult_detached detached]
      exact (ends_inRound (.refreshLost script detached lost exited state isRunning)).mono hle

theorem run_ends (hs : s.runtime.hasController = true) (hround : s.gdb.nextRound = 0) (args : List String)
    (timeoutSec : Nat) (waitForStop : Bool) :
    Ending ((Operation.run args timeoutSec waitForStop).losses s.gdb.script) OperationResult.isSuccess
      (run args timeoutSec waitForStop) s := by
  rw [Ending, run, wp_bind, hasController, read, wp_gets, if_pos hs, wp_bind, setArguments, Operation.losses]
  have hfirst : s.roundLosses = s.gdb.script.roundLosses 0 := by rw [roundLosses, hround]
  split
  · rw [wp_pure, OperationResult.isSuccess, if_pos rfl, ← hfirst]
    exact executeCommandResult_ends hs _ _ _
  · refine wp_mono (executeCommandResult_leaves hs _ _ _) (fun prepared s₁ h => ?_) fun _ s₁ h => ?_
    · rw [hfirst] at h
      cases hsuccess : prepared.isSuccess with
      | true =>
          rw [if_pos rfl]
          exact executeCommandResult_then (hsuccess ▸ h) _ _ _ ⟨.inl, .inl, .inl, id⟩
            (by rw [hround]; exact ⟨.inr, .inr, .inr, id⟩)
      | false =>
          rw [if_neg (by simp), wp_pure]
          exact (ends_inRound h).mono ⟨.inl, .inl, .inl, id⟩
    · rw [hfirst] at h
      exact (ends_inRound h).mono ⟨.inl, .inl, .inl, id⟩

theorem continueExecution_ends (hs : s.runtime.hasController = true) (a : ExecArgs) :
    Ending s.roundLosses OperationResult.isSuccess (continueExecution a) s := by
  rw [Ending, continueExecution, wp_bind, hasController, read, wp_gets, if_pos hs, wp_bind, read, wp_gets]
  split
  · exact ends_unchanged hs
  · exact executeCommandResult_ends hs _ _ _

theorem finish_ends (hs : s.runtime.hasController = true) (a : ExecArgs) :
    Ending s.roundLosses OperationResult.isSuccess (finish a) s := by
  rw [Ending, finish, wp_bind]
  refine wp_mono (executeCommandResult_ends hs _ _ _) (fun result s₁ h => ?_) fun _ _ h => h
  cases result <;> exact h

/-- An operation that checks the process itself, in its own round. -/
theorem live_ends {live unattached : SessionM Scripted (OperationResult α)}
    (hs : s.runtime.hasController = true) (hgone : s.round.status.alive = false → losses.gone)
    (hlive : Leaving losses OperationResult.isSuccess live s.inRound) :
    Ending losses OperationResult.isSuccess
      (do
        if ← hasController then
          if ← isGdbAlive then live
          else
            handleDeadTransport deadTransportMessage
            return .error deadTransportMessage
        else unattached) s := by
  rw [Ending, wp_bind, hasController, read, wp_gets, if_pos hs, wp_bind, wp_isGdbAlive hs]
  split
  · exact wp_mono hlive (fun _ _ h => ends_inRound h) fun _ _ h => ends_inRound h
  · rename_i hdead
    rw [wp_bind]
    exact wp_mono (handleDeadTransport_leaves (hgone (Bool.of_not_eq_true hdead)) _)
      (fun _ _ h => ends_inRound h) fun _ _ h => ends_inRound h

theorem settleCall_leaves (hs : s.runtime.hasController = true) (functionCall : String)
    (parsed : ParsedMiResponse) :
    Leaving s.refreshLosses OperationResult.isSuccess (settleCall functionCall parsed) s := by
  refine Leaving.then (update_leaves hs _ parsed) fun _ => ?_
  exact Within.ite ((steady_recordTranscript _).bind fun _ => Within.pure _)
    ((steady_recordTranscript _).bind fun _ => Within.pure _)

theorem callFunction_ends (hs : s.runtime.hasController = true) (functionCall : String) (timeoutSec : Nat) :
    Ending s.roundLosses OperationResult.isSuccess (callFunction functionCall timeoutSec) s := by
  refine live_ends hs id ?_
  refine (waits_send (s := s.inRound) hs _ _).settle rfl
    ⟨False.elim, id, False.elim, id⟩ id (fun result s₁ hresult hs₁ => ?_)
    fun result message hresult => ?_
  · simp only [hresult]
    split
    · exact Leaving.steady ((steady_recordTranscript _).bind fun _ => Within.pure _) hs₁
    · exact settleCall_leaves hs₁ functionCall _
  · simp only [hresult]
    exact ⟨_, .error _ _ _, rfl, rfl⟩

/-- The losses that the next round has in store for a wait without a command. -/
def waitLosses (s : Session Scripted) : Losses where
  gone := s.round.status.alive = false
  own := s.inRound.WindowLost
  refresh := ∃ token, s.round.refresh.Lost token

theorem awaitStop_leaves (hs : s.runtime.hasController = true) (timeoutSec : Nat)
    (stopReasons : List String) :
    Leaving s.waitLosses OperationResult.isSuccess (awaitStop timeoutSec stopReasons) s.inRound := by
  refine (waits_waitForStop (s := s.inRound) hs _).settle rfl
    ⟨False.elim, id, False.elim, id⟩ id (fun result s₁ hresult hs₁ => ?_)
    fun result message hresult => ?_
  · simp only [hresult]
    refine Leaving.then (update_leaves hs₁ _ _) fun _ => ?_
    exact Within.ite ((steady_recordTranscript _).bind fun _ => (steady_read _).bind fun _ => Within.pure _)
      ((steady_recordTranscript _).bind fun _ => (steady_read _).bind fun _ => Within.pure _)
  · simp only [hresult]
    exact ⟨_, .error _ _ _, rfl, rfl⟩

theorem waitForStop_ends (hs : s.runtime.hasController = true) (timeoutSec : Nat)
    (stopReasons : List String) :
    Ending s.waitLosses OperationResult.isSuccess (waitForStop timeoutSec stopReasons) s := by
  refine live_ends hs id ?_
  rw [Leaving, wp_bind, read, wp_gets]
  split
  · exact awaitStop_leaves hs timeoutSec stopReasons
  · exact Leaving.steady ((steady_recordTranscript _).bind fun _ => (steady_read _).bind fun _ =>
      Within.pure _) hs

theorem sendInterrupt_leaves (hs : s.runtime.hasController = true) :
    Leaving { s.waitLosses with swallowed := True } OperationResult.isSuccess sendInterrupt s.inRound := by
  have hmark : ∀ (f : SessionRuntime → SessionRuntime) (entry : CommandTranscriptEntry)
      (result : OperationResult MessageResult), (∀ rt, (f rt).life = rt.life) →
      Within Steady (do update f; recordTranscript entry; return result : SessionM Scripted _) :=
    fun f entry result hf => (steady_update hf).bind fun _ =>
      (steady_recordTranscript _).bind fun _ => Within.pure _
  refine (waits_interrupt (s := s.inRound) hs _).settle rfl
    ⟨False.elim, id, False.elim, id⟩ id (fun result s₁ hresult hs₁ => ?_)
    fun result message hresult => ?_
  · simp only [hresult]
    refine Leaving.then (update_leaves hs₁ _ _) fun _ => Within.ite ?_ ?_
    · exact hmark _ _ _ fun rt => SessionRuntime.life_apply rt (m := .markInferiorRunning none) rfl
    · exact hmark _ _ _ fun rt => SessionRuntime.life_apply rt (m := .markInferiorPaused _ none) rfl
  · simp only [hresult]
    exact ⟨_, .error _ _ _, rfl, rfl⟩

theorem interrupt_ends (hs : s.runtime.hasController = true) :
    Ending { s.waitLosses with swallowed := True } OperationResult.isSuccess interrupt s := by
  refine live_ends hs id ?_
  rw [Leaving, wp_bind, wp_gets]
  split
  · exact sendInterrupt_leaves hs
  · exact Leaves.refl hs

end Session

open Session

/-- How a call leaves a session with a controller. -/
theorem Step.call_ends (step : Step) {rt : SessionRuntime} (hcall : step.operation.isCall = true)
    (hrt : rt.hasController = true) :
    Ending (step.operation.losses step.script) id step.operation.perform (step.before rt) := by
  have hresult : ∀ {α : Type} {losses : Losses} {m : SessionM Scripted (OperationResult α)},
      Ending losses OperationResult.isSuccess m (step.before rt) →
      Ending losses id (OperationResult.isSuccess <$> m) (step.before rt) := by
    intro α losses m h
    rw [Ending, wp_map]
    exact h
  obtain ⟨operation, script⟩ := step
  cases operation with
  | start args => exact nomatch hcall
  | getStatus => exact nomatch hcall
  | stop => exact nomatch hcall
  | executeCommand command timeoutSec => exact hresult (executeCommandResult_ends hrt _ _ _)
  | run args timeoutSec wait => exact hresult (run_ends hrt rfl _ _ _)
  | continueExecution a => exact hresult (continueExecution_ends hrt a)
  | step a => exact hresult (executeCommandResult_ends hrt _ _ _)
  | next a => exact hresult (executeCommandResult_ends hrt _ _ _)
  | finish a => exact hresult (finish_ends hrt a)
  | callFunction call timeoutSec => exact hresult (callFunction_ends hrt _ _)
  | interrupt => exact hresult (interrupt_ends hrt)
  | waitForStop timeoutSec reasons => exact hresult (waitForStop_ends hrt _ _)

end GdbMcp
