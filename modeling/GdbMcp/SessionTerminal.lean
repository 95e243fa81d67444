import GdbMcp.SessionOperations

/-! A session that has failed or been stopped keeps nothing of its debugger, as long as the debugger is
not lost in an inventory refresh. -/

namespace GdbMcp

open Eff

/-- The session has failed or has been stopped. -/
def SessionRuntime.Terminal (rt : SessionRuntime) : Prop := rt.state = .failed ∨ rt.state = .stopped

/-- A terminal session has no controller and no transient state. -/
def SessionRuntime.TerminalClean (rt : SessionRuntime) : Prop :=
  rt.Terminal → rt.hasController = false ∧ rt.Reset

theorem SessionRuntime.TornDown.hasController {rt : SessionRuntime} (h : rt.TornDown) :
    rt.hasController = false := by
  rw [SessionRuntime.hasController, h.controller]
  rfl

namespace Step

/-- A call does not lose its debugger in an inventory refresh, or else leaving the transport raises. -/
def KeepsRefresh (rt : SessionRuntime) (step : Step) : Prop :=
  step.operation.isCall = true → rt.hasController = true → step.script.exited = .ok () →
    ¬(step.operation.losses step.script).refresh

/-- A call in which the debugger is lost does not return a success. -/
def FailsWhenLost (rt : SessionRuntime) (step : Step) : Prop :=
  step.operation.isCall = true → rt.hasController = true → (step.after rt).hasController = false →
    (step.outcome rt).1 ≠ .ok true

end Step

namespace Session

variable {W : Type} [Gdb W] {s : Session W}

/-! ### Sessions without a controller -/

/-- The operation fails and changes nothing. -/
def Refuses {α : Type} (m : SessionM W (OperationResult α)) (s : Session W) : Prop :=
  wp m (fun result s' => s' = s ∧ result.isSuccess = false) (fun _ _ => False) s

omit [Gdb W] in
theorem guarded_refuses {α : Type} {m : SessionM W (OperationResult α)} {message : String}
    (hs : s.runtime.hasController = false) :
    Refuses (do if ← hasController then m else return .error message) s := by
  rw [Refuses, wp_bind, hasController, read, wp_gets, hs]
  exact ⟨rfl, rfl⟩

theorem executeCommandResult_refuses (hs : s.runtime.hasController = false) (command : String)
    (timeoutSec : Nat) (allow : Bool) : Refuses (executeCommandResult command timeoutSec allow) s := by
  unfold Refuses wp
  rw [executeCommandResult_detached hs]
  exact ⟨rfl, rfl⟩

theorem finish_refuses (hs : s.runtime.hasController = false) (a : ExecArgs) : Refuses (finish a) s := by
  rw [Refuses, finish, wp_bind]
  refine wp_mono (executeCommandResult_refuses hs _ _ _) (fun result s' h => ?_) fun _ _ h => h
  cases result with
  | success info warnings => cases h.2
  | error message fatal details code => exact ⟨h.1, rfl⟩

theorem getStatus_detached (hs : s.runtime.hasController = false) :
    getStatus.run s = (.ok (.success s.runtime.statusSnapshot), s) := by
  simp [getStatus, noticeExit, hasController, read, gets, bind, hs, pure]

/-- Without a controller, an operation other than a start changes nothing, and a call fails. -/
theorem perform_detached {operation : Operation} (hs : s.runtime.hasController = false)
    (hstart : ∀ args, operation ≠ .start args) :
    wp operation.perform (fun ok s' => s' = s ∧ (operation.isCall = true → ok = false))
      (fun _ _ => False) s := by
  have hresult : ∀ {α : Type} {m : SessionM W (OperationResult α)}, Refuses m s →
      wp (OperationResult.isSuccess <$> m) (fun ok s' => s' = s ∧ (operation.isCall = true → ok = false))
        (fun _ _ => False) s := by
    intro α m h
    rw [wp_map]
    exact wp_mono h (fun _ _ h => ⟨h.1, fun _ => h.2⟩) fun _ _ h => h
  cases operation with
  | start args => exact absurd rfl (hstart args)
  | executeCommand command timeoutSec => exact hresult (executeCommandResult_refuses hs _ _ _)
  | run args timeoutSec wait => exact hresult (guarded_refuses hs)
  | continueExecution a => exact hresult (guarded_refuses hs)
  | step a => exact hresult (executeCommandResult_refuses hs _ _ _)
  | next a => exact hresult (executeCommandResult_refuses hs _ _ _)
  | finish a => exact hresult (finish_refuses hs a)
  | callFunction call timeoutSec => exact hresult (guarded_refuses hs)
  | interrupt => exact hresult (guarded_refuses hs)
  | waitForStop timeoutSec reasons => exact hresult (guarded_refuses hs)
  | getStatus =>
      rw [Operation.perform, wp_map, wp, getStatus_detached hs]
      exact ⟨rfl, fun h => by cases h⟩
  | stop => exact hresult (guarded_refuses hs)

/-! ### The operations that are no calls -/

/-- However a stop ends, the session is terminal and keeps nothing. -/
theorem stop_terminal (s : Session W) (hs : s.runtime.hasController = true) :
    wp stop (fun _ s' => s'.runtime.Terminal ∧ s'.runtime.hasController = false ∧ s'.runtime.Reset)
      (fun _ _ => False) s := by
  have hdetached : ∀ c : Channel W, c.client.controller = none →
      (s.withChannel c).runtime.hasController = false := fun c hc => by
    rw [SessionRuntime.hasController]
    exact Option.isSome_eq_false_iff.mpr (Option.isNone_iff_eq_none.mpr hc)
  rw [stop, wp_bind, hasController, read, wp_gets, if_pos hs, wp_attempt, wp_bind, onChannel, wp_zoom]
  refine wp_mono (exit_detaches _) (fun _ c hc => ?_) fun e c hc => ?_
  · exact ⟨.inr rfl, hdetached c hc, SessionRuntime.reset_resetTransient _⟩
  · exact ⟨.inl rfl, hdetached c hc, SessionRuntime.reset_resetTransient _⟩

/-- A status leaves the runtime as it is, or finds that the process is gone. -/
theorem getStatus_outcome (s : Session Scripted) :
    wp getStatus (fun _ s' => s'.runtime = s.runtime ∨ s'.runtime.TornDown) (fun _ _ => False) s := by
  cases hs : s.runtime.hasController with
  | false =>
      rw [wp, getStatus_detached hs]
      exact .inl rfl
  | true =>
      rw [getStatus, wp_bind, noticeExit, wp_bind, hasController, read, wp_gets, if_pos hs, wp_bind,
        wp_isGdbAlive hs]
      split
      · exact .inl rfl
      · exact .inr (tornDown_markTransportTerminated _ _)

/-- A success leaves the session with the given property. -/
def Arrives {α : Type} (P : Session W → Prop) (m : SessionM W (OperationResult α)) (s : Session W) : Prop :=
  wp m (fun result s' => result.isSuccess = true → P s') (fun _ _ => True) s

section Arrives

variable {α β : Type} {P : Session W → Prop}

omit [Gdb W] in
theorem Arrives.bind {m : SessionM W β} {next : β → SessionM W (OperationResult α)}
    (hnext : ∀ b s', Arrives P (next b) s') : Arrives P (m >>= next) s := by
  rw [Arrives, wp_bind]
  exact wp_mono (wp_true m s) (fun b s' _ => hnext b s') fun _ _ h => h

omit [Gdb W] in
theorem Arrives.error (message : String) (fatal : Bool) (details : List (String × Value)) (code : String) :
    Arrives P (pure (.error message fatal details code) : SessionM W (OperationResult α)) s :=
  fun h => nomatch h

theorem Arrives.failStart (failure message : String) (fatal : Bool) (details : List (String × Value)) :
    Arrives P (failStart failure message fatal details : SessionM W (OperationResult α)) s :=
  Arrives.bind fun _ _ => Arrives.error _ _ _ _

theorem Arrives.failStartException (e : PyError) : Arrives P (failStartException e : SessionM W _) s := by
  cases e <;> exact Arrives.failStart _ _ _ _

end Arrives

/-- The session is ready. -/
def Ready (s : Session W) : Prop := s.runtime.state = .ready ∧ s.runtime.isRunning = true

theorem configureSession_ready (a : StartArgs) (startup : ParsedMiResponse) (notes : List String) :
    Arrives Ready (configureSession a startup notes : SessionM W _) s := by
  refine Arrives.bind fun _ _ => Arrives.bind fun _ _ => Arrives.bind fun envResult _ => ?_
  cases envResult with
  | error message fatal details code => exact Arrives.error _ _ _ _
  | success envOutput _ =>
      refine Arrives.bind fun initResult _ => ?_
      cases initResult with
      | error message fatal details code => exact Arrives.error _ _ _ _
      | success initOutput _ => exact Arrives.bind fun _ s' => fun _ => ⟨rfl, rfl⟩

theorem startChecked_ready (a : StartArgs) (gdbPath : String) (notes : List String) :
    Arrives Ready (startChecked a gdbPath notes : SessionM W _) s := by
  rw [startChecked]
  split
  · exact Arrives.bind fun _ _ => Arrives.error _ _ _ _
  · refine Arrives.bind fun found s' => ?_
    split
    · refine Arrives.bind fun _ _ => Arrives.bind fun _ _ => Arrives.bind fun ready _ => ?_
      split
      · exact Arrives.failStart _ _ _ _
      · exact configureSession_ready _ _ _
    · exact Arrives.bind fun _ _ => Arrives.error _ _ _ _

/-- A start that succeeds leaves the session ready. -/
theorem start_ready (args : StartArgs) : Arrives Ready (start args) s := by
  refine Arrives.bind fun attached s' => ?_
  split
  · exact Arrives.error _ _ _ _
  · refine Arrives.bind fun gdbPath s' => Arrives.bind fun _ s' => ?_
    rw [Arrives, wp_attempt]
    exact wp_mono (startChecked_ready _ _ _) (fun _ _ h => h) fun e s' _ => Arrives.failStartException e

end Session

open Session

/-! ### Runs -/

namespace Step

variable {step : Step} {rt : SessionRuntime}

/-- How a call leaves a session with a controller; a raise has no value. -/
theorem call_leaves (hcall : step.operation.isCall = true) (hrt : rt.hasController = true) :
    Ends (step.operation.losses step.script) (step.before rt) (step.outcome rt).2
      (step.outcome rt).1.toOption := by
  rcases outcome_of_wp (step.call_ends hcall hrt) with ⟨ok, hok, h⟩ | ⟨e, he, h⟩
  · rw [hok]
    exact h
  · rw [he]
    exact h

/-- A call either leaves the controller, or fails and leaves a session that is clean where it is terminal,
or it has lost the debugger in a refresh. -/
theorem call_cases (hcall : step.operation.isCall = true) (hrt : rt.hasController = true) :
    (step.after rt).hasController = true ∧ (step.after rt).state = rt.state ∨
      (step.outcome rt).1 ≠ .ok true ∧ (step.after rt).hasController = false ∧
        ((step.after rt).state = rt.state ∨ (step.after rt).Reset) ∨
      (step.operation.losses step.script).refresh ∧ step.script.exited = .ok () := by
  obtain ⟨base, hbase, hscript, h⟩ := call_leaves hcall hrt
  have hstate : base.Kept (step.outcome rt).2 → (step.after rt).state = rt.state := fun kept => by
    rw [after, kept.state, hbase]
    rfl
  have hfailed : (step.outcome rt).1.toOption ≠ some true → (step.outcome rt).1 ≠ .ok true :=
    fun h h' => h (by rw [h']; rfl)
  cases h with
  | attached kept attached => exact .inl ⟨attached, hstate kept⟩
  | tornDown failed script cause down =>
      exact .inr (.inl ⟨hfailed failed, down.hasController, .inr down.toReset⟩)
  | exitRaised raised kept detached lost exited =>
      refine .inr (.inl ⟨hfailed ?_, detached, .inl (hstate kept)⟩)
      rcases raised with h | ⟨h, _⟩ <;> rw [h] <;> exact nofun
  | refreshLost script detached lost exited state isRunning =>
      exact .inr (.inr ⟨lost, by rw [hscript] at exited; exact exited⟩)

theorem start_returns (args : StartArgs) (script : Script) (rt : SessionRuntime) :
    ∃ result, Step.outcome ⟨.start args, script⟩ rt =
        (.ok (OperationResult.isSuccess result), (Step.outcome ⟨.start args, script⟩ rt).2) ∧
      (start args).run (Step.before ⟨.start args, script⟩ rt) =
        (.ok result, (Step.outcome ⟨.start args, script⟩ rt).2) := by
  obtain ⟨result, s', hrun, _⟩ := failed_start_tears_down args (Step.before ⟨.start args, script⟩ rt)
  have houtcome : Step.outcome ⟨.start args, script⟩ rt = (.ok result.isSuccess, s') := by
    rw [outcome, Operation.perform]
    simp only [Functor.map, hrun]
    rfl
  exact ⟨result, by rw [houtcome], by rw [houtcome, hrun]⟩

/-- A start leaves a session with a controller as it was, fails and tears the session down, or leaves it
ready. -/
theorem start_cases (args : StartArgs) (script : Script) (rt : SessionRuntime) :
    rt.hasController = true ∧ Step.after rt ⟨.start args, script⟩ = rt ∨
      (Step.after rt ⟨.start args, script⟩).TornDown ∨
      (Step.outcome ⟨.start args, script⟩ rt).1 = .ok true ∧
        (Step.after rt ⟨.start args, script⟩).state = .ready ∧
        (Step.after rt ⟨.start args, script⟩).isRunning = true := by
  obtain ⟨result, houtcome, hrun⟩ := start_returns args script rt
  obtain ⟨result', s', hrun', hfails⟩ := failed_start_tears_down args (Step.before ⟨.start args, script⟩ rt)
  rw [hrun] at hrun'
  obtain ⟨⟨⟩, rfl⟩ := Prod.mk.inj hrun'
  cases hsuccess : result.isSuccess with
  | true =>
      refine .inr (.inr ⟨?_, wp_ok (start_ready args) hrun hsuccess⟩)
      rw [houtcome, hsuccess]
  | false =>
      rcases hfails hsuccess with ⟨hrt, _, h⟩ | h
      · exact .inl ⟨hrt, h⟩
      · exact .inr (.inl h)

/-- A property that an operation has after every end holds of the runtime after its step. -/
theorem after_of_wp {α : Type} {m : SessionM Scripted (OperationResult α)} {P : SessionRuntime → Prop}
    (hperform : step.operation.perform = OperationResult.isSuccess <$> m)
    (h : wp m (fun _ s' => P s'.runtime) (fun _ _ => False) (step.before rt)) : P (step.after rt) := by
  have hwp : wp step.operation.perform (fun _ s' => P s'.runtime) (fun _ _ => False) (step.before rt) := by
    rw [hperform, wp_map]
    exact h
  rcases outcome_of_wp hwp with ⟨_, _, h⟩ | ⟨_, _, h⟩
  · exact h
  · exact h.elim

theorem getStatus_cases (script : Script) (rt : SessionRuntime) :
    Step.after rt ⟨.getStatus, script⟩ = rt ∨ (Step.after rt ⟨.getStatus, script⟩).TornDown :=
  after_of_wp (P := fun rt' => rt' = rt ∨ rt'.TornDown) rfl
    (getStatus_outcome _)

theorem stop_cases (script : Script) (hrt : rt.hasController = true) :
    (Step.after rt ⟨.stop, script⟩).Terminal ∧ (Step.after rt ⟨.stop, script⟩).hasController = false ∧
      (Step.after rt ⟨.stop, script⟩).Reset :=
  after_of_wp
    (P := fun rt' => rt'.Terminal ∧ rt'.hasController = false ∧ rt'.Reset) rfl (stop_terminal _ hrt)

/-- Without a controller, an operation other than a start leaves the runtime as it is. -/
theorem after_detached (hrt : rt.hasController = false) (hstart : ∀ args, step.operation ≠ .start args) :
    step.after rt = rt := by
  rcases outcome_of_wp (perform_detached (s := step.before rt) hrt hstart) with ⟨ok, _, h, _⟩ | ⟨_, _, h⟩
  · rw [after, h]
    rfl
  · exact h.elim

theorem failsWhenLost (hstep : step.KeepsRefresh rt) : step.FailsWhenLost rt := by
  intro hcall hrt hlost
  rcases call_cases hcall hrt with ⟨hattached, _⟩ | ⟨hfails, _⟩ | ⟨hrefresh, hexited⟩
  · rw [hlost] at hattached
    exact nomatch hattached
  · exact hfails
  · exact absurd hrefresh (hstep hcall hrt hexited)

theorem call_terminalClean (h : rt.TerminalClean) (hstep : step.KeepsRefresh rt)
    (hcall : step.operation.isCall = true) (hrt : rt.hasController = true) :
    (step.after rt).TerminalClean := by
  have halive : ¬rt.Terminal := fun hterminal => by
    rw [(h hterminal).1] at hrt
    exact nomatch hrt
  have hsame : (step.after rt).state = rt.state → ¬(step.after rt).Terminal := fun hstate => by
    rw [SessionRuntime.Terminal, hstate]
    exact halive
  rcases call_cases hcall hrt with ⟨_, hstate⟩ | ⟨_, hdetached, hstate | hreset⟩ | ⟨hrefresh, hexited⟩
  · exact fun hterminal => absurd hterminal (hsame hstate)
  · exact fun hterminal => absurd hterminal (hsame hstate)
  · exact fun _ => ⟨hdetached, hreset⟩
  · exact absurd hrefresh (hstep hcall hrt hexited)

theorem terminalClean_after (h : rt.TerminalClean) (hstep : step.KeepsRefresh rt) :
    (step.after rt).TerminalClean := by
  by_cases hstart : ∃ args, step.operation = .start args
  · obtain ⟨operation, script⟩ := step
    obtain ⟨args, rfl⟩ := hstart
    rcases start_cases args script rt with ⟨_, hsame⟩ | hdown | ⟨_, hready, _⟩
    · rwa [hsame]
    · exact fun _ => ⟨hdown.hasController, hdown.toReset⟩
    · rintro (hterminal | hterminal) <;> rw [hready] at hterminal <;> exact nomatch hterminal
  rw [not_exists] at hstart
  cases hrt : rt.hasController with
  | false => rwa [after_detached hrt hstart]
  | true =>
      cases hcall : step.operation.isCall with
      | true => exact call_terminalClean h hstep hcall hrt
      | false =>
          obtain ⟨operation, script⟩ := step
          cases operation with
          | getStatus =>
              rcases getStatus_cases script rt with hsame | hdown
              · rwa [hsame]
              · exact fun _ => ⟨hdown.hasController, hdown.toReset⟩
          | stop => exact fun _ => (stop_cases script hrt).2
          | start args => exact absurd rfl (hstart args)
          | _ => exact nomatch hcall

end Step

/-- In every run whose calls lose no debugger in an inventory refresh, a terminal session is clean, and no
call that loses its debugger returns a success. -/
theorem terminal_states_clean {steps : List Step} (hsteps : AllSteps Step.KeepsRefresh {} steps) :
    (runSteps {} steps).TerminalClean ∧ AllSteps Step.FailsWhenLost {} steps := by
  have hfresh : ({} : SessionRuntime).TerminalClean := by
    rintro (hterminal | hterminal) <;> exact nomatch hterminal
  exact ⟨runSteps_invariant (fun rt step => Step.terminalClean_after) hfresh hsteps,
    hsteps.imp fun rt step => Step.failsWhenLost⟩

/-- A run in which the debugger stops in a new inferior, and then is lost in the exchange given. -/
def forkedRun (own refresh : Exchange) : List Step :=
  [{ operation := .start { program := some "/bin/true" }, script := .accepting },
    { operation := .continueExecution {}
      script := { rounds := fun _ => { own := own, refresh := refresh } } }]

theorem terminal_states_clean_forkedRun :
    AllSteps Step.KeepsRefresh {} (forkedRun .broken {}) ∧
      (runSteps {} (forkedRun .broken {})).TerminalClean ∧
      AllSteps Step.FailsWhenLost {} (forkedRun .broken {}) := by
  have hsteps : AllSteps Step.KeepsRefresh {} (forkedRun .broken {}) := by
    refine ⟨nofun, ?_, trivial⟩
    rintro _ _ _ ⟨token, hlost⟩
    exact Exchange.not_lost_of_silence token hlost
  exact ⟨hsteps, terminal_states_clean hsteps⟩

/-- The answer to a command whose inferior forks and stops. -/
def forkStop : Exchange := .answering fun token =>
  [resultRecord "running" token, notifyRecord "thread-group-added" [("id", .str "i2")],
    notifyRecord "stopped" [("reason", .str "breakpoint-hit"), ("thread-id", .str "1")]]

/-- A debugger that is lost in the refresh behind a stop: the stop is still written into the session that
has failed, and the call returns a success. -/
theorem lost_refresh_not_clean :
    ¬(runSteps {} (forkedRun forkStop .broken)).TerminalClean ∧
      ¬AllSteps Step.FailsWhenLost {} (forkedRun forkStop .broken) := by
  constructor
  · intro h
    exact nomatch (h (.inl rfl)).2.executionState
  · rintro ⟨_, h, _⟩
    exact h rfl rfl rfl rfl

end GdbMcp
