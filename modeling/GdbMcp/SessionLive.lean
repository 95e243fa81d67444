import GdbMcp.SessionTerminal

/-! A session that reports itself running has a controller, as long as no failed `exit` hides the loss of
the debugger and no start loses it behind its last command that has to succeed. -/

namespace GdbMcp

open Eff

/-- The session runs if and only if it is ready, and then it has a controller. -/
structure SessionRuntime.Live (rt : SessionRuntime) : Prop where
  ready : rt.isRunning = true ↔ rt.state = .ready
  controller : rt.isRunning = true → rt.hasController = true

theorem SessionRuntime.Terminal.live {rt : SessionRuntime} (h : rt.Terminal) (hrunning : rt.isRunning = false) :
    rt.Live := by
  constructor
  · rcases h with h | h <;> rw [h, hrunning] <;> exact ⟨nofun, nofun⟩
  · rw [hrunning]
    exact nofun

theorem SessionRuntime.TornDown.live {rt : SessionRuntime} (h : rt.TornDown) : rt.Live :=
  Terminal.live (.inl h.state) h.isRunning

/-- A command in round `k` whose failure is a warning loses the controller without a raise. -/
def Script.Detaches (script : Script) (k : Nat) : Prop :=
  (script.roundLosses k).gone ∨
    script.exited = .ok () ∧ ((script.roundLosses k).own ∨ (script.roundLosses k).refresh)

/-- The last of `n` commands from round `k` on, all of them successes, loses the controller in its refresh;
without any the controller is lost if it was before. -/
def Script.DetachesAfter (script : Script) (before : Prop) (k : Nat) : Nat → Prop
  | 0 => before
  | n + 1 => script.exited = .ok () ∧ (script.roundLosses (k + n)).refresh

namespace Session

variable {s s₁ : Session Scripted} {script : Script} {k : Nat} {detached : Prop}

/-- The session has come to round `k` of the script, and has lost its controller only if `detached` says
that it may. -/
structure At (script : Script) (k : Nat) (detached : Prop) (s : Session Scripted) : Prop where
  script : s.gdb.script = script
  round : s.runtime.hasController = true → s.gdb.nextRound = k
  detached : s.runtime.hasController = false → detached

theorem At.mono {detached' : Prop} (h : At script k detached s) (himp : detached → detached') :
    At script k detached' s := ⟨h.script, h.round, himp ∘ h.detached⟩

theorem At.update (h : At script k detached s) {f : SessionRuntime → SessionRuntime}
    (hf : ∀ rt, (f rt).transport = rt.transport) :
    wp (Session.update f) (fun _ s' => At script k detached s') (fun _ _ => False) s := by
  have hcontroller : (f s.runtime).hasController = s.runtime.hasController := by
    rw [SessionRuntime.hasController, hf, SessionRuntime.hasController]
  exact ⟨h.script, fun hs => h.round (hcontroller ▸ hs), fun hs => h.detached (hcontroller ▸ hs)⟩

/-- A command that has to succeed. -/
theorem At.command (h : At script k detached s) (command : String) (timeoutSec : Nat) :
    Arrives (At script (k + 1) (script.DetachesAfter detached k 1))
      (executeCommandResult command timeoutSec) s := by
  cases hs : s.runtime.hasController with
  | false =>
      refine wp_mono (executeCommandResult_refuses hs _ _ _) (fun _ _ h hsuccess => ?_) fun _ _ _ => trivial
      rw [h.2] at hsuccess
      exact nomatch hsuccess
  | true =>
      have hround := h.round hs
      refine wp_mono (executeCommandResult_leaves hs _ _ _) (fun result s' hleaves hsuccess => ?_)
        fun _ _ _ => trivial
      rw [hsuccess] at hleaves
      cases hleaves with
      | attached kept attached =>
          refine ⟨kept.script.trans h.script, fun _ => ?_, fun hs' => ?_⟩
          · rw [kept.nextRound, ← hround]
            rfl
          · rw [attached] at hs'
            exact nomatch hs'
      | tornDown failed => exact absurd rfl failed
      | exitRaised raised => simp at raised
      | refreshLost hscript hdetached lost exited state isRunning =>
          have hscript' : s'.gdb.script = script := hscript.trans h.script
          refine ⟨hscript', fun hs' => ?_, fun _ => ⟨?_, ?_⟩⟩
          · rw [hdetached] at hs'
            exact nomatch hs'
          · rw [← h.script]
            exact exited
          · rw [roundLosses, h.script, hround] at lost
            exact lost

/-- A command whose failure is a warning. -/
theorem At.attempt (h : At script k False s) (command : String) (timeoutSec : Nat) :
    wp (executeCommandResult command timeoutSec)
      (fun _ s' => At script (k + 1) (script.Detaches k) s') (fun _ _ => True) s := by
  cases hs : s.runtime.hasController with
  | false => exact (h.detached hs).elim
  | true =>
      have hround := h.round hs
      have hlosses : s.roundLosses = script.roundLosses k := by rw [roundLosses, h.script, hround]
      refine wp_mono (executeCommandResult_leaves hs _ _ _) (fun result s' hleaves => ?_)
        fun _ _ _ => trivial
      rw [hlosses] at hleaves
      cases hleaves with
      | attached kept attached =>
          refine ⟨kept.script.trans h.script, fun _ => ?_, fun hs' => ?_⟩
          · rw [kept.nextRound, ← hround]
            rfl
          · rw [attached] at hs'
            cases hs'
      | tornDown failed hscript cause down =>
          refine ⟨hscript.trans h.script, fun hs' => ?_, fun _ => ?_⟩
          · rw [down.hasController] at hs'
            cases hs'
          · exact cause.imp_right fun hcause => ⟨h.script ▸ hcause.2, .inl hcause.1⟩
      | exitRaised raised kept detached lost exited =>
          exact (raised.elim (fun h => by cases h) And.right).elim
      | refreshLost hscript hdetached lost exited state isRunning =>
          refine ⟨hscript.trans h.script, fun hs' => ?_, fun _ => .inr ⟨h.script ▸ exited, .inr lost⟩⟩
          rw [hdetached] at hs'
          cases hs'

theorem detachesAfter_add (script : Script) (before : Prop) (k n m : Nat) :
    script.DetachesAfter (script.DetachesAfter before k n) (k + n) m =
      script.DetachesAfter before k (n + m) := by
  cases m with
  | zero => rfl
  | succ m =>
      rw [Script.DetachesAfter, ← Nat.add_assoc, Script.DetachesAfter, Nat.add_assoc]

theorem at_cons (script : Script) (detached : Prop) (k n : Nat) :
    At script (k + 1 + n) (script.DetachesAfter (script.DetachesAfter detached k 1) (k + 1) n) =
      At script (k + (n + 1)) (script.DetachesAfter detached k (n + 1)) := by
  rw [detachesAfter_add, Nat.add_assoc, Nat.add_comm 1 n]

/-- The environment takes one round for every entry. -/
theorem At.applyEnvironment (env : List (String × String)) (output : List Value)
    (h : At script k detached s) :
    Arrives (At script (k + env.length) (script.DetachesAfter detached k env.length))
      (Session.applyEnvironment env output) s := by
  induction env generalizing output s k detached with
  | nil => exact fun _ => h
  | cons entry rest ih =>
      obtain ⟨name, value⟩ := entry
      rw [Session.applyEnvironment]
      split
      · exact Arrives.failStart _ _ _ _
      · rw [Arrives, wp_bind]
        refine wp_mono (h.command _ _) (fun result s₁ h₁ => ?_) fun _ _ h => h
        cases result with
        | success info warnings =>
            rw [List.length_cons, ← at_cons]
            exact ih _ (h₁ rfl)
        | error message fatal details code => exact Arrives.failStart _ _ _ _

/-- So do the caller's commands. -/
theorem At.runInitCommands (commands : List String) (output : List Value) (h : At script k detached s) :
    Arrives (At script (k + commands.length) (script.DetachesAfter detached k commands.length))
      (Session.runInitCommands commands output) s := by
  induction commands generalizing output s k detached with
  | nil => exact fun _ => h
  | cons command rest ih =>
      rw [Session.runInitCommands, Arrives, wp_bind, wp_attempt, wp_map]
      refine wp_mono (h.command _ _) (fun result s₁ h₁ => ?_) fun e s₁ _ => ?_
      · cases result with
        | success info warnings =>
            rw [List.length_cons, ← at_cons]
            exact ih _ (h₁ rfl)
        | error message fatal details code =>
            change Arrives _ (failInitCommand command message fatal _) _
            rw [failInitCommand]
            split
            · exact Arrives.bind fun _ _ => Arrives.failStart _ _ _ _
            · exact Arrives.failStart _ _ _ _
      · exact Arrives.bind fun _ _ => Arrives.failStart _ _ _ _

theorem At.disableConfirmations (h : At script k False s) :
    wp Session.disableConfirmations (fun _ s' => At script (k + 1) (script.Detaches k) s')
      (fun _ _ => True) s := by
  rw [Session.disableConfirmations, wp_bind]
  refine wp_mono (h.attempt _ _) (fun result s' h' => ?_) fun _ _ h => h
  cases result <;> exact h'

theorem At.probeTargetLoaded (h : At script k False s) :
    wp Session.probeTargetLoaded (fun _ s' => At script (k + 1) (script.Detaches k) s')
      (fun _ _ => True) s := by
  rw [Session.probeTargetLoaded, wp_bind]
  refine wp_mono (h.attempt _ _) (fun result s' h' => ?_) fun _ _ h => h
  cases result with
  | success info warnings =>
      rw [wp_bind]
      exact wp_mono (h'.update fun _ => rfl) (fun _ _ h => h) fun _ _ h => False.elim h
  | error message fatal details code => exact h'

end Session

/-- Neither the last command of a start that has to succeed nor the probe behind it loses the controller
unnoticed. Before the commands stands the one that disables confirmations; it may fail. -/
def Script.KeepsStart (script : Script) (args : StartArgs) : Prop :=
  let n := args.env.length + args.initCommands.length
  ¬script.DetachesAfter (script.Detaches 0) 1 n ∧ ¬script.Detaches (n + 1)

namespace Session

variable {s : Session Scripted} {script : Script}

theorem transport_settleExecutionState (a : StartArgs) (rt : SessionRuntime) :
    (settleExecutionState a rt).markReady.transport = rt.transport := by
  have hready : ∀ rt : SessionRuntime, rt.markReady.transport = rt.transport := fun rt => by
    unfold SessionRuntime.markReady
    exact congrArg (fun frame => frame.2.2.1) (SessionRuntime.frame_synchronizeSelectedState _)
  have hstate : ∀ rt k state, (SessionRuntime.updateInferiorState rt k state).transport = rt.transport :=
    fun rt k state => congrArg (fun frame => frame.2.2.1) (SessionRuntime.frame_updateInferiorState rt k state)
  rw [hready, settleExecutionState]
  split
  · split
    · exact hstate _ _ _
    · split
      · exact hstate _ _ _
      · rfl
  · rfl

theorem configureSession_attached {a : StartArgs} (hkeeps : script.KeepsStart a) (h : At script 0 False s)
    (startup : ParsedMiResponse) (notes : List String) :
    Arrives (fun s' => s'.runtime.hasController = true) (configureSession a startup notes) s := by
  obtain ⟨hcommands, hprobe⟩ := hkeeps
  rw [Arrives, configureSession, wp_bind]
  refine wp_mono h.disableConfirmations (fun confirmNotes s₁ h₁ => ?_) fun _ _ h => h
  rw [wp_bind]
  refine wp_mono (h₁.update fun _ => rfl) (fun _ s₂ h₂ => ?_) fun _ _ h => False.elim h
  rw [wp_bind]
  refine wp_mono (h₂.applyEnvironment a.env []) (fun envResult s₃ h₃ => ?_) fun _ _ h => h
  cases envResult with
  | error message fatal details code => exact Arrives.error _ _ _ _
  | success envOutput _ =>
      rw [wp_bind]
      refine wp_mono ((h₃ rfl).runInitCommands a.initCommands []) (fun initResult s₄ h₄ => ?_) fun _ _ h => h
      cases initResult with
      | error message fatal details code => exact Arrives.error _ _ _ _
      | success initOutput _ =>
          have h₄' := h₄ rfl
          rw [detachesAfter_add, Nat.add_assoc] at h₄'
          rw [wp_bind]
          refine wp_mono (h₄'.mono hcommands).probeTargetLoaded (fun probeNotes s₅ h₅ => ?_) fun _ _ h => h
          rw [Nat.add_comm 1] at h₅
          rw [wp_bind]
          refine wp_mono (h₅.update (transport_settleExecutionState a)) (fun _ s₆ h₆ => ?_)
            fun _ _ h => False.elim h
          intro _
          exact eq_true_of_ne_false fun hs => hprobe (h₆.detached hs)

/-- A launch that returns has attached a controller, before the first round. -/
theorem launch_at (hs : s.gdb.script = script) (hround : s.gdb.nextRound = 0) (a : StartArgs)
    (gdbPath : String) :
    wp (launch a gdbPath) (fun _ s' => At script 0 False s') (fun _ _ => True) s := by
  have hat : ∀ s' : Session Scripted, s'.gdb.script = s.gdb.script → s'.gdb.nextRound = s.gdb.nextRound →
      s'.runtime.hasController = true → At script 0 False s' := fun s' hscript hnext hattached =>
    ⟨hscript.trans hs, fun _ => hnext.trans hround, fun h => by rw [hattached] at h; exact nomatch h⟩
  unfold launch
  split
  · rw [onChannel, wp_zoom, MiClient.adopt, wp_bind, MiClient.call, wp_zoom]
    cases hconnected : s.gdb.script.connected with
    | ok value =>
        simp only [wp, Gdb.connect, channel, hconnected]
        exact hat _ rfl rfl rfl
    | error e => simp only [wp, Gdb.connect, channel, hconnected]
  · rw [wp_bind, wp_gets, onChannel, wp_zoom, MiClient.start, wp_bind, MiClient.call, wp_zoom]
    cases hspawned : s.gdb.script.spawned with
    | ok value =>
        simp only [wp, Gdb.spawn, channel, hspawned]
        exact hat _ rfl rfl rfl
    | error e => simp only [wp, Gdb.spawn, channel, hspawned]

/-- A drain that returns has kept the controller. -/
theorem readInitialOutput_at (h : At script 0 False s) (timeoutSec : Nat) :
    wp (onChannel (MiClient.readInitialOutput timeoutSec)) (fun _ s' => At script 0 False s')
      (fun _ _ => True) s := by
  have hs : s.channel.client.controller.isSome = true := eq_true_of_ne_false h.detached
  rw [onChannel, wp_zoom, MiClient.readInitialOutput, wp_bind, MiClient.hasController, wp_gets, if_pos hs,
    wp_bind, wp_polls]
  simp only [MiClient.recordRead, MiClient.updateClient, wp_bind, wp_modify]
  split
  · exact ⟨h.script, fun _ => h.round hs, fun hs' => h.detached hs'⟩
  · rw [wp_bind]
    exact wp_mono (wp_true _ _) (fun _ _ _ => trivial) fun _ _ _ => trivial
  · trivial

theorem launchSession_attached {a : StartArgs} (hkeeps : script.KeepsStart a) (hs : s.gdb.script = script)
    (hround : s.gdb.nextRound = 0) (gdbPath : String) (notes : List String) :
    Arrives (fun s' => s'.runtime.hasController = true) (launchSession a gdbPath notes) s := by
  rw [Arrives, launchSession, wp_bind]
  refine wp_mono (launch_at hs hround a gdbPath) (fun _ s₁ h₁ => ?_) fun _ _ h => h
  rw [wp_bind]
  refine wp_mono (readInitialOutput_at h₁ 1) (fun initial s₂ h₂ => ?_) fun _ _ h => h
  have hs₂ : s₂.runtime.hasController = true := eq_true_of_ne_false h₂.detached
  rw [wp_bind]
  refine wp_mono (waits_send hs₂ _ _) (fun ready s₃ h₃ => ?_) fun _ _ _ => trivial
  split
  · exact Arrives.failStart _ _ _ _
  · rename_i hready
    rcases h₃ with ⟨_, kept, hs₃, _⟩ | ⟨⟨message, herror⟩, _⟩
    · refine configureSession_attached hkeeps ⟨kept.script.trans h₂.script, fun _ => ?_, fun h => ?_⟩ _ _
      · rw [kept.nextRound, h₂.round hs₂]
      · rw [hs₃] at h
        cases h
    · exact absurd (by simp [herror]) hready

theorem start_attached_refuses (hs : s.runtime.hasController = true) (args : StartArgs) :
    (start args).run s = (.ok (.error "Session already running. Stop it first."), s) := by
  simp [start, hasController, read, gets, bind, hs, pure]

/-- A start that succeeds has kept its controller. -/
theorem start_attached {args : StartArgs} (hkeeps : s.gdb.script.KeepsStart args)
    (hround : s.gdb.nextRound = 0) :
    Arrives (fun s' => s'.runtime.hasController = true) (start args) s := by
  have hargs : s.gdb.script.KeepsStart args.withoutIgnoredProgram := by
    have hlists : args.withoutIgnoredProgram.env = args.env ∧
        args.withoutIgnoredProgram.initCommands = args.initCommands := by
      rw [StartArgs.withoutIgnoredProgram]
      split <;> exact ⟨rfl, rfl⟩
    rwa [Script.KeepsStart, hlists.1, hlists.2]
  have hlaunch := fun rt => launchSession_attached (s := ⟨rt, s.gdb⟩) hargs rfl hround
  rw [Arrives, start, wp_bind, hasController, read, wp_gets]
  split
  · exact Arrives.error _ _ _ _
  · rw [wp_bind, wp_gets, wp_bind, update, onRuntime, wp_zoom, wp_modify, wp_attempt]
    refine wp_mono ?_ (fun _ _ h => h) fun e s' (_ : True) => Arrives.failStartException e
    rw [startChecked]
    split
    · exact Arrives.bind fun _ _ => Arrives.error _ _ _ _
    · rw [wp_bind, wp_gets]
      split
      · exact hlaunch _ _ _
      · exact Arrives.bind fun _ _ => Arrives.error _ _ _ _

end Session
open Session

namespace Step

/-- The controller is not lost unnoticed: a start keeps it, and a call that loses it can leave the
transport. -/
def KeepsController (rt : SessionRuntime) (step : Step) : Prop :=
  match step.operation with
  | .start args => rt.hasController = false → step.script.KeepsStart args
  | operation =>
    operation.isCall = true → rt.hasController = true → (∃ e, step.script.exited = .error e) →
      ¬(operation.losses step.script).own ∧ ¬(operation.losses step.script).refresh

variable {step : Step} {rt : SessionRuntime}

theorem start_live (h : rt.Live) {args : StartArgs} {script : Script}
    (hstep : KeepsController rt ⟨.start args, script⟩) : (Step.after rt ⟨.start args, script⟩).Live := by
  rcases start_cases args script rt with ⟨_, hsame⟩ | hdown | ⟨hok, hready, hrunning⟩
  · rwa [hsame]
  · exact hdown.live
  · refine ⟨⟨fun _ => hready, fun _ => hrunning⟩, fun _ => ?_⟩
    obtain ⟨result, houtcome, hrun⟩ := start_returns args script rt
    have hsuccess : result.isSuccess = true := by
      rw [houtcome] at hok
      exact Except.ok.inj hok
    cases hrt : rt.hasController with
    | false => exact wp_ok (start_attached (hstep hrt) rfl) hrun hsuccess
    | true =>
        rw [start_attached_refuses (s := Step.before _ rt) hrt] at hrun
        obtain ⟨⟨⟩, _⟩ := Prod.mk.inj hrun
        exact nomatch hsuccess

/-- A call leaves its controller, a session that does not run, or a debugger lost behind a raise. -/
theorem call_live (h : rt.Live) (hcall : step.operation.isCall = true) (hrt : rt.hasController = true)
    (hstep : (∃ e, step.script.exited = .error e) →
      ¬(step.operation.losses step.script).own ∧ ¬(step.operation.losses step.script).refresh) :
    (step.after rt).Live := by
  obtain ⟨base, hbase, hscript, hleaves⟩ := call_leaves hcall hrt
  cases hleaves with
  | attached kept attached =>
      refine ⟨?_, fun _ => attached⟩
      rw [after, kept.isRunning, kept.state, hbase]
      exact h.ready
  | tornDown failed script cause down => exact down.live
  | exitRaised raised kept detached lost exited =>
      obtain ⟨hown, hrefresh⟩ := hstep (by rw [hscript] at exited; exact exited)
      exact (lost.elim hown hrefresh).elim
  | refreshLost script detached lost exited state isRunning =>
      exact SessionRuntime.Terminal.live (.inl state) isRunning

theorem live_after (h : rt.Live) (hstep : step.KeepsController rt) : (step.after rt).Live := by
  obtain ⟨operation, script⟩ := step
  by_cases hstart : ∃ args, operation = .start args
  · obtain ⟨args, rfl⟩ := hstart
    exact start_live h hstep
  rw [not_exists] at hstart
  cases hrt : rt.hasController with
  | false => rwa [after_detached hrt hstart]
  | true =>
      cases operation with
      | start args => exact absurd rfl (hstart args)
      | getStatus =>
          rcases getStatus_cases script rt with hsame | hdown
          · rwa [hsame]
          · exact hdown.live
      | stop =>
          obtain ⟨hterminal, _, hreset⟩ := stop_cases script hrt
          exact hterminal.live hreset.isRunning
      | _ => exact call_live h rfl hrt (hstep rfl hrt)

end Step

/-- In every run whose steps keep the controller or notice its loss, the session runs exactly if it is
ready, and has a controller whenever it runs. -/
theorem running_has_controller {steps : List Step} (hsteps : AllSteps Step.KeepsController {} steps) :
    (runSteps {} steps).Live :=
  runSteps_invariant (fun _ _ => Step.live_after) ⟨⟨nofun, nofun⟩, nofun⟩ hsteps

theorem not_detaches_accepting (k : Nat) : ¬Script.accepting.Detaches k := by
  rintro (hgone | ⟨_, ⟨token, hlost⟩ | ⟨token, hlost⟩⟩)
  · exact nomatch hgone
  · exact Exchange.not_lost_of_done token hlost
  · exact Exchange.not_lost_of_silence token hlost

theorem running_has_controller_forkedRun :
    AllSteps Step.KeepsController {} (forkedRun forkStop .broken) ∧
      (runSteps {} (forkedRun forkStop .broken)).Live := by
  have hsteps : AllSteps Step.KeepsController {} (forkedRun forkStop .broken) := by
    refine ⟨fun _ => ⟨not_detaches_accepting 0, not_detaches_accepting 1⟩, ?_, trivial⟩
    rintro _ _ ⟨e, he⟩
    exact nomatch he
  exact ⟨hsteps, running_has_controller hsteps⟩

/-- A debugger that is lost when confirmations are disabled: the start succeeds without a controller. -/
theorem lost_confirm_not_live :
    ¬(runSteps {} [{ operation := .start {}
                     script := { Script.accepting with rounds := fun _ => { own := .broken } } }]).Live :=
  fun h => nomatch h.controller rfl

end GdbMcp
