import GdbMcp.RuntimeSteps
import GdbMcp.SessionRun

/-! Every operation of a session changes the runtime in steps, whatever the debugger does. What holds of
all runs of steps then holds of all runs of operations. -/

namespace GdbMcp

open Eff

/-- The step that begins a session anew. -/
def RuntimeStep.isRestart : RuntimeStep → Bool
  | .mutate (.beginStartup _) => true
  | _ => false

/-- A relation that runs of steps follow in which no session begins anew. -/
class Followed (R : SessionRuntime → SessionRuntime → Prop) : Prop extends Std.Refl R, IsTrans SessionRuntime R where
  take (rt : SessionRuntime) (step : RuntimeStep) : step.isRestart = false → R rt (rt.take step)

/-- Steps lead from one runtime to the other. -/
def SessionRuntime.Leads : SessionRuntime → SessionRuntime → Prop :=
  Later fun rt step rt' => rt' = rt.take step

theorem SessionRuntime.leads_take (rt : SessionRuntime) (step : RuntimeStep) : rt.Leads (rt.take step) :=
  Later.one rfl

instance : Followed SessionRuntime.Leads where
  refl := Later.refl
  trans _ _ _ := Later.trans
  take rt step _ := rt.leads_take step

section Runtime

variable {R : SessionRuntime → SessionRuntime → Prop} [Followed R]

theorem Updated.followed {S : Mutator → Prop} (hS : ∀ m, S m → m.isUpdate = true) {rt rt' : SessionRuntime}
    (h : Updated S rt rt') : R rt rt' := by
  induction h with
  | refl => exact refl_of R rt
  | mutate _ m hm ih =>
      refine trans_of R ih (Followed.take _ (.mutate m) ?_)
      cases m <;> first | rfl | exact nomatch hS _ hm
  | loaded _ targetLoaded ih => exact trans_of R ih (Followed.take _ (.loaded targetLoaded) rfl)

theorem QuietUpdate.followed {starts : Int → Prop} {α : Type} {m : RuntimeM α} (hm : QuietUpdate starts m) :
    Within R m :=
  Within.mono hm fun _ _ h => h.followed fun _ => Mutator.Quiet.isUpdate

end Runtime

namespace Session

variable {W : Type} {α : Type} {R : SessionRuntime → SessionRuntime → Prop}

/-- The runtime of the session has moved along the relation. -/
def Moves (R : SessionRuntime → SessionRuntime → Prop) (s s' : Session W) : Prop := R s.runtime s'.runtime

instance [Std.Refl R] : Std.Refl (Moves R : Session W → Session W → Prop) := ⟨fun s => refl_of R s.runtime⟩

instance [IsTrans SessionRuntime R] : IsTrans (Session W) (Moves R) := ⟨fun _ _ _ h h' => trans_of R h h'⟩

/-- A computation whose steps follow the relation. -/
abbrev Stepwise (R : SessionRuntime → SessionRuntime → Prop) (m : SessionM W α) : Prop := Within (Moves R) m

theorem stepwise_onRuntime {m : RuntimeM α} (hm : Within R m) : Stepwise R (onRuntime m : SessionM W α) := by
  refine ⟨fun s => ?_⟩
  rw [onRuntime, wp_zoom]
  exact hm.outcome s.runtime

theorem stepwise_update {f : SessionRuntime → SessionRuntime} (hf : ∀ rt : SessionRuntime, R rt (f rt)) :
    Stepwise R (update f : SessionM W Unit) :=
  stepwise_onRuntime (Within.modify hf)

variable [Followed R]

theorem stepwise_onChannel (m : ChannelM W α) : Stepwise R (onChannel m) := by
  refine ⟨fun s => ?_⟩
  rw [onChannel, wp_zoom]
  have hmoved : ∀ c : Channel W, Moves R s (s.withChannel c) :=
    fun c => Followed.take s.runtime (.client c.client) rfl
  exact wp_mono (wp_true m s.channel) (fun _ c _ => hmoved c) fun _ c _ => hmoved c

/-- An update that is one step. -/
theorem stepwise_step {f : SessionRuntime → SessionRuntime} (step : SessionRuntime → RuntimeStep)
    (hf : ∀ rt, f rt = rt.take (step rt)) (hstep : ∀ rt, (step rt).isRestart = false) :
    Stepwise R (update f : SessionM W Unit) :=
  stepwise_update fun rt => hf rt ▸ Followed.take rt (step rt) (hstep rt)

theorem stepwise_mutate {f : SessionRuntime → SessionRuntime} (m : SessionRuntime → Mutator)
    (hf : ∀ rt, f rt = rt.apply (m rt)) (hm : ∀ rt, (RuntimeStep.mutate (m rt)).isRestart = false) :
    Stepwise R (update f : SessionM W Unit) :=
  stepwise_step (fun rt => .mutate (m rt)) hf hm

theorem stepwise_read (f : SessionRuntime → α) : Stepwise R (read f : SessionM W α) := Within.gets _

theorem stepwise_handleDeadTransport (message : String) :
    Stepwise R (handleDeadTransport message : SessionM W Unit) :=
  stepwise_mutate (fun _ => .markTransportTerminated message) (fun _ => rfl) fun _ => rfl

theorem stepwise_transportCall (m : ChannelM W MiTransportResponse) : Stepwise R (transportCall m) := by
  refine (stepwise_onChannel m).bind fun result => Within.ite ?_ (Within.pure _)
  exact (stepwise_mutate (fun _ => .markTransportTerminated _) (fun _ => rfl) fun _ => rfl).bind fun _ => Within.pure _

theorem stepwise_applyInventory (result : MiTransportResponse) :
    Stepwise R (applyInventory result : SessionM W Unit) := by
  unfold applyInventory
  refine Within.ite (Within.pure _) ((stepwise_read _).bind fun current => ?_)
  refine (stepwise_onRuntime (Within.ofExcept _)).bind fun payload => ?_
  exact stepwise_mutate (fun _ => .updateInferiorInventory _ _ _) (fun _ => rfl) fun _ => rfl

section Debugger

variable [Gdb W]

theorem stepwise_time : Stepwise R (time : SessionM W Nat) := stepwise_onChannel _

theorem stepwise_isGdbAlive : Stepwise R (isGdbAlive : SessionM W Bool) := stepwise_onChannel _

theorem stepwise_recordTranscript (entry : CommandTranscriptEntry) :
    Stepwise R (recordTranscript entry : SessionM W Unit) :=
  stepwise_time.bind fun _ => stepwise_mutate (fun _ => .recordCommandTranscript _) (fun _ => rfl) fun _ => rfl

/-! ### Commands -/

theorem stepwise_refresh : Stepwise R (refreshInferiorInventoryFromGdb : SessionM W Unit) := by
  refine (stepwise_read _).bind fun _ => Within.ite ?_ (Within.pure _)
  exact (stepwise_transportCall _).bind fun result => stepwise_applyInventory result

theorem stepwise_applyScan (command : String) (resultClass : Option String) (scan : StopScan) :
    Stepwise R (applyScan command resultClass scan : SessionM W Unit) := by
  unfold applyScan
  cases scan.stop with
  | some stop =>
      refine (Within.ite stepwise_refresh (Within.pure _)).bind fun _ => stepwise_time.bind fun now => ?_
      exact stepwise_step (fun _ => .stop command stop now) (fun _ => rfl) fun _ => rfl
  | none =>
      refine Within.ite ?_ (Within.pure _)
      exact stepwise_mutate (fun rt => .markInferiorRunning rt.currentInferiorId) (fun _ => rfl) fun _ => rfl

theorem stepwise_updateRuntimeAfterCommand (command : String) (parsed : ParsedMiResponse) :
    Stepwise R (updateRuntimeAfterCommand command parsed : SessionM W Unit) := by
  refine (stepwise_onRuntime (quiet_scanNotifies {} parsed.notify).followed).bind fun scan => ?_
  refine (stepwise_applyScan command _ scan).bind fun _ => stepwise_onRuntime ?_
  exact (@quiet_applyCommandText (fun _ => False) command parsed).followed

theorem stepwise_settleTimeout (command : String) (timeoutSec : Nat) (allow : Bool) (parsed : ParsedMiResponse) :
    Stepwise R (settleTimeout command timeoutSec allow parsed : SessionM W _) := by
  refine (stepwise_updateRuntimeAfterCommand command parsed).bind fun _ => (stepwise_read _).bind fun _ => ?_
  exact Within.ite ((stepwise_recordTranscript _).bind fun _ => Within.pure _)
    ((stepwise_recordTranscript _).bind fun _ => Within.pure _)

theorem stepwise_settleAnswer (command : String) (parsed : ParsedMiResponse) :
    Stepwise R (settleAnswer command parsed : SessionM W _) := by
  refine Within.ite ((stepwise_recordTranscript _).bind fun _ => Within.pure _) ?_
  refine (stepwise_updateRuntimeAfterCommand command parsed).bind fun _ => ?_
  exact (stepwise_recordTranscript _).bind fun _ => Within.pure _

theorem stepwise_settleCommand (command : String) (timeoutSec : Nat) (allow : Bool)
    (result : MiTransportResponse) : Stepwise R (settleCommand command timeoutSec allow result : SessionM W _) := by
  unfold settleCommand
  cases result.error with
  | some error => exact (stepwise_recordTranscript _).bind fun _ => Within.pure _
  | none => exact Within.ite (stepwise_settleTimeout _ _ _ _) (stepwise_settleAnswer _ _)

theorem stepwise_executeCommandResult (command : String) (timeoutSec : Nat) (allow : Bool) :
    Stepwise R (executeCommandResult command timeoutSec allow : SessionM W _) := by
  refine (stepwise_read _).bind fun _ => Within.ite ?_ (Within.pure _)
  refine stepwise_isGdbAlive.bind fun _ => Within.ite ?_ ?_
  · exact (stepwise_transportCall _).bind fun result => stepwise_settleCommand _ _ _ result
  · refine (stepwise_handleDeadTransport _).bind fun _ => ?_
    exact (stepwise_recordTranscript _).bind fun _ => Within.pure _

/-! ### Execution -/

theorem stepwise_setArguments (args : List String) (timeoutSec : Nat) :
    Stepwise R (setArguments args timeoutSec : SessionM W _) :=
  Within.ite (Within.pure _) (stepwise_executeCommandResult _ _ _)

theorem stepwise_run (args : List String) (timeoutSec : Nat) (waitForStop : Bool) :
    Stepwise R (run args timeoutSec waitForStop : SessionM W _) := by
  refine (stepwise_read _).bind fun _ => Within.ite ?_ (Within.pure _)
  refine (stepwise_setArguments args timeoutSec).bind fun prepared => Within.ite ?_ (Within.pure _)
  exact stepwise_executeCommandResult _ _ _

theorem stepwise_continueExecution (a : ExecArgs) : Stepwise R (continueExecution a : SessionM W _) := by
  refine (stepwise_read _).bind fun _ => Within.ite ?_ (Within.pure _)
  exact (stepwise_read _).bind fun _ => Within.ite (Within.pure _) (stepwise_executeCommandResult _ _ _)

theorem stepwise_finish (a : ExecArgs) : Stepwise R (finish a : SessionM W _) := by
  refine (stepwise_executeCommandResult _ _ _).bind fun result => ?_
  cases result with
  | error => exact Within.pure _
  | success => exact (stepwise_read _).bind fun _ => Within.pure _

/-- What a wait, an interrupt and a call do once they have found the process alive. -/
theorem stepwise_live {live : SessionM W (OperationResult α)} (hlive : Stepwise R live) :
    Stepwise R (do
      if ← hasController then
        if ← isGdbAlive then live
        else
          handleDeadTransport deadTransportMessage
          return .error deadTransportMessage
      else return .error "No active GDB session" : SessionM W (OperationResult α)) := by
  refine (stepwise_read _).bind fun _ => Within.ite ?_ (Within.pure _)
  refine stepwise_isGdbAlive.bind fun _ => Within.ite hlive ?_
  exact (stepwise_handleDeadTransport _).bind fun _ => Within.pure _

theorem stepwise_awaitStop (timeoutSec : Nat) (stopReasons : List String) :
    Stepwise R (awaitStop timeoutSec stopReasons : SessionM W _) := by
  refine (stepwise_transportCall _).bind fun result => ?_
  split
  · exact (stepwise_recordTranscript _).bind fun _ => Within.pure _
  · refine (stepwise_updateRuntimeAfterCommand _ _).bind fun _ => Within.ite ?_ ?_
    · exact (stepwise_recordTranscript _).bind fun _ => (stepwise_read _).bind fun _ => Within.pure _
    · exact (stepwise_recordTranscript _).bind fun _ => (stepwise_read _).bind fun _ => Within.pure _

theorem stepwise_waitForStop (timeoutSec : Nat) (stopReasons : List String) :
    Stepwise R (waitForStop timeoutSec stopReasons : SessionM W _) := by
  refine stepwise_live ((stepwise_read _).bind fun _ => Within.ite (stepwise_awaitStop _ _) ?_)
  exact (stepwise_recordTranscript _).bind fun _ => (stepwise_read _).bind fun _ => Within.pure _

theorem stepwise_sendInterrupt : Stepwise R (sendInterrupt : SessionM W _) := by
  refine (stepwise_transportCall _).bind fun result => ?_
  split
  · exact (stepwise_recordTranscript _).bind fun _ => Within.pure _
  · refine (stepwise_updateRuntimeAfterCommand _ _).bind fun _ => Within.ite ?_ ?_
    · refine (stepwise_mutate (fun _ => .markInferiorRunning none) (fun _ => rfl) fun _ => rfl).bind fun _ => ?_
      exact (stepwise_recordTranscript _).bind fun _ => Within.pure _
    · refine (stepwise_mutate (fun _ => .markInferiorPaused _ none) (fun _ => rfl) fun _ => rfl).bind fun _ => ?_
      exact (stepwise_recordTranscript _).bind fun _ => Within.pure _

theorem stepwise_interrupt : Stepwise R (interrupt : SessionM W _) :=
  stepwise_live ((Within.gets _).bind fun _ => Within.ite stepwise_sendInterrupt (Within.pure _))

theorem stepwise_settleCall (functionCall : String) (parsed : ParsedMiResponse) :
    Stepwise R (settleCall functionCall parsed : SessionM W _) := by
  refine (stepwise_updateRuntimeAfterCommand _ _).bind fun _ => Within.ite ?_ ?_
  · exact (stepwise_recordTranscript _).bind fun _ => Within.pure _
  · exact (stepwise_recordTranscript _).bind fun _ => Within.pure _

theorem stepwise_callFunction (functionCall : String) (timeoutSec : Nat) :
    Stepwise R (callFunction functionCall timeoutSec : SessionM W _) := by
  refine stepwise_live ((stepwise_transportCall _).bind fun result => ?_)
  split
  · exact (stepwise_recordTranscript _).bind fun _ => Within.pure _
  · refine Within.ite ?_ (stepwise_settleCall _ _)
    exact (stepwise_recordTranscript _).bind fun _ => Within.pure _

/-! ### The life cycle -/

theorem stepwise_exitQuietly : Stepwise R (exitQuietly : SessionM W Unit) := by
  refine (stepwise_read _).bind fun _ => Within.ite ?_ (Within.pure _)
  exact (stepwise_onChannel _).attempt fun _ => Within.pure _

theorem stepwise_failStart (failure message : String) (fatal : Bool) (details : List (String × Value)) :
    Stepwise R (failStart failure message fatal details : SessionM W (OperationResult α)) := by
  refine Within.bind (stepwise_exitQuietly.bind fun _ => ?_) fun _ => Within.pure _
  exact stepwise_mutate (fun _ => .markFailed failure) (fun _ => rfl) fun _ => rfl

theorem stepwise_applyEnvironment (env : List (String × String)) (output : List Value) :
    Stepwise R (applyEnvironment env output : SessionM W _) := by
  induction env generalizing output with
  | nil => exact Within.pure _
  | cons entry rest ih =>
      obtain ⟨name, value⟩ := entry
      unfold applyEnvironment
      split
      · exact stepwise_failStart _ _ _ _
      · refine (stepwise_executeCommandResult _ _ _).bind fun result => ?_
        cases result with
        | success => exact ih _
        | error => exact stepwise_failStart _ _ _ _

theorem stepwise_failInitCommand (command message : String) (fatal : Bool) (output : List Value) :
    Stepwise R (failInitCommand command message fatal output : SessionM W _) := by
  unfold failInitCommand
  split
  · exact stepwise_isGdbAlive.bind fun _ => stepwise_failStart _ _ _ _
  · exact stepwise_failStart _ _ _ _

theorem stepwise_runInitCommands (commands : List String) (output : List Value) :
    Stepwise R (runInitCommands commands output : SessionM W _) := by
  induction commands generalizing output with
  | nil => exact Within.pure _
  | cons command rest ih =>
      refine Within.bind ?_ fun outcome => ?_
      · exact ((stepwise_executeCommandResult _ _ _).map _).attempt fun _ => Within.pure _
      · cases outcome with
        | error e => exact stepwise_isGdbAlive.bind fun _ => stepwise_failStart _ _ _ _
        | ok result =>
            cases result with
            | success => exact ih _
            | error => exact stepwise_failInitCommand _ _ _ _

theorem stepwise_probeTargetLoaded : Stepwise R (probeTargetLoaded : SessionM W _) := by
  refine (stepwise_executeCommandResult _ _ _).bind fun result => ?_
  cases result with
  | success info =>
      refine Within.bind ?_ fun _ => Within.pure _
      exact stepwise_step (fun _ => .loaded (outputShowsTarget info)) (fun _ => rfl) fun _ => rfl
  | error => exact Within.pure _

theorem stepwise_disableConfirmations : Stepwise R (disableConfirmations : SessionM W _) := by
  refine (stepwise_executeCommandResult _ _ _).bind fun result => ?_
  cases result <;> exact Within.pure _

theorem followed_settleExecutionState (a : StartArgs) (rt : SessionRuntime) : R rt (settleExecutionState a rt) := by
  unfold settleExecutionState
  split
  · split
    · exact Followed.take rt (.mutate (.markInferiorPaused (some "core-file") none)) rfl
    · split
      · exact Followed.take rt (.mutate (.markInferiorNotStarted none)) rfl
      · exact refl_of R rt
  · exact refl_of R rt

theorem stepwise_configureSession (a : StartArgs) (startup : ParsedMiResponse) (notes : List String) :
    Stepwise R (configureSession a startup notes : SessionM W _) := by
  refine stepwise_disableConfirmations.bind fun _ => Within.bind ?_ fun _ => ?_
  · exact stepwise_step (fun _ => .loaded _) (fun _ => rfl) fun _ => rfl
  refine (stepwise_applyEnvironment _ _).bind fun environment => ?_
  cases environment with
  | error => exact Within.pure _
  | success =>
      refine (stepwise_runInitCommands _ _).bind fun initialized => ?_
      cases initialized with
      | error => exact Within.pure _
      | success =>
          refine stepwise_probeTargetLoaded.bind fun _ => Within.bind (stepwise_update fun rt => ?_) fun _ => ?_
          · exact trans_of R (followed_settleExecutionState a rt) (Followed.take _ (.mutate .markReady) rfl)
          · exact (stepwise_read _).bind fun _ => Within.pure _

theorem stepwise_launch (a : StartArgs) (gdbPath : String) : Stepwise R (launch a gdbPath : SessionM W Unit) :=
  Within.ite (stepwise_onChannel _) ((Within.gets _).bind fun _ => stepwise_onChannel _)

theorem stepwise_launchSession (a : StartArgs) (gdbPath : String) (notes : List String) :
    Stepwise R (launchSession a gdbPath notes : SessionM W _) := by
  refine (stepwise_launch a gdbPath).bind fun _ => (stepwise_onChannel _).bind fun _ => ?_
  refine (stepwise_transportCall _).bind fun ready => Within.ite ?_ ?_
  · exact stepwise_failStart _ _ _ _
  · exact stepwise_configureSession _ _ _

theorem stepwise_startChecked (a : StartArgs) (gdbPath : String) (notes : List String) :
    Stepwise R (startChecked a gdbPath notes : SessionM W _) := by
  have hfailed : ∀ failure message : String,
      Stepwise R (do update (·.markFailed failure); return .error message : SessionM W (OperationResult SessionStartInfo)) :=
    fun failure _ => (stepwise_mutate (fun _ => .markFailed failure) (fun _ => rfl) fun _ => rfl).bind fun _ => Within.pure _
  unfold startChecked
  split
  · exact hfailed _ _
  · exact (Within.gets _).bind fun _ => Within.ite (stepwise_launchSession _ _ _) (hfailed _ _)

theorem stepwise_failStartException (e : PyError) : Stepwise R (failStartException e : SessionM W _) := by
  cases e <;> exact stepwise_failStart _ _ _ _

/-- A start begins the session anew, and goes on in other steps. -/
theorem stepwise_start (hrestart : ∀ (rt : SessionRuntime) config, R rt (rt.beginStartup config)) (args : StartArgs) :
    Stepwise R (start args : SessionM W _) := by
  refine (stepwise_read _).bind fun _ => Within.ite (Within.pure _) ((Within.gets _).bind fun gdbPath => ?_)
  refine (stepwise_update fun rt => hrestart rt _).bind fun _ => ?_
  exact (stepwise_startChecked _ _ _).attempt stepwise_failStartException

theorem stepwise_stop : Stepwise R (stop : SessionM W _) := by
  refine (stepwise_read _).bind fun _ => Within.ite (Within.attempt ?_ fun e => ?_) (Within.pure _)
  · refine (stepwise_onChannel _).bind fun _ => ?_
    exact (stepwise_mutate (fun _ => .markStopped) (fun _ => rfl) fun _ => rfl).bind fun _ => Within.pure _
  · exact (stepwise_mutate (fun _ => .markFailed _) (fun _ => rfl) fun _ => rfl).bind fun _ => Within.pure _

theorem stepwise_getStatus : Stepwise R (getStatus : SessionM W _) := by
  refine Within.bind ((stepwise_read _).bind fun _ => Within.ite ?_ (Within.pure _)) fun _ => ?_
  · refine stepwise_isGdbAlive.bind fun _ => Within.ite (Within.pure _) ?_
    exact stepwise_mutate (fun _ => .markTransportTerminated _) (fun _ => rfl) fun _ => rfl
  · exact (stepwise_read _).bind fun _ => Within.pure _

end Debugger

end Session

open Session

/-- Every operation changes the runtime in steps; only a start begins the session anew. -/
theorem Operation.stepwise {W : Type} [Gdb W] {R : SessionRuntime → SessionRuntime → Prop} [Followed R]
    (operation : Operation)
    (hrestart : ∀ args, operation = .start args → ∀ (rt : SessionRuntime) config, R rt (rt.beginStartup config)) :
    Stepwise R (operation.perform : SessionM W Bool) := by
  cases operation with
  | start args => exact (stepwise_start (hrestart args rfl) args).map _
  | executeCommand command timeoutSec => exact (stepwise_executeCommandResult _ _ _).map _
  | run args timeoutSec wait => exact (stepwise_run _ _ _).map _
  | continueExecution a => exact (stepwise_continueExecution a).map _
  | step a => exact (stepwise_executeCommandResult _ _ _).map _
  | next a => exact (stepwise_executeCommandResult _ _ _).map _
  | finish a => exact (stepwise_finish a).map _
  | callFunction functionCall timeoutSec => exact (stepwise_callFunction _ _).map _
  | interrupt => exact stepwise_interrupt.map _
  | waitForStop timeoutSec stopReasons => exact (stepwise_waitForStop _ _).map _
  | getStatus => exact stepwise_getStatus.map _
  | stop => exact stepwise_stop.map _

/-- A run of operations leads through steps of the runtime. -/
theorem runSteps_leads (rt : SessionRuntime) (steps : List Step) : rt.Leads (runSteps rt steps) := by
  induction steps generalizing rt with
  | nil => exact Later.refl rt
  | cons step rest ih =>
      have hstep : rt.Leads (step.after rt) := by
        refine (step.operation.stepwise (R := SessionRuntime.Leads) fun _ _ rt config => ?_).run (step.before rt)
        exact rt.leads_take (.mutate (.beginStartup config))
      exact hstep.trans (ih _)

end GdbMcp
