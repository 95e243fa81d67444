import GdbMcp.SessionExecution
import GdbMcp.SessionLifecycle

/-! Runs of a session: operations one after the other, each against a debugger whose behaviour during
that operation is a script. A script says what every exchange of the operation meets, so that whatever
a debugger does in a run is the run of some scripts. -/

namespace GdbMcp

/-- One exchange with the debugger: what the write gives, and the polls of the wait behind it, which
may depend on the token. -/
structure Exchange where
  written : Except PyError Unit := .ok ()
  replies : Nat → List Poll := fun _ => []

/-- What one command meets: the process at the liveness check before it, its own exchange, and the
exchange of the inventory refresh that it may cause. A wait without a command reads the polls of the
own exchange. -/
structure Round where
  status : ProcessStatus := .running
  own : Exchange := {}
  refresh : Exchange := {}

/-- The behaviour of the outside world during one operation. -/
structure Script where
  spawned : Except PyError Unit := .ok ()
  connected : Except PyError Unit := .ok ()
  exited : Except PyError Unit := .ok ()
  killed : Except PyError Unit := .ok ()
  environ : String → Option String := fun _ => none
  isdir : String → Bool := fun _ => true
  hasProcess : Bool := true
  opening : List Poll := []
  version : Exchange := {}
  rounds : Nat → Round := fun _ => {}
  clock : Nat → Nat := fun _ => 0

/-- An exchange that one batch answers. -/
def Exchange.answering (records : Nat → List MiRecord) : Exchange where
  replies := fun token => [{ read := .ok (records token) }]

/-- An exchange in which the pipe of the debugger breaks. -/
def Exchange.broken : Exchange where
  written := .error (.osError "Broken pipe")

/-- `^message`, for the command with the given token. -/
def resultRecord (message : String) (token : Nat) : MiRecord where
  type := .result
  token := some token
  message := some message
  payload := .dict []

/-- An async record without a token. -/
def notifyRecord (message : String) (fields : List (String × Value)) : MiRecord where
  type := .notify
  message := some message
  payload := .dict fields

/-- The debugger answers every command with `^done`. -/
def Script.accepting : Script where
  version := .answering fun token => [resultRecord "done" token]
  rounds := fun _ => { own := .answering fun token => [resultRecord "done" token] }

/-- A script and how far it has been played. -/
structure Scripted where
  script : Script
  nextRound : Nat := 0
  queue : List Exchange
  token : Nat := 0
  ticks : Nat := 0

/-- The script from its beginning: the output before the first command, then the version probe. -/
def Script.play (script : Script) : Scripted where
  script := script
  queue := [{ replies := fun _ => script.opening }, script.version]

/-- A liveness check begins the next round; a wait consumes the exchange at the head of the queue. -/
instance : Gdb Scripted where
  spawn _ _ w := (w.script.spawned, w)
  connect _ w := (w.script.connected, w)
  exit w := (w.script.exited, w)
  write token _ w := ((w.queue.headD {}).written, { w with token := token })
  polls _ w := ((w.queue.headD {}).replies w.token, { w with queue := w.queue.tail })
  liveness w :=
    let round := w.script.rounds w.nextRound
    (round.status, { w with nextRound := w.nextRound + 1, queue := [round.own, round.refresh] })
  hasProcess w := w.script.hasProcess
  kill w := (w.script.killed, w)
  environ w := w.script.environ
  isdir w := w.script.isdir
  time w := (w.script.clock w.ticks, { w with ticks := w.ticks + 1 })

/-- The operations of a session. -/
inductive Operation where
  | start (args : StartArgs)
  | executeCommand (command : String) (timeoutSec : Nat)
  | run (args : List String) (timeoutSec : Nat) (waitForStop : Bool)
  | continueExecution (a : ExecArgs)
  | step (a : ExecArgs)
  | next (a : ExecArgs)
  | finish (a : ExecArgs)
  | callFunction (functionCall : String) (timeoutSec : Nat)
  | interrupt
  | waitForStop (timeoutSec : Nat) (stopReasons : List String)
  | getStatus
  | stop

/-- Perform an operation; the value says whether it returns a success. -/
def Operation.perform {W : Type} [Gdb W] : Operation → SessionM W Bool
  | .start args => OperationResult.isSuccess <$> Session.start args
  | .executeCommand command timeoutSec =>
    OperationResult.isSuccess <$> Session.executeCommand command timeoutSec
  | .run args timeoutSec wait => OperationResult.isSuccess <$> Session.run args timeoutSec wait
  | .continueExecution a => OperationResult.isSuccess <$> Session.continueExecution a
  | .step a => OperationResult.isSuccess <$> Session.step a
  | .next a => OperationResult.isSuccess <$> Session.next a
  | .finish a => OperationResult.isSuccess <$> Session.finish a
  | .callFunction functionCall timeoutSec =>
    OperationResult.isSuccess <$> Session.callFunction functionCall timeoutSec
  | .interrupt => OperationResult.isSuccess <$> Session.interrupt
  | .waitForStop timeoutSec stopReasons =>
    OperationResult.isSuccess <$> Session.waitForStop timeoutSec stopReasons
  | .getStatus => OperationResult.isSuccess <$> Session.getStatus
  | .stop => OperationResult.isSuccess <$> Session.stop

/-- An operation and the behaviour that it meets. -/
structure Step where
  operation : Operation
  script : Script

namespace Step

/-- The session that an operation starts in. -/
def before (step : Step) (rt : SessionRuntime) : Session Scripted :=
  { runtime := rt, gdb := step.script.play }

/-- The outcome of a step, and the session after it. -/
def outcome (step : Step) (rt : SessionRuntime) : Except PyError Bool × Session Scripted :=
  step.operation.perform.run (step.before rt)

/-- The runtime after a step, whether its operation returned or raised. -/
def after (rt : SessionRuntime) (step : Step) : SessionRuntime := (step.outcome rt).2.runtime

theorem outcome_of_wp {step : Step} {rt : SessionRuntime} {Q : Bool → Session Scripted → Prop}
    {R : PyError → Session Scripted → Prop} (h : Eff.wp step.operation.perform Q R (step.before rt)) :
    (∃ ok, (step.outcome rt).1 = .ok ok ∧ Q ok (step.outcome rt).2) ∨
      ∃ e, (step.outcome rt).1 = .error e ∧ R e (step.outcome rt).2 := by
  rw [Eff.wp] at h
  rw [outcome]
  split at h
  · rename_i ok s' hrun
    exact .inl ⟨ok, by rw [hrun], by rw [hrun]; exact h⟩
  · rename_i e s' hrun
    exact .inr ⟨e, by rw [hrun], by rw [hrun]; exact h⟩

end Step

def runSteps (rt : SessionRuntime) (steps : List Step) : SessionRuntime := steps.foldl Step.after rt

/-- A condition holds of every step of a run, in the state before it. -/
def AllSteps (condition : SessionRuntime → Step → Prop) : SessionRuntime → List Step → Prop
  | _, [] => True
  | rt, step :: rest => condition rt step ∧ AllSteps condition (step.after rt) rest

theorem AllSteps.imp {condition condition' : SessionRuntime → Step → Prop}
    (himp : ∀ rt step, condition rt step → condition' rt step) {rt : SessionRuntime} {steps : List Step}
    (hsteps : AllSteps condition rt steps) : AllSteps condition' rt steps := by
  induction steps generalizing rt with
  | nil => trivial
  | cons step rest ih => exact ⟨himp rt step hsteps.1, ih hsteps.2⟩

/-- An invariant that every step keeps which meets the condition holds after every such run. -/
theorem runSteps_invariant {I : SessionRuntime → Prop} {condition : SessionRuntime → Step → Prop}
    (hstep : ∀ rt step, I rt → condition rt step → I (step.after rt)) {rt : SessionRuntime}
    {steps : List Step} (hI : I rt) (hsteps : AllSteps condition rt steps) : I (runSteps rt steps) := by
  induction steps generalizing rt with
  | nil => exact hI
  | cons step rest ih => exact ih (hstep rt step hI hsteps.1) hsteps.2

end GdbMcp
