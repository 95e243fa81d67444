import GdbMcp.RuntimeHistory
import GdbMcp.SessionWait
import GdbMcp.WorkflowAgreement

/-! The stop events of a batch. A step reads its stop from the growth of a history that is bounded, and a history that
is full does not grow. -/

namespace GdbMcp

open Eff

/-! ### The stops of one step -/

namespace SessionRuntime

variable {rt rt' : SessionRuntime} {events : List StopEvent}

theorem Records.drop (h : rt.Records events rt') : rt'.stopEvents.drop rt.stopEvents.length = events := by
  rw [h.stopEvents, List.drop_left]

/-- The stop event of a step is the last one recorded in it, unless the history was full before a recorded one. -/
theorem Records.stepStopEvent_iff (h : rt.Records events rt') (hle : rt.stopHistory.length ≤ rt.stopHistoryLimit) :
    rt'.stepStopEvent rt.stopHistory.length = events.getLast? ↔
      (events ≠ [] → rt.stopHistory.length < rt.stopHistoryLimit) := by
  have hlength : rt'.stopHistory.length = min (rt.stopHistory.length + events.length) rt.stopHistoryLimit := by
    rw [h.history hle, length_trimHistory, List.length_append]
  by_cases hevents : events = []
  · rw [hevents, List.length_nil] at hlength
    rw [hevents, stepStopEvent, if_neg (by omega)]
    simp
  have hpos : 0 < events.length := List.length_pos_iff.mpr hevents
  by_cases hroom : rt.stopHistory.length < rt.stopHistoryLimit
  · have hlast : rt'.stopHistory.getLast? = events.getLast? := by
      rw [h.history hle, getLast?_trimHistory (by omega), List.getLast?_append]
      exact Option.or_of_isSome (List.getLast?_isSome.mpr hevents)
    rw [stepStopEvent, if_pos (by omega), hlast]
    exact iff_of_true rfl fun _ => hroom
  · rw [stepStopEvent, if_neg (by omega)]
    refine iff_of_false (fun hnone => ?_) fun hroom' => hroom (hroom' hevents)
    exact hevents (List.getLast?_eq_none_iff.mp hnone.symm)

end SessionRuntime

/-! ### The steps of a batch -/

/-- One executed step: its result, and the runtime before and after it. -/
structure ExecutedStep where
  before : SessionRuntime
  result : ToolResult
  after : SessionRuntime

/-- The stop events recorded while the step executed. -/
def ExecutedStep.recorded (executed : ExecutedStep) : List StopEvent :=
  executed.after.stopEvents.drop executed.before.stopEvents.length

/-- The history of stop events has room before the step. -/
def ExecutedStep.HasRoom (executed : ExecutedStep) : Prop :=
  executed.before.stopHistory.length < executed.before.stopHistoryLimit

namespace SessionManager

variable {W : Type}

/-- The steps that a batch executes. -/
def executedSteps (session : SessionRef) (failFast : Bool) :
    List (BatchStepTemplate W) → SessionManager W → List ExecutedStep
  | [], _ => []
  | step :: rest, manager =>
    match (step.execute session).run manager with
    | (.error _, _) => []
    | (.ok result, manager') =>
      { before := (manager.sessions session).runtime, result, after := (manager'.sessions session).runtime } ::
        if result.isSuccess || !failFast then executedSteps session failFast rest manager' else []

variable {session : SessionRef} {failFast : Bool} {manager manager' : SessionManager W} {result : ToolResult}
  {step : BatchStepTemplate W} {rest steps : List (BatchStepTemplate W)}

theorem executedSteps_cons (h : (step.execute session).run manager = (.ok result, manager')) :
    executedSteps session failFast (step :: rest) manager =
      { before := (manager.sessions session).runtime, result, after := (manager'.sessions session).runtime } ::
        if result.isSuccess || !failFast then executedSteps session failFast rest manager' else [] := by
  rw [executedSteps, h]

/-- The stop event that the entry of a step carries. -/
def stopEventOf (executed : ExecutedStep) : Option StopEvent :=
  executed.after.stepStopEvent executed.before.stopHistory.length

theorem ok_of_executeStep {index : Nat} {entry : BatchStepResult} {succeeded : Bool}
    (h : (executeStep session true index step).run manager = (.ok (entry, succeeded), manager')) :
    ∃ result, (step.execute session).run manager = (.ok result, manager') ∧ succeeded = result.isSuccess ∧
      entry.stopEvent =
        (manager'.sessions session).runtime.stepStopEvent (manager.sessions session).runtime.stopHistory.length := by
  obtain ⟨before, manager₁, hbefore, h⟩ := ok_of_run_bind h
  obtain ⟨hread, rfl⟩ := Prod.mk.inj hbefore
  obtain rfl := Except.ok.inj hread
  obtain ⟨result, manager₂, hexecute, h⟩ := ok_of_run_bind h
  obtain ⟨after, manager₃, hafter, h⟩ := ok_of_run_bind h
  obtain ⟨hread, rfl⟩ := Prod.mk.inj hafter
  obtain rfl := Except.ok.inj hread
  obtain ⟨hvalue, rfl⟩ := Prod.mk.inj h
  obtain ⟨rfl, rfl⟩ := Prod.mk.inj (Except.ok.inj hvalue)
  exact ⟨result, hexecute, rfl, rfl⟩

theorem executeSteps_stopEvents {index : Nat} {progress progress' : BatchProgress}
    (h : (executeSteps session failFast true index steps progress).run manager = (.ok progress', manager')) :
    progress'.results.map (·.stopEvent) =
      progress.results.map (·.stopEvent) ++ (executedSteps session failFast steps manager).map stopEventOf := by
  induction steps generalizing index progress manager with
  | nil =>
      obtain ⟨hvalue, -⟩ := Prod.mk.inj h
      rw [← Except.ok.inj hvalue, executedSteps, List.map_nil, List.append_nil]
  | cons step rest ih =>
      obtain ⟨⟨entry, succeeded⟩, manager₁, hstep, h⟩ := ok_of_run_bind h
      obtain ⟨result, hexecute, rfl, hentry⟩ := ok_of_executeStep hstep
      have hhead : ∀ tail : List (Option StopEvent), (progress.results ++ [entry]).map (·.stopEvent) ++ tail =
          progress.results.map (·.stopEvent) ++ (stopEventOf { before := (manager.sessions session).runtime, result, after := (manager₁.sessions session).runtime } :: tail) := by
        intro tail
        rw [List.map_append, List.append_assoc, List.map_singleton, hentry]
        rfl
      rw [executedSteps_cons hexecute, List.map_cons, ← hhead]
      dsimp only at h
      split at h
      · rename_i hsuccess
        rw [if_pos (by rw [hsuccess]; rfl)]
        exact ih h
      · rename_i hfailure
        split at h
        · rename_i hfast
          rw [if_neg (by simp [hfailure, hfast])]
          obtain ⟨hvalue, -⟩ := Prod.mk.inj h
          rw [← Except.ok.inj hvalue, List.map_nil, List.append_nil]
        · rename_i hslow
          rw [if_pos (by simp [hslow])]
          exact ih h

/-! ### Batches -/

/-- The runtime of the session has moved along the relation. -/
def Moves (R : SessionRuntime → SessionRuntime → Prop) (session : SessionRef) (manager manager' : SessionManager W) : Prop :=
  R (manager.sessions session).runtime (manager'.sessions session).runtime

variable {R : SessionRuntime → SessionRuntime → Prop}

instance [Std.Refl R] : Std.Refl (Moves (W := W) R session) := ⟨fun manager => refl_of R (manager.sessions session).runtime⟩

instance [IsTrans SessionRuntime R] : IsTrans (SessionManager W) (Moves R session) := ⟨fun _ _ _ h h' => trans_of R h h'⟩

theorem moves_onSession {α : Type} {m : SessionM W α} (hm : Session.Stepwise R m) :
    Within (Moves R session) (onSession session m) := by
  refine ⟨fun manager => ?_⟩
  rw [onSession, wp_zoom]
  have hmoved : ∀ s, Session.Moves R (manager.sessions session) s →
      Moves R session manager { manager with sessions := Function.update manager.sessions session s } := by
    intro s hs
    show R _ (Function.update manager.sessions session s session).runtime
    rw [Function.update_self]
    exact hs
  exact wp_mono (hm.outcome _) (fun _ s hs => hmoved s hs) fun _ s hs => hmoved s hs

/-- Every executed step goes on from where it began, with a history within its limit. -/
theorem executedSteps_records (hsteps : ∀ step ∈ steps, step.Keeps (Moves SessionRuntime.Logged session) session)
    (hle : (manager.sessions session).runtime.stopHistory.length ≤ (manager.sessions session).runtime.stopHistoryLimit)
    {executed : ExecutedStep} (hmem : executed ∈ executedSteps session failFast steps manager) :
    executed.before.Records executed.recorded executed.after ∧
      executed.before.stopHistory.length ≤ executed.before.stopHistoryLimit := by
  induction steps generalizing manager with
  | nil => exact nomatch hmem
  | cons step rest ih =>
      have hmoved := (hsteps step List.mem_cons_self).run manager
      rcases hrun : (step.execute session).run manager with ⟨e | result, manager'⟩
      · rw [executedSteps, hrun] at hmem
        exact nomatch hmem
      · rw [hrun] at hmoved
        obtain ⟨events, hrecords⟩ := hmoved
        rw [executedSteps_cons hrun] at hmem
        rcases List.mem_cons.mp hmem with rfl | hmem
        · refine ⟨?_, hle⟩
          show SessionRuntime.Records _ (List.drop _ _) _
          rw [hrecords.drop]
          exact hrecords
        · split at hmem
          · exact ih (fun step hstep => hsteps step (List.mem_cons_of_mem _ hstep)) (hrecords.bounded hle) hmem
          · exact nomatch hmem

/-- **The stop events of a batch.** Every entry carries the last of the stop events recorded while its step executed,
and none when none was recorded, if and only if no step that records one begins with a full history. -/
theorem batch_reports_stops_iff [Gdb W] {tools : Tools W} {allowed : SessionRuntime → RuntimeStep → Prop}
    {sessionId : Int} {arguments : List BatchStepArgs} {info : BatchExecutionInfo}
    (hhandlers : ∀ name args, Session.Stepwise SessionRuntime.Continues (tools.sessionHandler name args))
    (hsteps : tools.buildBatchStepTemplates sessionId arguments = .ok steps)
    (hreached : (manager.sessions session).runtime.Reached allowed)
    (hrun : (executeBatchTemplates session steps failFast true).run manager = (.ok info, manager')) :
    info.steps.map (·.stopEvent) = (executedSteps session failFast steps manager).map (·.recorded.getLast?) ↔
      ∀ executed ∈ executedSteps session failFast steps manager, executed.recorded ≠ [] → executed.HasRoom := by
  obtain ⟨progress, manager₁, hsteps', h⟩ := ok_of_run_bind hrun
  obtain ⟨rt, manager₂, -, h⟩ := ok_of_run_bind h
  obtain ⟨hvalue, -⟩ := Prod.mk.inj h
  have hentries : info.steps.map (·.stopEvent) = (executedSteps session failFast steps manager).map stopEventOf := by
    rw [← Except.ok.inj hvalue]
    exact executeSteps_stopEvents hsteps'
  have hlogged : ∀ {α : Type} {m : SessionM W α}, Session.Stepwise SessionRuntime.Continues m →
      Within (Moves SessionRuntime.Logged session) (onSession session m) :=
    fun hm => moves_onSession (hm.mono fun _ _ => SessionRuntime.Continues.follows)
  have hkeeps := keeps_of_buildStepTemplates (hlogged Session.stepwise_getStatus)
    (fun name args => hlogged (hhandlers name args)) hsteps
  rw [hentries, List.map_inj_left]
  refine forall₂_congr fun executed hmem => ?_
  obtain ⟨hrecords, hle⟩ := executedSteps_records hkeeps hreached.bounded hmem
  exact hrecords.stepStopEvent_iff hle

end SessionManager

/-! ### A program that steps -/

/-- The stop behind a step of the program. -/
def steppedStop : StopFields where
  payload := .dict [("reason", .str "end-stepping-range"), ("thread-group", .str "i1")]
  reason := some "end-stepping-range"
  inferiorId := some 1

def steppedEvent : StopEvent := buildStopEvent "-exec-next" steppedStop (some 1) 0

/-- A session whose program has made the given number of steps, all of which are in its history. -/
def stepping (stops : Nat) : SessionRuntime :=
  { (({} : SessionRuntime).withTransport { controller := some {} }).markReady.markInferiorPaused
      (some "end-stepping-range") (some 1) with
    lastStopEvent := some steppedEvent
    stopHistory := List.replicate stops steppedEvent
    stopEvents := List.replicate stops steppedEvent }

theorem take_stepping {stops : Nat} (h : stops < defaultStopHistoryLimit) :
    (stepping stops).take (.stop "-exec-next" steppedStop 0) = stepping (stops + 1) := by
  have hrecorded : (stepping stops).take (.stop "-exec-next" steppedStop 0) =
      { stepping stops with
        stopHistory := SessionRuntime.trimHistory (List.replicate stops steppedEvent ++ [steppedEvent]) defaultStopHistoryLimit
        stopEvents := List.replicate stops steppedEvent ++ [steppedEvent] } := rfl
  have hgrown : List.replicate stops steppedEvent ++ [steppedEvent] = List.replicate (stops + 1) steppedEvent :=
    List.replicate_succ'.symm
  rw [hrecorded, hgrown, SessionRuntime.trimHistory_of_le (by rw [List.length_replicate]; exact h)]
  rfl

theorem stepwise_commandTools {R : SessionRuntime → SessionRuntime → Prop} [Followed R] (name : String) (args : ToolArgs) :
    Session.Stepwise R (commandTools.sessionHandler name args) :=
  (Session.stepwise_executeCommandResult _ _ _).map _

theorem reached_stepping {stops : Nat} (h : stops < defaultStopHistoryLimit) :
    (stepping (stops + 1)).Reached fun _ _ => True := by
  induction stops with
  | zero =>
      have hfresh : SessionRuntime.Reached (fun _ _ => True) {} := .initial ⟨{}, defaultStopHistoryLimit, defaultCommandTranscriptLimit, rfl⟩
      have hready : SessionRuntime.Reached (fun _ _ => True) _ :=
        .step (l := .mutate .markReady) (.step (l := .client { controller := some {} }) hfresh trivial rfl) trivial rfl
      exact .step (l := .stop "-exec-next" steppedStop 0) hready trivial rfl
  | succ stops ih => exact .step (ih (by omega)) trivial (take_stepping h).symm

def nextStep : BatchStepArgs where
  tool := "gdb_execute_command"
  arguments := [("command", .str "-exec-next")]

/-- The debugger answers with `^running`, and with the stop behind it. -/
def Script.stepping : Script where
  rounds := fun _ => { own := .answering fun token => [resultRecord "running" token, stopOf "i1" "end-stepping-range"] }

/-- One session, published under the id 1, whose program has made the given number of steps. -/
def steppingManager (stops : Nat) : SessionManager Scripted where
  registry := SessionRegistry.publish {} 1 0
  sessions := fun _ => { runtime := GdbMcp.stepping stops, gdb := Script.stepping.play }

theorem batch_reports_stops_stepping : ∃ steps info manager',
    commandTools.buildBatchStepTemplates 1 [nextStep] = .ok steps ∧
      (SessionManager.executeBatchTemplates 0 steps true true).run (steppingManager 1) = (.ok info, manager') ∧
      (info.steps.map (·.stopEvent) =
          (SessionManager.executedSteps 0 true steps (steppingManager 1)).map (·.recorded.getLast?) ↔
        ∀ executed ∈ SessionManager.executedSteps 0 true steps (steppingManager 1), executed.recorded ≠ [] → executed.HasRoom) := by
  have hrun : ∃ steps info manager', commandTools.buildBatchStepTemplates 1 [nextStep] = .ok steps ∧
      (SessionManager.executeBatchTemplates 0 steps true true).run (steppingManager 1) = (.ok info, manager') :=
    ⟨_, _, _, rfl, rfl⟩
  obtain ⟨steps, info, manager', hsteps, hrun⟩ := hrun
  refine ⟨steps, info, manager', hsteps, hrun, ?_⟩
  exact SessionManager.batch_reports_stops_iff stepwise_commandTools hsteps (reached_stepping (by decide)) hrun

/-- The fifty-first stop is recorded, and the step that it ends reports none. -/
theorem full_history_hides_stop : ∃ steps info manager',
    ((steppingManager 50).sessions 0).runtime.Reached (fun _ _ => True) ∧
      commandTools.buildBatchStepTemplates 1 [nextStep] = .ok steps ∧
      (SessionManager.executeBatchTemplates 0 steps true true).run (steppingManager 50) = (.ok info, manager') ∧
      info.steps.map (·.stopEvent) = [none] ∧
      (SessionManager.executedSteps 0 true steps (steppingManager 50)).map (·.recorded.length) = [1] :=
  ⟨_, _, _, reached_stepping (by decide), rfl, rfl, rfl, rfl⟩

end GdbMcp
