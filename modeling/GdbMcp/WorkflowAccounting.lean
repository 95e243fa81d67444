import GdbMcp.WorkflowDispatch

/-! The account of a batch. A batch with an invalid step does nothing; any other one executes its steps in order, and
its result tells which of them were executed and how they ended. -/

namespace GdbMcp

open Eff

/-! ### Validation of the steps -/

namespace Tools

variable {W : Type} [Gdb W] {tools : Tools W} {sessionId : Int} {step : BatchStepArgs} {steps : List BatchStepArgs}
  {templates : List (BatchStepTemplate W)}

/-- The step names a session, is of a tool that no step may be of, or has arguments that its tool rejects. -/
def Invalid (tools : Tools W) (sessionId : Int) (step : BatchStepArgs) : Prop :=
  "session_id" ∈ Dict.keys step.arguments ∨ step.tool ∉ batchStepToolNames ∨
    (step.tool = "gdb_session_query" ∧ (step.arguments.lookup "action").bind asText = some "list") ∨
    ∃ message, (tools.model step.tool).validate (("session_id", .int sessionId) :: step.arguments) = .error message

/-- The template calls the tool of the step with the arguments of the step. -/
def Binds (tools : Tools W) (sessionId : Int) (step : BatchStepArgs) (template : BatchStepTemplate W) : Prop :=
  ∃ spec args, tools.sessionToolSpecs step.tool = some spec ∧
    spec.model.validate (("session_id", .int sessionId) :: step.arguments) = .ok args ∧
    template = stepTemplate step spec args

theorem validateWorkflowStepContract_eq_none (toolName : String) (arguments : Payload) :
    validateWorkflowStepContract toolName arguments = none ↔
      "session_id" ∉ Dict.keys arguments ∧
        ¬(toolName = "gdb_session_query" ∧ (arguments.lookup "action").bind asText = some "list") ∧
        toolName ∈ batchStepToolNames := by
  have hnames : ∀ name ∈ batchStepToolNames, name ≠ "gdb_session_manage" ∧
      ¬(name = "gdb_workflow_batch" ∨ name = "gdb_run_until_failure") := by decide
  unfold validateWorkflowStepContract
  constructor
  · intro h
    split at h
    · cases h
    · split at h
      · cases h
      · split at h
        · cases h
        · split at h
          · cases h
          · split at h
            · cases h
            · exact ⟨‹_›, ‹_›, not_not.mp ‹_›⟩
  · rintro ⟨hsession, hlist, hname⟩
    obtain ⟨hmanage, hworkflow⟩ := hnames toolName hname
    rw [if_neg hsession, if_neg hlist, if_neg hmanage, if_neg hworkflow, if_neg (not_not.mpr hname)]

/-- Every tool that a step may be of has a spec, with the request model of the tool. -/
theorem exists_sessionToolSpec (tools : Tools W) {name : String} (h : name ∈ batchStepToolNames) :
    ∃ spec, tools.sessionToolSpecs name = some spec ∧ spec.model = tools.model name := by
  unfold sessionToolSpecs
  by_cases hquery : name = "gdb_session_query"
  · rw [if_pos hquery]
    exact ⟨_, rfl, rfl⟩
  · rw [if_neg hquery, if_pos ((List.mem_cons.mp h).resolve_left hquery)]
    exact ⟨_, rfl, rfl⟩

theorem buildStepTemplate_of_invalid (h : tools.Invalid sessionId step) (index : Nat) :
    ∃ message code, tools.buildStepTemplate sessionId index step = .error (.error message false [] code) := by
  unfold buildStepTemplate
  split
  · rename_i issue _
    cases issue <;> exact ⟨_, _, rfl⟩
  · rename_i hcontract
    obtain ⟨hsession, hlist, hname⟩ := (validateWorkflowStepContract_eq_none _ _).mp hcontract
    obtain ⟨spec, hspec, hmodel⟩ := exists_sessionToolSpec tools hname
    have hrejected := ((h.resolve_left hsession).resolve_left (not_not.mpr hname)).resolve_left hlist
    obtain ⟨message, hmessage⟩ := hrejected
    rw [hspec]
    dsimp only
    rw [hmodel, hmessage]
    exact ⟨_, _, rfl⟩

theorem buildStepTemplate_of_valid (h : ¬tools.Invalid sessionId step) (index : Nat) :
    ∃ template, tools.buildStepTemplate sessionId index step = .ok template ∧ tools.Binds sessionId step template := by
  simp only [Invalid, not_or, not_not] at h
  obtain ⟨hsession, hname, hlist, haccepted⟩ := h
  obtain ⟨spec, hspec, hmodel⟩ := exists_sessionToolSpec tools hname
  unfold buildStepTemplate
  rw [(validateWorkflowStepContract_eq_none _ _).mpr ⟨hsession, hlist, hname⟩, hspec]
  cases hargs : spec.model.validate (("session_id", .int sessionId) :: step.arguments) with
  | error message => exact absurd ⟨message, hmodel ▸ hargs⟩ haccepted
  | ok args =>
      dsimp only
      rw [hargs]
      exact ⟨_, rfl, spec, args, hspec, hargs, rfl⟩

theorem buildStepTemplates_of_invalid (h : ∃ step ∈ steps, tools.Invalid sessionId step) (index : Nat) :
    ∃ message code, tools.buildStepTemplates sessionId index steps = .error (.error message false [] code) := by
  induction steps generalizing index with
  | nil => simp at h
  | cons step rest ih =>
      rw [buildStepTemplates]
      by_cases hstep : tools.Invalid sessionId step
      · obtain ⟨message, code, herror⟩ := buildStepTemplate_of_invalid hstep index
        exact ⟨message, code, by rw [herror]; rfl⟩
      · obtain ⟨template, htemplate, -⟩ := buildStepTemplate_of_valid hstep index
        obtain ⟨other, hother, hinvalid⟩ := h
        have hmem := (List.mem_cons.mp hother).resolve_left fun heq => hstep (heq ▸ hinvalid)
        obtain ⟨message, code, herror⟩ := ih ⟨other, hmem, hinvalid⟩ (index + 1)
        exact ⟨message, code, by rw [htemplate, herror]; rfl⟩

theorem buildStepTemplates_of_valid (h : ∀ step ∈ steps, ¬tools.Invalid sessionId step) (index : Nat) :
    ∃ templates, tools.buildStepTemplates sessionId index steps = .ok templates ∧
      List.Forall₂ (tools.Binds sessionId) steps templates := by
  induction steps generalizing index with
  | nil => exact ⟨[], rfl, .nil⟩
  | cons step rest ih =>
      obtain ⟨template, htemplate, hbinds⟩ := buildStepTemplate_of_valid (h step List.mem_cons_self) index
      obtain ⟨templates, htemplates, hrest⟩ := ih (fun other hmem => h other (List.mem_cons_of_mem _ hmem)) (index + 1)
      refine ⟨template :: templates, ?_, .cons hbinds hrest⟩
      rw [buildStepTemplates, htemplate, htemplates]
      rfl

/-- A template has the tool and the label of its step. -/
theorem map_of_binds {α : Type} {f : BatchStepArgs → α} {g : BatchStepTemplate W → α}
    (hfg : ∀ step spec args, g (stepTemplate step spec args) = f step)
    (h : List.Forall₂ (tools.Binds sessionId) steps templates) : templates.map g = steps.map f := by
  induction h with
  | nil => rfl
  | cons hbinds _ ih =>
      obtain ⟨spec, args, -, -, rfl⟩ := hbinds
      rw [List.map_cons, List.map_cons, ih, hfg]

end Tools

/-! ### Execution of the steps -/

/-- The result is an error. -/
def failed (result : ToolResult) : Bool := !result.isSuccess

section Execution

variable {W : Type} {session : SessionRef} {failFast captureStopEvents : Bool} {index : Nat}
  {step : BatchStepTemplate W} {steps rest : List (BatchStepTemplate W)} {result : ToolResult} {outcomes : List ToolResult}
  {manager manager' : SessionManager W}

/-- The steps, executed one after the other, return the results. -/
inductive Ran (session : SessionRef) :
    List (BatchStepTemplate W) → SessionManager W → List ToolResult → SessionManager W → Prop
  | nil {manager : SessionManager W} : Ran session [] manager [] manager
  | cons {step : BatchStepTemplate W} {rest : List (BatchStepTemplate W)} {result : ToolResult}
      {results : List ToolResult} {manager manager₁ manager₂ : SessionManager W} :
      (step.execute session).run manager = (.ok result, manager₁) → Ran session rest manager₁ results manager₂ →
      Ran session (step :: rest) manager (result :: results) manager₂

/-- The entries of the executed steps, numbered from the index on. -/
structure Entries (index : Nat) (steps : List (BatchStepTemplate W)) (outcomes : List ToolResult)
    (entries : List BatchStepResult) : Prop where
  indices : entries.map (·.index) = List.range' index outcomes.length
  tools : entries.map (·.tool) = (steps.take outcomes.length).map (·.tool)
  labels : entries.map (·.label) = (steps.take outcomes.length).map (·.label)
  results : entries.map (·.result) = outcomes.map resultToMapping

theorem Entries.nil (index : Nat) (steps : List (BatchStepTemplate W)) : Entries index steps [] [] :=
  ⟨rfl, rfl, rfl, rfl⟩

theorem Entries.cons {entries : List BatchStepResult} (h : Entries (index + 1) rest outcomes entries)
    (step : BatchStepTemplate W) (result : ToolResult) (stopEvent : Option StopEvent) :
    Entries index (step :: rest) (result :: outcomes) (batchStepResult index step result stopEvent :: entries) where
  indices := by rw [List.map_cons, h.indices, List.length_cons, List.range'_succ]; rfl
  tools := by rw [List.map_cons, h.tools, List.length_cons, List.take_succ_cons, List.map_cons]; rfl
  labels := by rw [List.map_cons, h.labels, List.length_cons, List.take_succ_cons, List.map_cons]; rfl
  results := by rw [List.map_cons, h.results, List.map_cons]; rfl

/-- The batch ends behind these outcomes: at the first error when it fails fast, else at the end of the steps. Steps
are numbered from the index on. -/
inductive EndsAt (failFast : Bool) (index count : Nat) (outcomes : List ToolResult) : Bool → Option Nat → Prop
  | failure {i : Nat} : failFast = true → outcomes.findIdx? failed = some i → outcomes.length = i + 1 →
      EndsAt failFast index count outcomes true (some (index + i))
  | complete : failFast = false ∨ outcomes.findIdx? failed = none → outcomes.length = count →
      EndsAt failFast index count outcomes false none

/-- A result that lets the batch go on moves the end by one step. -/
theorem EndsAt.cons {count : Nat} {stopped : Bool} {failure : Option Nat}
    (h : EndsAt failFast (index + 1) count outcomes stopped failure) (hresult : failed result = false ∨ failFast = false) :
    EndsAt failFast index (count + 1) (result :: outcomes) stopped failure := by
  cases h with
  | @failure i hfast hfind hlength =>
      have hresult := hresult.resolve_right (by rw [hfast]; decide)
      rw [Nat.add_assoc, Nat.add_comm 1 i]
      refine .failure hfast ?_ (by rw [List.length_cons, hlength])
      rw [List.findIdx?_cons, hresult, hfind]
      rfl
  | complete hcase hlength =>
      refine .complete ?_ (by rw [List.length_cons, hlength])
      by_cases hfast : failFast = false
      · exact .inl hfast
      · refine .inr ?_
        rw [List.findIdx?_cons, hresult.resolve_right hfast, hcase.resolve_left hfast]
        rfl

/-- The step behind the executed ones raises, and no executed one has ended the batch. -/
def RaisesBehind (session : SessionRef) (failFast : Bool) (steps : List (BatchStepTemplate W)) (outcomes : List ToolResult)
    (manager : SessionManager W) (outcome : PyError × SessionManager W) : Prop :=
  (failFast = true → ∀ result ∈ outcomes, failed result = false) ∧
    ∃ step, steps[outcomes.length]? = some step ∧ (step.execute session).run manager = (.error outcome.1, outcome.2)

namespace SessionManager

variable (captureStopEvents index) in
theorem executeStep_ok (h : (step.execute session).run manager = (.ok result, manager')) :
    ∃ stopEvent, (executeStep session captureStopEvents index step).run manager =
      (.ok (batchStepResult index step result stopEvent, result.isSuccess), manager') := by
  rw [executeStep, run_bind_ok (s := manager) rfl, run_bind_ok h]
  exact ⟨_, rfl⟩

theorem executeStep_error {error : PyError} (h : (step.execute session).run manager = (.error error, manager')) :
    (executeStep session captureStopEvents index step).run manager = (.error error, manager') := by
  rw [executeStep, run_bind_ok (s := manager) rfl, run_bind_error h]

/-- The progress after one more entry. -/
def advance (progress : BatchProgress) (entry : BatchStepResult) (result : ToolResult) : BatchProgress :=
  { progress with
    results := progress.results ++ [entry]
    errorCount := progress.errorCount + if failed result then 1 else 0 }

theorem executeSteps_cons {entry : BatchStepResult} (progress : BatchProgress)
    (h : (executeStep session captureStopEvents index step).run manager = (.ok (entry, result.isSuccess), manager')) :
    (executeSteps session failFast captureStopEvents index (step :: rest) progress).run manager =
      (if failed result = true ∧ failFast = true then
        pure { advance progress entry result with stoppedEarly := true, failureStepIndex := some index }
      else executeSteps session failFast captureStopEvents (index + 1) rest (advance progress entry result)).run
        manager' := by
  rw [executeSteps, run_bind_ok h]
  cases hresult : result.isSuccess with
  | true => simp [failed, advance, hresult]
  | false => cases failFast <;> simp [failed, advance, hresult]

/-- What an execution adds to the progress it starts from. -/
structure Adds (failFast : Bool) (index : Nat) (steps : List (BatchStepTemplate W)) (outcomes : List ToolResult)
    (progress progress' : BatchProgress) : Prop where
  entries : ∃ entries, progress'.results = progress.results ++ entries ∧ Entries index steps outcomes entries
  errorCount : progress'.errorCount = progress.errorCount + outcomes.countP failed
  ending : EndsAt failFast index steps.length outcomes progress'.stoppedEarly progress'.failureStepIndex

theorem Adds.cons {stopEvent : Option StopEvent} {progress progress' : BatchProgress}
    (h : Adds failFast (index + 1) rest outcomes (advance progress (batchStepResult index step result stopEvent) result)
      progress') (hresult : failed result = false ∨ failFast = false) :
    Adds failFast index (step :: rest) (result :: outcomes) progress progress' where
  entries := by
    obtain ⟨entries, hresults, hentries⟩ := h.entries
    exact ⟨_, by rw [hresults, advance, List.append_assoc, List.singleton_append], hentries.cons step result stopEvent⟩
  errorCount := by
    rw [h.errorCount, advance, List.countP_cons]
    dsimp only
    omega
  ending := h.ending.cons hresult

theorem Adds.failure {stopEvent : Option StopEvent} (progress : BatchProgress) (hfailed : failed result = true)
    (hfast : failFast = true) : Adds failFast index (step :: rest) [result] progress
      { advance progress (batchStepResult index step result stopEvent) result with
        stoppedEarly := true, failureStepIndex := some index } where
  entries := ⟨_, rfl, (Entries.nil (index + 1) rest).cons step result stopEvent⟩
  errorCount := by rw [advance, List.countP_cons, List.countP_nil]; simp
  ending := .failure hfast (i := 0) (by rw [List.findIdx?_cons, hfailed]; rfl) rfl

variable (session failFast captureStopEvents) in
/-- An execution either is ended by a step that raises, or adds the account of the steps it has executed. -/
theorem executeSteps_run (steps : List (BatchStepTemplate W)) (index : Nat) (progress : BatchProgress)
    (hearly : progress.stoppedEarly = false) (hfailure : progress.failureStepIndex = none) (manager : SessionManager W) :
    ∃ outcomes manager', Ran session (steps.take outcomes.length) manager outcomes manager' ∧
      ((∃ outcome, RaisesBehind session failFast steps outcomes manager' outcome ∧
          (executeSteps session failFast captureStopEvents index steps progress).run manager =
            (.error outcome.1, outcome.2)) ∨
        ∃ progress', Adds failFast index steps outcomes progress progress' ∧
          (executeSteps session failFast captureStopEvents index steps progress).run manager =
            (.ok progress', manager')) := by
  induction steps generalizing index progress manager with
  | nil =>
      refine ⟨[], manager, .nil, .inr ⟨progress, ⟨⟨[], by simp, .nil index []⟩, rfl, ?_⟩, rfl⟩⟩
      rw [hearly, hfailure]
      exact .complete (.inr rfl) rfl
  | cons step rest ih =>
      rcases hexecute : (step.execute session).run manager with ⟨error | result, manager₁⟩
      · refine ⟨[], manager, .nil, .inl ⟨(error, manager₁), ⟨by simp, step, rfl, hexecute⟩, ?_⟩⟩
        rw [executeSteps, run_bind_error (executeStep_error hexecute)]
      obtain ⟨stopEvent, hstep⟩ := executeStep_ok captureStopEvents index hexecute
      rw [executeSteps_cons progress hstep]
      by_cases hends : failed result = true ∧ failFast = true
      · rw [if_pos hends]
        exact ⟨[result], manager₁, .cons hexecute .nil, .inr ⟨_, Adds.failure progress hends.1 hends.2, rfl⟩⟩
      · rw [if_neg hends]
        have hgoes : failed result = false ∨ failFast = false := by
          rwa [not_and_or, Bool.not_eq_true, Bool.not_eq_true] at hends
        obtain ⟨outcomes, manager₂, hran, hcase⟩ :=
          ih (index + 1) (advance progress (batchStepResult index step result stopEvent) result)
            hearly hfailure manager₁
        refine ⟨result :: outcomes, manager₂, .cons hexecute hran, ?_⟩
        rcases hcase with ⟨outcome, ⟨hearlier, raising, hraising, hraise⟩, hrun⟩ | ⟨progress', hadds, hrun⟩
        · refine .inl ⟨outcome, ⟨fun hfast => ?_, raising, hraising, hraise⟩, hrun⟩
          exact List.forall_mem_cons.mpr ⟨hgoes.resolve_right (by rw [hfast]; decide), hearlier hfast⟩
        · exact .inr ⟨progress', hadds.cons hgoes, hrun⟩

end SessionManager

/-- What the result of a batch says of the outcomes of the steps that it has executed. -/
structure BatchExecutionInfo.Accounts (info : BatchExecutionInfo) (failFast : Bool) (steps : List BatchStepArgs)
    (outcomes : List ToolResult) : Prop where
  indices : info.steps.map (·.index) = List.range outcomes.length
  tools : info.steps.map (·.tool) = (steps.take outcomes.length).map (·.tool)
  labels : info.steps.map (·.label) = (steps.take outcomes.length).map (·.label)
  results : info.steps.map (·.result) = outcomes.map resultToMapping
  count : info.count = steps.length
  completedSteps : info.completedSteps = outcomes.length
  errorCount : info.errorCount = outcomes.countP failed
  ending : EndsAt failFast 0 steps.length outcomes info.stoppedEarly info.failureStepIndex

end Execution

namespace Tools

variable {W : Type} [Gdb W]

/-- A batch with an invalid step is refused without doing anything. Any other one executes its steps in order, up to
one that raises, or else up to the end of which its result gives the account. -/
theorem batch_accounted (tools : Tools W) (session : SessionRef) (args : BatchArgs) :
    ((∃ step ∈ args.steps, tools.Invalid args.sessionId step) →
      ∃ message code, tools.handleBatch session args = pure (.error message false [] code)) ∧
    ((∀ step ∈ args.steps, ¬tools.Invalid args.sessionId step) →
      ∃ templates, List.Forall₂ (tools.Binds args.sessionId) args.steps templates ∧
        ∀ manager, ∃ outcomes manager', Ran session (templates.take outcomes.length) manager outcomes manager' ∧
          ((∃ outcome, RaisesBehind session args.failFast templates outcomes manager' outcome ∧
              (tools.handleBatch session args).run manager = (.error outcome.1, outcome.2)) ∨
            ∃ info : BatchExecutionInfo, info.Accounts args.failFast args.steps outcomes ∧
              (tools.handleBatch session args).run manager = (.ok (.success info.toValue), manager'))) := by
  constructor
  · intro h
    obtain ⟨message, code, herror⟩ := buildStepTemplates_of_invalid h 0
    exact ⟨message, code, by rw [handleBatch, buildBatchStepTemplates, herror]⟩
  · intro h
    obtain ⟨templates, htemplates, hbinds⟩ := buildStepTemplates_of_valid h 0
    refine ⟨templates, hbinds, fun manager => ?_⟩
    have htool := map_of_binds (f := (·.tool)) (g := (·.tool)) (fun _ _ _ => rfl) hbinds
    have hlabel := map_of_binds (f := (·.label)) (g := (·.label)) (fun _ _ _ => rfl) hbinds
    obtain ⟨outcomes, manager', hran, hcase⟩ := SessionManager.executeSteps_run session args.failFast
      args.captureStopEvents templates 0 {} rfl rfl manager
    refine ⟨outcomes, manager', hran, ?_⟩
    rw [handleBatch, buildBatchStepTemplates, htemplates]
    dsimp only
    rw [SessionManager.executeBatchTemplates]
    rcases hcase with ⟨outcome, hraises, hrun⟩ | ⟨progress, hadds, hrun⟩
    · exact .inl ⟨outcome, hraises, run_bind_error (run_bind_error hrun)⟩
    · refine .inr ⟨_, ?_, run_bind_ok (run_bind_ok hrun)⟩
      obtain ⟨entries, hresults, hentries⟩ := hadds.entries
      have hcount : args.steps.length = templates.length := hbinds.length_eq
      constructor
      · rw [List.range_eq_range', ← hentries.indices]
        exact congrArg _ hresults
      · rw [List.map_take, ← htool, ← List.map_take, ← hentries.tools]
        exact congrArg _ hresults
      · rw [List.map_take, ← hlabel, ← List.map_take, ← hentries.labels]
        exact congrArg _ hresults
      · rw [← hentries.results]
        exact congrArg _ hresults
      · exact hcount.symm
      · rw [← List.length_map (f := resultToMapping), ← hentries.results, List.length_map]
        exact congrArg _ hresults
      · exact hadds.errorCount.trans (Nat.zero_add _)
      · exact hcount ▸ hadds.ending

end Tools

/-! ### Batches in parts -/

/-- The result of two batches, one behind the other, as that of one batch. -/
def BatchExecutionInfo.append (first second : BatchExecutionInfo) : BatchExecutionInfo where
  steps := first.steps ++ second.steps.map fun step => { step with index := step.index + first.count }
  count := first.count + second.count
  completedSteps := first.completedSteps + second.completedSteps
  errorCount := first.errorCount + second.errorCount
  stoppedEarly := second.stoppedEarly
  failureStepIndex := second.failureStepIndex.map (· + first.count)
  finalExecutionState := second.finalExecutionState
  finalStopReason := second.finalStopReason
  lastStopEvent := second.lastStopEvent

/-- The progress of a batch behind another one of so many steps. -/
def BatchProgress.behind (count : Nat) (first second : BatchProgress) : BatchProgress where
  results := first.results ++ second.results.map fun step => { step with index := step.index + count }
  errorCount := first.errorCount + second.errorCount
  stoppedEarly := second.stoppedEarly
  failureStepIndex := second.failureStepIndex.map (· + count)

namespace SessionManager

variable {W : Type} {session : SessionRef} {failFast captureStopEvents : Bool}

/-- Execute two batches, the second one unless the first one has been stopped early. -/
def executeInParts (session : SessionRef) (first second : List (BatchStepTemplate W)) (failFast captureStopEvents : Bool) :
    ManagerM W BatchExecutionInfo := do
  let info ← executeBatchTemplates session first failFast captureStopEvents
  if info.stoppedEarly then return { info with count := info.count + second.length }
  else
    let rest ← executeBatchTemplates session second failFast captureStopEvents
    return info.append rest

/-- What the step gives does not depend on its number, but for the number. -/
theorem executeStep_numbered (captureStopEvents : Bool) {step : BatchStepTemplate W} {result : ToolResult}
    {manager manager' : SessionManager W} (h : (step.execute session).run manager = (.ok result, manager')) :
    ∃ stopEvent, ∀ index, (executeStep session captureStopEvents index step).run manager =
      (.ok (batchStepResult index step result stopEvent, result.isSuccess), manager') := by
  refine ⟨if captureStopEvents then
    (manager'.sessions session).runtime.stepStopEvent (manager.sessions session).runtime.stopHistory.length else none,
    fun index => ?_⟩
  rw [executeStep, run_bind_ok (s := manager) rfl, run_bind_ok h]
  rfl

/-- Steps behind others are executed as by themselves, with other numbers. -/
theorem executeSteps_behind (session : SessionRef) (failFast captureStopEvents : Bool) (first : BatchProgress)
    (count : Nat) (steps : List (BatchStepTemplate W)) (index : Nat) (second : BatchProgress) (manager : SessionManager W) :
    (executeSteps session failFast captureStopEvents (index + count) steps (first.behind count second)).run manager =
      ((first.behind count ·) <$> executeSteps session failFast captureStopEvents index steps second).run manager := by
  induction steps generalizing index second manager with
  | nil => rfl
  | cons step rest ih =>
      rcases hexecute : (step.execute session).run manager with ⟨error | result, manager₁⟩
      · rw [executeSteps, run_bind_error (executeStep_error hexecute), executeSteps]
        exact (run_bind_error (run_bind_error (executeStep_error hexecute))).symm
      obtain ⟨stopEvent, hstep⟩ := executeStep_numbered captureStopEvents hexecute
      have hadvance : first.behind count (advance second (batchStepResult index step result stopEvent) result) =
          advance (first.behind count second) (batchStepResult (index + count) step result stopEvent) result := by
        simp only [BatchProgress.behind, advance, List.map_append, List.map_cons, List.map_nil, List.append_assoc, Nat.add_assoc]
        rfl
      rw [executeSteps_cons _ (hstep _), ← hadvance]
      refine .trans ?_ (run_bind_congr (executeSteps_cons second (hstep index))).symm
      by_cases hends : failed result = true ∧ failFast = true
      · rw [if_pos hends, if_pos hends]
        rfl
      · rw [if_neg hends, if_neg hends, Nat.add_right_comm]
        exact ih (index + 1) _ manager₁

/-- The steps of a batch are executed in two parts. -/
theorem executeSteps_append (first second : List (BatchStepTemplate W)) (index : Nat) (progress : BatchProgress)
    (hearly : progress.stoppedEarly = false) (manager : SessionManager W) :
    (executeSteps session failFast captureStopEvents index (first ++ second) progress).run manager =
      (executeSteps session failFast captureStopEvents index first progress >>= fun reached =>
        if reached.stoppedEarly then pure reached
        else executeSteps session failFast captureStopEvents (index + first.length) second reached).run manager := by
  induction first generalizing index progress manager with
  | nil =>
      refine .trans ?_ (run_bind_ok (s := manager) rfl).symm
      rw [hearly]
      rfl
  | cons step rest ih =>
      rcases hexecute : (step.execute session).run manager with ⟨error | result, manager₁⟩
      · rw [List.cons_append, executeSteps, run_bind_error (executeStep_error hexecute), executeSteps]
        exact (run_bind_error (run_bind_error (executeStep_error hexecute))).symm
      obtain ⟨stopEvent, hstep⟩ := executeStep_ok captureStopEvents index hexecute
      rw [List.cons_append, executeSteps_cons _ hstep]
      refine .trans ?_ (run_bind_congr (executeSteps_cons progress hstep)).symm
      by_cases hends : failed result = true ∧ failFast = true
      · rw [if_pos hends, if_pos hends]
        rfl
      · rw [if_neg hends, if_neg hends, List.length_cons, Nat.add_comm rest.length, ← Nat.add_assoc]
        exact ih (index + 1) (advance progress _ result) hearly manager₁

/-- A batch does what its two parts do as batches of their own, and its result is made of theirs. -/
theorem batch_in_parts (session : SessionRef) (first second : List (BatchStepTemplate W))
    (failFast captureStopEvents : Bool) (manager : SessionManager W) :
    (executeBatchTemplates session (first ++ second) failFast captureStopEvents).run manager =
      (executeInParts session first second failFast captureStopEvents).run manager := by
  rw [executeBatchTemplates, run_bind_congr (executeSteps_append first second 0 {} rfl manager), executeInParts,
    executeBatchTemplates]
  rcases hfirst : (executeSteps session failFast captureStopEvents 0 first {}).run manager with ⟨error | reached, manager₁⟩
  · rw [run_bind_error (run_bind_error hfirst)]
    exact (run_bind_error (run_bind_error hfirst)).symm
  rw [run_bind_congr (run_bind_ok hfirst)]
  refine .trans ?_ (run_bind_ok (run_bind_ok hfirst)).symm
  dsimp only
  rw [List.length_append]
  by_cases hearly : reached.stoppedEarly = true
  · rw [if_pos hearly, if_pos hearly]
    rfl
  rw [if_neg hearly, if_neg hearly]
  -- a batch that has not been stopped early has no step at which it has failed
  have hbehind : reached.behind first.length {} = reached := by
    obtain ⟨outcomes, manager₂, -, ⟨outcome, -, hrun⟩ | ⟨progress, hadds, hrun⟩⟩ :=
      executeSteps_run session failFast captureStopEvents first 0 {} rfl rfl manager
    · cases (Prod.mk.inj (hfirst.symm.trans hrun)).1
    obtain rfl : reached = progress := Except.ok.inj (Prod.mk.inj (hfirst.symm.trans hrun)).1
    rw [Bool.not_eq_true] at hearly
    have hfailure : reached.failureStepIndex = none := by
      have hending := hadds.ending
      rw [hearly] at hending
      generalize reached.failureStepIndex = failure at hending ⊢
      cases hending
      rfl
    simp only [BatchProgress.behind, List.map_nil, List.append_nil, Nat.add_zero, Option.map_none]
    rw [← hearly, ← hfailure]
  have hsecond := executeSteps_behind session failFast captureStopEvents reached first.length second 0 {} manager₁
  rw [hbehind] at hsecond
  rw [run_bind_congr hsecond, executeBatchTemplates]
  rcases hrest : (executeSteps session failFast captureStopEvents 0 second {}).run manager₁ with ⟨error | progress, manager₂⟩
  · rw [run_bind_error (run_bind_error hrest)]
    exact run_bind_error (run_bind_error hrest)
  · rw [run_bind_ok (run_map_ok hrest)]
    refine .trans ?_ (run_bind_ok (run_bind_ok hrest)).symm
    simp only [BatchProgress.behind, List.length_append, List.length_map]
    rfl

end SessionManager

end GdbMcp
