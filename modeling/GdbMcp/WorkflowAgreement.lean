import GdbMcp.SessionRun
import GdbMcp.WorkflowDispatch

/-! A batch step beside the direct call of its tool. -/

namespace GdbMcp

/-! ### The payload of an error -/

theorem mem_keys_nestedDetails {details : Payload} {key : String} :
    key ∈ Dict.keys (nestedDetails details) ↔
      key ∈ Dict.keys details ∧ key ∉ errorTopLevelDetailKeys ++ reservedErrorKeys := by
  simp only [Dict.keys, nestedDetails, List.mem_map, List.mem_filter, Bool.not_eq_true', ← Bool.not_eq_true,
    List.elem_iff]
  constructor
  · rintro ⟨field, ⟨hfield, hkey⟩, rfl⟩
    exact ⟨⟨field, hfield, rfl⟩, hkey⟩
  · rintro ⟨⟨field, hfield, rfl⟩, hkey⟩
    exact ⟨field, ⟨hfield, hkey⟩, rfl⟩

theorem nestedDetails_setDefault {details : Payload} {key : String} {value : Value}
    (h : key ∈ errorTopLevelDetailKeys ++ reservedErrorKeys) :
    nestedDetails (Dict.setDefault details key value) = nestedDetails details :=
  Dict.filter_setDefault (p := fun key => !(errorTopLevelDetailKeys ++ reservedErrorKeys).elem key)
    (by rw [List.elem_iff.mpr h]; rfl)

theorem raisedDetails_setDefault_of_mem {details : Payload} {key : String} {value : Value}
    (h : key ∈ errorTopLevelDetailKeys) :
    raisedDetails (Dict.setDefault details key value) = Dict.setDefault (raisedDetails details) key value :=
  Dict.filter_setDefault_of_true (p := errorTopLevelDetailKeys.elem) (List.elem_iff.mpr h)

theorem raisedDetails_setDefault {details : Payload} {key : String} {value : Value}
    (h : key ∉ errorTopLevelDetailKeys) :
    raisedDetails (Dict.setDefault details key value) = raisedDetails details :=
  Dict.filter_setDefault (p := errorTopLevelDetailKeys.elem) (by simpa using h)

/-- Two errors with the same message and lifted details have one payload if and only if they have the same code and
nested details. -/
theorem resultToMapping_error {message code code' : String} {fatal : Bool} {details details' : Payload}
    (h : raisedDetails details = raisedDetails details') :
    resultToMapping (.error message fatal details code) = resultToMapping (.error message fatal details' code') ↔
      code = code' ∧ nestedDetails details = nestedDetails details' := by
  constructor
  · intro heq
    simp only [resultToMapping, h, List.append_assoc, List.cons_append, List.nil_append, List.cons.injEq,
      Prod.mk.injEq, Value.str.injEq, true_and] at heq
    refine ⟨heq.1, ?_⟩
    have htail := List.append_cancel_left (List.append_cancel_left heq.2)
    split at htail <;> split at htail
    · rename_i hempty hempty'
      rw [List.isEmpty_iff.mp hempty, List.isEmpty_iff.mp hempty']
    · exact nomatch htail
    · exact nomatch htail
    · simpa using htail
  · rintro ⟨rfl, hnested⟩
    simp only [resultToMapping, h, hnested]

/-! ### The annotation of a failure -/

variable {rt : SessionRuntime} {sessionId : Int}

/-- The fields of a failure do not meet the keys that stand outside of its details. -/
theorem failureFields_nested {field : String × Value} (h : field ∈ failureFields rt sessionId) :
    field.1 ∉ errorTopLevelDetailKeys ++ reservedErrorKeys := by
  have hkey : field.1 = "session_id" ∨ field.1 = "execution_state" ∨ field.1 = "stop_reason" ∨
      field.1 = "exit_code" := by
    simp only [failureFields, sessionStateDetails, List.mem_cons, List.mem_append, List.mem_map, List.not_mem_nil,
      or_false] at h
    rcases h with rfl | (rfl | ⟨reason, -, rfl⟩) | ⟨exitCode, -, rfl⟩
    · exact .inl rfl
    · exact .inr (.inl rfl)
    · exact .inr (.inr (.inl rfl))
    · exact .inr (.inr (.inr rfl))
  rcases hkey with hkey | hkey | hkey | hkey <;> rw [hkey] <;> decide

/-- The details with a default for every field of a list. -/
def withDefaults (details fields : Payload) : Payload :=
  fields.foldl (fun details field => Dict.setDefault details field.1 field.2) details

theorem mem_keys_withDefaults {details fields : Payload} {key : String} :
    key ∈ Dict.keys (withDefaults details fields) ↔ key ∈ Dict.keys fields ∨ key ∈ Dict.keys details := by
  induction fields generalizing details with
  | nil => simp [withDefaults, Dict.keys]
  | cons field rest ih =>
      rw [withDefaults, List.foldl_cons, ← withDefaults, ih, Dict.mem_keys_setDefault]
      simp only [Dict.keys, List.map_cons, List.mem_cons]
      tauto

theorem withDefaults_of_forall {details fields : Payload} (h : ∀ field ∈ fields, field.1 ∈ Dict.keys details) :
    withDefaults details fields = details := by
  induction fields with
  | nil => rfl
  | cons field rest ih =>
      rw [withDefaults, List.foldl_cons, Dict.setDefault_of_mem (h field List.mem_cons_self), ← withDefaults]
      exact ih fun field hfield => h field (List.mem_cons_of_mem _ hfield)

theorem raisedDetails_withDefaults {details fields : Payload}
    (h : ∀ field ∈ fields, field.1 ∉ errorTopLevelDetailKeys) :
    raisedDetails (withDefaults details fields) = raisedDetails details := by
  induction fields generalizing details with
  | nil => rfl
  | cons field rest ih =>
      rw [withDefaults, List.foldl_cons, ← withDefaults, ih fun field hfield => h field (List.mem_cons_of_mem _ hfield)]
      exact raisedDetails_setDefault (h field List.mem_cons_self)

/-- The nested details stay the same only where they have every field already. -/
theorem nestedDetails_withDefaults {details fields : Payload}
    (h : ∀ field ∈ fields, field.1 ∉ errorTopLevelDetailKeys ++ reservedErrorKeys) :
    nestedDetails details = nestedDetails (withDefaults details fields) ↔
      ∀ field ∈ fields, field.1 ∈ Dict.keys details := by
  constructor
  · intro heq field hfield
    have hmem : field.1 ∈ Dict.keys (nestedDetails (withDefaults details fields)) :=
      mem_keys_nestedDetails.mpr ⟨mem_keys_withDefaults.mpr (.inl (List.mem_map_of_mem hfield)), h field hfield⟩
    rw [← heq] at hmem
    exact (mem_keys_nestedDetails.mp hmem).1
  · intro hall
    rw [withDefaults_of_forall hall]

theorem failureCode_ne_error {message code : String} (h : failureCode message = some code) : code ≠ "error" := by
  obtain ⟨⟨fragment, code'⟩, hentry, hcode⟩ := List.exists_of_findSome?_eq_some h
  have hne : ∀ entry ∈ gdbFailureCodes, entry.2 ≠ "error" := by decide
  obtain rfl : code' = code := by simpa using (Option.ite_none_right_eq_some.mp hcode).2
  exact hne _ hentry

/-- A failure keeps its code if it has a specific one, or if its message tells none. -/
theorem classified_eq {message code : String} :
    code = (if code = "error" then (failureCode message).getD code else code) ↔
      code ≠ "error" ∨ failureCode message = none := by
  by_cases hcode : code = "error"
  · rw [if_pos hcode]
    cases hfailure : failureCode message with
    | none => simp
    | some code' =>
        simp only [Option.getD_some, hcode, ne_eq, not_true_eq_false, reduceCtorEq, or_self, iff_false]
        exact fun heq => failureCode_ne_error hfailure heq.symm
  · simp [hcode]

/-- The outcome of a service says by itself all that an annotation adds. -/
def ToldBy (rt : SessionRuntime) (sessionId : Int) : ToolResult → Prop
  | .success .. => True
  | .error message _ details code =>
    (∀ field ∈ failureFields rt sessionId, field.1 ∈ Dict.keys details) ∧
      (code ≠ "error" ∨ failureCode message = none)

/-- The payload of a result without the annotation is the annotated one if and only if the result says it all. -/
theorem resultToMapping_annotate (result : ToolResult) (action : Option String) :
    resultToMapping (wrapActionResultFor action result) =
        resultToMapping (wrapActionResultFor action (annotateSessionFailure rt sessionId result)) ↔
      ToldBy rt sessionId result := by
  cases result with
  | success value warnings => exact iff_of_true rfl trivial
  | error message fatal details code =>
      have htop : ∀ field ∈ failureFields rt sessionId, field.1 ∉ errorTopLevelDetailKeys := fun field hfield hkey =>
        failureFields_nested hfield (List.mem_append_left _ hkey)
      have hraised : raisedDetails details = raisedDetails (withDefaults details (failureFields rt sessionId)) :=
        (raisedDetails_withDefaults htop).symm
      have htold : nestedDetails details = nestedDetails (withDefaults details (failureFields rt sessionId)) ↔
          ∀ field ∈ failureFields rt sessionId, field.1 ∈ Dict.keys details :=
        nestedDetails_withDefaults fun field hfield => failureFields_nested hfield
      rw [ToldBy, ← htold, ← classified_eq, and_comm]
      cases action with
      | none => exact resultToMapping_error hraised
      | some action =>
          have haction : raisedDetails (Dict.setDefault details "action" (.str action)) =
              raisedDetails (Dict.setDefault (withDefaults details (failureFields rt sessionId)) "action" (.str action)) := by
            rw [raisedDetails_setDefault_of_mem (by decide), raisedDetails_setDefault_of_mem (by decide), hraised]
          refine (resultToMapping_error haction).trans ?_
          rw [nestedDetails_setDefault (by decide), nestedDetails_setDefault (by decide)]

/-! ### The two ways to a handler -/

section Run

variable {W : Type} {spec : ToolSpec W} {args : ToolArgs} {session : SessionRef}
  {manager manager' : SessionManager W} {outcome : ToolResult}

theorem executeStep_run (step : BatchStepArgs) (captureStopEvents : Bool) (index : Nat)
    (hserved : (spec.handler { session := some session } args).run manager = (.ok outcome, manager')) :
    ∃ entry, (SessionManager.executeStep session captureStopEvents index (Tools.stepTemplate step spec args)).run manager =
        (.ok (entry, (wrapActionResultFor args.action outcome).isSuccess), manager') ∧
      entry.result = resultToMapping (wrapActionResultFor args.action outcome) := by
  have hexecute : ((Tools.stepTemplate step spec args).execute session).run manager =
      (.ok (wrapActionResultFor args.action outcome), manager') := Eff.run_map_ok hserved
  let stopEvent := if captureStopEvents then
    (manager'.sessions session).runtime.stepStopEvent (manager.sessions session).runtime.stopHistory.length else none
  refine ⟨batchStepResult index (Tools.stepTemplate step spec args) (wrapActionResultFor args.action outcome) stopEvent,
    ?_, rfl⟩
  have hbefore : (SessionManager.runtimeOf session).run manager = (.ok (manager.sessions session).runtime, manager) := rfl
  rw [SessionManager.executeStep, Eff.run_bind_ok hbefore, Eff.run_bind_ok hexecute]
  rfl

theorem callInSession_run
    (hserved : (spec.handler { registry := true, session := some session } args).run manager = (.ok outcome, manager')) :
    (Tools.callInSession spec args session).run manager =
      (.ok (wrapActionResultFor args.action
        (annotateSessionFailure (manager'.sessions session).runtime args.sessionId outcome)), manager') := by
  rw [Tools.callInSession, Eff.run_bind_ok hserved]
  rfl

theorem callTool_run (hscope : spec.scope = .session)
    (hlive : manager.registry.resolveSession args.sessionId = .success session) :
    (Tools.callTool spec args).run manager = (Tools.callInSession spec args session).run manager := by
  have hresolved : (SessionManager.resolveSession args.sessionId).run manager = (.ok (.success session), manager) := by
    rw [← hlive]
    rfl
  rw [Tools.callTool, hscope]
  exact Eff.run_bind_ok hresolved

variable [Gdb W] {tools : Tools W}

/-- The status of a session does not depend on how it has been found. -/
theorem handleSessionQuery_run {listSessions : ManagerM W ToolResult} (haction : args.action ≠ some "list")
    (hlive : manager.registry.resolveSession args.sessionId = .success session) :
    (SessionManager.handleSessionQuery listSessions { registry := true } args).run manager =
      (SessionManager.handleSessionQuery listSessions { session := some session } args).run manager := by
  have hresolved : (SessionManager.resolveSession args.sessionId).run manager = (.ok (.success session), manager) := by
    rw [← hlive]
    rfl
  rw [SessionManager.handleSessionQuery, SessionManager.handleSessionQuery, if_neg haction, if_neg haction]
  by_cases hstatus : args.action = some "status"
  · rw [if_pos hstatus, if_pos hstatus]
    exact Eff.run_bind_ok hresolved
  · rw [if_neg hstatus, if_neg hstatus]

theorem toolSpecs_of_sessionToolSpecs {name : String} (h : tools.sessionToolSpecs name = some spec) :
    tools.toolSpecs name = some spec := by
  have hname : name ∈ batchStepToolNames := by
    unfold Tools.sessionToolSpecs at h
    split at h
    · rename_i hquery
      rw [hquery]
      exact List.mem_cons_self
    · split at h
      · rename_i hsession
        exact List.mem_cons_of_mem _ hsession
      · exact nomatch h
  have hother : ∀ name ∈ batchStepToolNames, name ∉
      ["gdb_session_start", "gdb_session_connect", "gdb_session_manage", "gdb_run_until_failure"] ∧
        name ≠ "gdb_workflow_batch" := by decide
  rw [Tools.toolSpecs, if_neg (hother name hname).1, if_neg (hother name hname).2, h]

end Run

/-! ### Batch steps and direct calls -/

section Agreement

variable {W : Type} {spec : ToolSpec W} {step : BatchStepArgs} {args : ToolArgs} {session : SessionRef}
  {sessionId : Int} {manager manager' : SessionManager W} {outcome : ToolResult}

/-- The arguments of the direct call that a step stands for. -/
def directArguments (sessionId : Int) (step : BatchStepArgs) : Payload := ("session_id", .int sessionId) :: step.arguments

/-- The action of a step on the session query is not the one that a batch forbids. -/
theorem action_ne_list (hallowed : validateWorkflowStepContract step.tool step.arguments = none)
    (hargs : spec.model.validate (directArguments sessionId step) = .ok args) (hquery : step.tool = "gdb_session_query") :
    args.action ≠ some "list" := by
  rw [spec.model.action_eq hargs]
  intro hlist
  have hforbidden : (step.arguments.lookup "action").bind asText = some "list" := hlist
  rw [validateWorkflowStepContract] at hallowed
  split at hallowed
  · exact nomatch hallowed
  · rw [if_pos ⟨hquery, hforbidden⟩] at hallowed
    exact nomatch hallowed

variable [Gdb W] {tools : Tools W}

theorem dispatchTool_run (hspec : tools.sessionToolSpecs step.tool = some spec)
    (hargs : spec.model.validate (directArguments sessionId step) = .ok args) :
    tools.dispatchTool step.tool (directArguments sessionId step) = Tools.callTool spec args := by
  rw [Tools.dispatchTool, toolSpecs_of_sessionToolSpecs hspec]
  simp only [hargs]

theorem buildStepTemplate_ok (index : Nat) (hallowed : validateWorkflowStepContract step.tool step.arguments = none)
    (hspec : tools.sessionToolSpecs step.tool = some spec)
    (hargs : spec.model.validate (directArguments sessionId step) = .ok args) :
    tools.buildStepTemplate sessionId index step = .ok (Tools.stepTemplate step spec args) := by
  rw [directArguments] at hargs
  simp only [Tools.buildStepTemplate, hallowed, hspec, hargs]

/-- The result of a direct call on a session in the given state. -/
def directResult (toolName : String) (args : ToolArgs) (rt : SessionRuntime) (outcome : ToolResult) : ToolResult :=
  wrapActionResultFor args.action
    (if toolName = "gdb_session_query" then outcome else annotateSessionFailure rt args.sessionId outcome)

theorem dispatchTool_outcome (hallowed : validateWorkflowStepContract step.tool step.arguments = none)
    (hspec : tools.sessionToolSpecs step.tool = some spec)
    (hargs : spec.model.validate (directArguments sessionId step) = .ok args)
    (hlive : manager.registry.resolveSession sessionId = .success session)
    (hserved : (spec.handler { session := some session } args).run manager = (.ok outcome, manager')) :
    (tools.dispatchTool step.tool (directArguments sessionId step)).run manager =
      (.ok (directResult step.tool args (manager'.sessions session).runtime outcome), manager') := by
  rw [dispatchTool_run hspec hargs, directResult]
  rw [← spec.model.sessionId_eq hargs] at hlive
  by_cases hquery : step.tool = "gdb_session_query"
  · have haction := action_ne_list hallowed hargs hquery
    rw [Tools.sessionToolSpecs, if_pos hquery] at hspec
    obtain rfl := Option.some.inj hspec
    rw [if_pos hquery]
    exact Eff.run_map_ok ((handleSessionQuery_run haction hlive).trans hserved)
  · rw [Tools.sessionToolSpecs, if_neg hquery] at hspec
    obtain ⟨-, hspec⟩ := Option.ite_none_right_eq_some.mp hspec
    obtain rfl := Option.some.inj hspec
    rw [if_neg hquery, callTool_run rfl hlive]
    exact callInSession_run hserved

/-- **A batch step and the direct call of its tool.** Both leave the same state behind. They have the same payload if
and only if the tool is the session query, whose failures no call annotates, or the service outcome says by itself all
that the annotation adds. -/
theorem batchStep_agrees (index : Nat) (captureStopEvents : Bool)
    (hallowed : validateWorkflowStepContract step.tool step.arguments = none)
    (hspec : tools.sessionToolSpecs step.tool = some spec)
    (hargs : spec.model.validate (directArguments sessionId step) = .ok args)
    (hlive : manager.registry.resolveSession sessionId = .success session)
    (hserved : (spec.handler { session := some session } args).run manager = (.ok outcome, manager')) :
    ∃ template entry succeeded direct,
      tools.buildStepTemplate sessionId index step = .ok template ∧
      (SessionManager.executeStep session captureStopEvents index template).run manager =
        (.ok (entry, succeeded), manager') ∧
      (tools.dispatchTool step.tool (directArguments sessionId step)).run manager = (.ok direct, manager') ∧
      (entry.result = resultToMapping direct ↔
        step.tool = "gdb_session_query" ∨ ToldBy (manager'.sessions session).runtime sessionId outcome) := by
  obtain ⟨entry, hentry, hresult⟩ := executeStep_run step captureStopEvents index hserved
  refine ⟨Tools.stepTemplate step spec args, entry, _, _, buildStepTemplate_ok index hallowed hspec hargs, hentry,
    dispatchTool_outcome hallowed hspec hargs hlive hserved, ?_⟩
  rw [hresult, directResult]
  by_cases hquery : step.tool = "gdb_session_query"
  · rw [if_pos hquery]
    exact iff_of_true rfl (.inl hquery)
  · rw [if_neg hquery, spec.model.sessionId_eq hargs]
    exact (resultToMapping_annotate outcome args.action).trans (or_iff_right hquery).symm

end Agreement

/-! ### A step of a batch on a session whose program does not run -/

/-- A request model that reads the fields which every model shares. -/
def sharedFieldsModel : ToolModel where
  validate arguments :=
    match arguments.lookup "session_id" with
    | some (.int sessionId) =>
      .ok { sessionId, action := (arguments.lookup "action").bind asText, fields := arguments }
    | _ => .error "session_id: Field required"
  sessionId_eq h := by
    injection h with h
    rw [← h]
  action_eq h := by
    split at h
    · injection h with h
      rw [← h]
    · exact nomatch h

/-- The execute-command tool on a debugger that is played by a script. -/
def commandTools : Tools Scripted where
  model _ := sharedFieldsModel
  batchArgs args := { sessionId := args.sessionId, steps := [] }
  sessionHandler _ args :=
    OperationResult.serialize CommandExecutionInfo.toValue <$>
      Session.executeCommand (((args.fields.lookup "command").bind asText).getD "") defaultTimeoutSec
  registryHandler _ _ := pure (.success .none)

/-- The debugger answers every command with `^error` and a message. -/
def Script.refusing (message : String) : Script where
  rounds := fun _ => { own := .answering fun token =>
    [{ resultRecord "error" token with payload := .dict [("msg", .str message)] }] }

/-- One session, published under the id 1, whose program does not run. -/
def idleManager (script : Script) : SessionManager Scripted where
  registry := SessionRegistry.publish {} 1 0
  sessions := fun _ =>
    { runtime := { transport := { controller := some {} }, state := .ready, executionState := .notStarted }
      gdb := script.play }

def infoLocals : BatchStepArgs where
  tool := "gdb_execute_command"
  arguments := [("command", .str "info locals")]

def commandSpec : ToolSpec Scripted :=
  SessionManager.sessionToolSpec sharedFieldsModel (commandTools.sessionHandler "gdb_execute_command")

def infoLocalsArgs : ToolArgs := { sessionId := 1, fields := directArguments 1 infoLocals }

def servedBy (script : Script) : Except PyError ToolResult × SessionManager Scripted :=
  (commandSpec.handler { session := some 0 } infoLocalsArgs).run (idleManager script)

theorem servedBy_refusing : servedBy (.refusing "No frame selected.") =
    (.ok (.error "No frame selected." false [("command", .str "info locals")]),
      (servedBy (.refusing "No frame selected.")).2) :=
  Prod.ext rfl rfl

/-- A step whose command GDB refuses: the batch tells the code `error`, and the direct call tells what it means. -/
theorem step_unclassified :
    ∃ template entry succeeded direct manager',
      commandTools.buildStepTemplate 1 0 infoLocals = .ok template ∧
      (SessionManager.executeStep 0 true 0 template).run (idleManager (.refusing "No frame selected.")) =
        (.ok (entry, succeeded), manager') ∧
      (commandTools.dispatchTool infoLocals.tool (directArguments 1 infoLocals)).run
        (idleManager (.refusing "No frame selected.")) = (.ok direct, manager') ∧
      entry.result.lookup "code" = some (.str "error") ∧
      (resultToMapping direct).lookup "code" = some (.str "no_stack_frame") ∧
      entry.result ≠ resultToMapping direct := by
  obtain ⟨entry, hentry, hresult⟩ := executeStep_run infoLocals true 0 servedBy_refusing
  have hdirect := @dispatchTool_outcome _ commandSpec infoLocals infoLocalsArgs 0 1
    (idleManager (.refusing "No frame selected.")) _ _ _ commandTools rfl rfl rfl rfl servedBy_refusing
  refine ⟨_, entry, _, _, _, rfl, hentry, hdirect, by rw [hresult]; rfl, rfl, fun heq => ?_⟩
  have hcode := congrArg (List.lookup "code") heq
  rw [hresult] at hcode
  exact absurd (Value.str.inj (Option.some.inj hcode)) (by decide)

theorem servedBy_accepting : ∃ value manager', servedBy .accepting = (.ok (.success value), manager') :=
  ⟨_, _, rfl⟩

theorem batchStep_agrees_infoLocals : ∃ value manager' template entry succeeded direct,
    servedBy .accepting = (.ok (.success value), manager') ∧
      commandTools.buildStepTemplate 1 0 infoLocals = .ok template ∧
      (SessionManager.executeStep 0 true 0 template).run (idleManager .accepting) = (.ok (entry, succeeded), manager') ∧
      (commandTools.dispatchTool infoLocals.tool (directArguments 1 infoLocals)).run (idleManager .accepting) =
        (.ok direct, manager') ∧
      (entry.result = resultToMapping direct ↔
        infoLocals.tool = "gdb_session_query" ∨ ToldBy (manager'.sessions 0).runtime 1 (.success value)) := by
  obtain ⟨value, manager', hserved⟩ := servedBy_accepting
  obtain ⟨template, entry, succeeded, direct, hagrees⟩ :=
    @batchStep_agrees _ commandSpec infoLocals infoLocalsArgs 0 1 (idleManager .accepting) manager' (.success value) _
      commandTools 0 true rfl rfl rfl rfl hserved
  exact ⟨value, manager', template, entry, succeeded, direct, hserved, hagrees⟩

end GdbMcp
