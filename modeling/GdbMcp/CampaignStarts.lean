import GdbMcp.CampaignRun
import GdbMcp.WorkflowAgreement

/-! The parameters with which sessions are started: by the handler of a direct start, and in every iteration of a
campaign for the same startup payload. -/

namespace GdbMcp

def SessionStartInfo.toValue (info : SessionStartInfo) : Value :=
  let optional := fun (items : List Value) => if items.isEmpty then Value.none else .list items
  .dict [("message", .str info.message), ("program", .ofOption .str info.program), ("core", .ofOption .str info.core),
    ("target_loaded", .bool info.targetLoaded), ("execution_state", .str info.executionState.name),
    ("stop_reason", .ofOption .str info.stopReason), ("exit_code", .ofOption .int info.exitCode),
    ("startup_output", .ofOption .str info.startupOutput), ("warnings", optional (info.warnings.map .str)),
    ("env_output", optional info.envOutput), ("init_output", optional info.initOutput),
    ("endpoint", .ofOption .str info.endpoint), ("rr_replay", .ofOption .str info.rrReplay)]

namespace SessionManager

variable {W : Type} [Gdb W]

/-- Start a session and only publish it if startup succeeds. -/
def startSession (a : StartArgs) : ManagerM W (Option Int × OperationResult SessionStartInfo) := do
  let id ← Eff.gets (·.registry.nextSessionId)
  Eff.modify fun manager => { manager with registry := manager.registry.allocateSessionId }
  let session ← createUntrackedSession
  match ← startWith session a with
  | .error message fatal details code => return (none, .error message fatal details code)
  | .success info warnings => do
    Eff.modify fun manager => { manager with registry := manager.registry.publish id session }
    return (some id, .success info warnings)

end SessionManager

/-- Inject the allocated session id into a successful session-start payload. -/
def publishSessionResult (sessionId : Option Int) (result : ToolResult) : ToolResult :=
  match sessionId, result with
  | some id, .success (.dict fields) _ => .success (.dict (Dict.set fields "session_id" (.int id)))
  | some _, .success _ _ => .error "Internal error: session start payload must be an object"
  | _, result => result

section Handlers

variable {W : Type} [Gdb W]

/-- Start a new debugger session. -/
def handleStartSession (args : StartSessionArgs) : ManagerM W ToolResult :=
  match args.parameters with
  | .error error => pure error
  | .ok a => do
    let (id, result) ← SessionManager.startSession a
    return publishSessionResult id (result.serialize SessionStartInfo.toValue)

/-- The configuration of a campaign for validated arguments and their normalized parts. -/
def RunUntilFailureArgs.request (args : RunUntilFailureArgs) (steps : List (BatchStepTemplate W)) (runArgs : List String)
    (ranges : List MemoryCaptureRange) : RunUntilFailureRequest W where
  program := args.startup.program
  args := tupleOf args.startup.args
  initCommands := args.startup.initCommands.getD []
  env := args.startup.env.getD []
  gdbPath := args.startup.gdbPath
  workingDir := args.startup.workingDir
  core := args.startup.core
  setupSteps := steps
  runArgs := runArgs
  runTimeoutSec := args.runTimeoutSec
  maxIterations := args.maxIterations
  failure := args.failure
  capture := args.capture.withRanges ranges

/-- Run repeated fresh sessions until one failure predicate matches. -/
def handleRunUntilFailure (tools : Tools W) (campaign : CampaignTools W) (args : RunUntilFailureArgs) :
    ManagerM W ToolResult :=
  match tools.buildBatchStepTemplates 1 args.setupSteps with
  | .error error => pure error
  | .ok steps =>
    match normalizeRunArgs args.runArgs with
    | .error error => pure error
    | .ok runArgs => do
      match ← Eff.ofExcept (memoryCaptureRanges args.capture.memoryRanges) with
      | .error error => return error
      | .ok ranges => (args.request steps (runArgs.getD []) ranges).runUntilFailure campaign

/-! ### What starts sessions

Nothing but `startWith` adds to the starts of a manager. -/

/-- A computation that starts no session. -/
abbrev Quiet {α : Type} (m : ManagerM W α) : Prop := Eff.Within (Eff.Same SessionManager.started) m

omit [Gdb W] in
theorem quiet_onSession {α : Type} (session : SessionRef) (m : SessionM W α) : Quiet (SessionManager.onSession session m) := by
  refine ⟨fun manager => ?_⟩
  rw [SessionManager.onSession, Eff.wp_zoom]
  exact Eff.wp_mono (Eff.wp_true m _) (fun _ _ _ => rfl) fun _ _ _ => rfl

/-- A step of a batch acts on the session alone. -/
def BatchStepTemplate.Acts (template : BatchStepTemplate W) : Prop := ∀ session, Quiet (template.execute session)

theorem acts_of_buildStepTemplates {tools : Tools W} {sessionId : Int} {index : Nat} {steps : List BatchStepArgs}
    {templates : List (BatchStepTemplate W)} (h : tools.buildStepTemplates sessionId index steps = .ok templates) :
    ∀ template ∈ templates, template.Acts :=
  fun template hmem session =>
    keeps_of_buildStepTemplates (quiet_onSession session _) (fun _ _ => quiet_onSession session _) h template hmem

/-! ### The starts of a campaign -/

/-- All sessions started between two states were started with the same parameters. -/
def StartsWith (a : StartArgs) (manager manager' : SessionManager W) : Prop :=
  ∃ sessions : List SessionRef, manager'.started = manager.started ++ sessions.map fun session => (session, a)

instance (a : StartArgs) : Std.Refl (StartsWith (W := W) a) := ⟨fun _ => ⟨[], by simp⟩⟩

instance (a : StartArgs) : IsTrans (SessionManager W) (StartsWith a) where
  trans manager manager' manager'' := by
    rintro ⟨sessions, h⟩ ⟨sessions', h'⟩
    exact ⟨sessions ++ sessions', by rw [h', h, List.map_append, List.append_assoc]⟩

variable {campaign : CampaignTools W} {request : RunUntilFailureRequest W} {regex : Option (Payload → Bool)}
  {session : SessionRef} {iteration : Nat} {progress : CampaignProgress}

/-- An attempt notes its start, and nothing behind it starts a further session. -/
theorem attemptSession_started (h : ∀ template ∈ request.setupSteps, template.Acts) (manager : SessionManager W) :
    Eff.wp (RunUntilFailureRequest.attemptSession campaign request regex session iteration progress)
      (fun _ manager' => manager'.started = manager.started ++ [(session, request.startArgs)])
      (fun _ manager' => manager'.started = manager.started ++ [(session, request.startArgs)]) manager := by
  rw [RunUntilFailureRequest.attemptSession, SessionManager.startWith, Eff.wp_bind, Eff.wp_bind, Eff.wp_modify]
  refine Eff.wp_mono ((quiet_onSession session _).outcome _) (fun result manager' hsame => ?_) fun _ _ hsame => hsame
  cases result with
  | error message fatal details code => exact hsame
  | success info warnings =>
      refine Eff.wp_mono ((within_afterStart (quiet_onSession session) fun step hstep => h step hstep _).outcome manager')
        (fun _ _ hafter => ?_) fun _ _ hafter => ?_
      · exact Eq.trans hafter hsame
      · exact Eq.trans hafter hsame

/-- Every iteration starts one session, with the parameters of the request. -/
theorem runIteration_started (h : ∀ template ∈ request.setupSteps, template.Acts) (manager : SessionManager W) :
    Eff.wp (RunUntilFailureRequest.runIteration campaign request regex iteration progress)
      (fun _ manager' => manager'.started = manager.started ++ [(manager.nextSession, request.startArgs)])
      (fun _ manager' => manager'.started = manager.started ++ [(manager.nextSession, request.startArgs)]) manager := by
  rw [RunUntilFailureRequest.runIteration, Eff.wp_bind]
  refine (Eff.wp_ensure _ _).mpr ?_
  have hcleanup : ∀ manager' : SessionManager W,
      ((SessionManager.cleanupSession manager.nextSession).run manager').2.started = manager'.started :=
    fun manager' => (within_cleanupSession (quiet_onSession manager.nextSession)).run manager'
  refine Eff.wp_mono (attemptSession_started h _) (fun _ _ hstarted => ?_) fun _ _ hstarted => ?_
  · exact (hcleanup _).trans hstarted
  · exact (hcleanup _).trans hstarted

theorem within_runIterations (h : ∀ template ∈ request.setupSteps, template.Acts) (remaining : Nat) :
    Eff.Within (StartsWith request.startArgs)
      (RunUntilFailureRequest.runIterations campaign request regex remaining iteration progress) := by
  induction remaining generalizing iteration progress with
  | zero => exact Eff.Within.pure _
  | succ remaining ih =>
      refine Eff.Within.bind ⟨fun manager => ?_⟩ fun progress => Eff.Within.ite (Eff.Within.pure _) ih
      refine Eff.wp_mono (runIteration_started h manager) (fun _ _ hstarted => ?_) fun _ _ hstarted => ?_
      · exact ⟨[_], hstarted⟩
      · exact ⟨[_], hstarted⟩

/-- A campaign with an iteration to make starts a session first, and all further ones in the same way. -/
theorem runIterations_started (h : ∀ template ∈ request.setupSteps, template.Acts) (remaining : Nat)
    (manager : SessionManager W) :
    ∃ session sessions, ((RunUntilFailureRequest.runIterations campaign request regex (remaining + 1) iteration
      progress).run manager).2.started =
        manager.started ++ (session :: sessions).map fun session => (session, request.startArgs) := by
  refine Eff.wp_state (I := fun manager' : SessionManager W => ∃ session sessions,
    manager'.started = manager.started ++ (session :: sessions).map fun session => (session, request.startArgs)) ?_
  rw [RunUntilFailureRequest.runIterations, Eff.wp_bind]
  refine Eff.wp_mono (runIteration_started h manager) (fun progress manager' hfirst => ?_) fun _ _ hfirst => ?_
  · have hrest : Eff.Within (StartsWith request.startArgs) (if progress.matched.isSome then pure progress else
        RunUntilFailureRequest.runIterations campaign request regex remaining (iteration + 1) progress) :=
      Eff.Within.ite (Eff.Within.pure _) (within_runIterations h remaining)
    have hall : ∀ manager'', StartsWith request.startArgs manager' manager'' → ∃ session sessions,
        manager''.started = manager.started ++ (session :: sessions).map fun session => (session, request.startArgs) := by
      rintro manager'' ⟨sessions, hstarted⟩
      exact ⟨manager.nextSession, sessions, by rw [hstarted, hfirst, List.append_assoc]; rfl⟩
    exact Eff.wp_mono (hrest.outcome manager') (fun _ _ => hall _) fun _ _ => hall _
  · exact ⟨manager.nextSession, [], hfirst⟩

/-! ### The same payload, directly and in a campaign -/

/-- The parameters that a campaign passes on. -/
def StartSessionArgs.campaignParameters (a : StartSessionArgs) : StartArgs where
  program := a.program
  args := tupleOf a.args
  initCommands := a.initCommands.getD []
  env := a.env.getD []
  gdbPath := a.gdbPath
  workingDir := a.workingDir
  core := a.core

/-- A payload that a campaign passes on as it is: no option for the debugger, no recording to replay, and no string of
arguments other than an empty one or a single plain character. -/
structure StartSessionArgs.Forwarded (a : StartSessionArgs) : Prop where
  gdbArgs : a.gdbArgs.getD [] = []
  rrReplay : a.rrReplay = none
  line : ∀ text, a.args = some (.line text) →
    text.toList = [] ∨ ∃ c, text.toList = [c] ∧ Shlex.isPlain c = true

omit [Gdb W] in
theorem normalizeRunArgs_eq_tupleOf (args : Option RunArgs) :
    (∃ argv, normalizeRunArgs args = .ok argv ∧ argv.getD [] = tupleOf args) ↔
      ∀ text, args = some (.line text) → text.toList = [] ∨ ∃ c, text.toList = [c] ∧ Shlex.isPlain c = true := by
  match args with
  | none => exact iff_of_true ⟨none, rfl, rfl⟩ (by simp)
  | some (.argv argv) => exact iff_of_true ⟨some argv, rfl, rfl⟩ (by simp)
  | some (.line text) =>
      have hsplit : (∃ argv, normalizeRunArgs (some (.line text)) = .ok argv ∧ argv.getD [] = tupleOf (some (.line text))) ↔
          Shlex.split text = .ok (text.toList.map fun c => String.ofList [c]) := by
        rw [normalizeRunArgs, tupleOf]
        cases Shlex.split text <;> simp
      rw [hsplit, Shlex.split_eq_chars]
      exact ⟨fun h _ heq => RunArgs.line.inj (Option.some.inj heq) ▸ h, fun h => h text rfl⟩

omit [Gdb W] in
theorem parameters_eq_campaignParameters (a : StartSessionArgs) :
    a.parameters = .ok a.campaignParameters ↔ a.Forwarded := by
  have hargs := normalizeRunArgs_eq_tupleOf a.args
  constructor
  · intro h
    rw [StartSessionArgs.parameters] at h
    cases hnormalized : normalizeRunArgs a.args with
    | error error =>
        rw [hnormalized] at h
        exact nomatch h
    | ok argv =>
        rw [hnormalized] at h
        have hfields := StartArgs.mk.inj (Except.ok.inj h)
        exact ⟨hfields.2.2.2.2.2.1, hfields.2.2.2.2.2.2.2.2.2, hargs.mp ⟨argv, hnormalized, hfields.2.1⟩⟩
  · intro h
    obtain ⟨argv, hnormalized, hargv⟩ := hargs.mpr h.line
    rw [StartSessionArgs.parameters, hnormalized]
    simp only [bind, Except.bind, pure, Except.pure, hargv, h.gdbArgs, h.rrReplay]
    rfl

/-- A direct start passes on its parameters, once; a payload without parameters is rejected. -/
theorem handleStartSession_run (a : StartSessionArgs) (manager : SessionManager W) :
    match a.parameters with
    | .ok parameters =>
      ((handleStartSession a).run manager).2.started = manager.started ++ [(manager.nextSession, parameters)]
    | .error error => (handleStartSession a).run manager = (.ok error, manager) := by
  rw [handleStartSession]
  cases hparameters : a.parameters with
  | error error => rfl
  | ok parameters =>
      refine Eff.wp_state (I := fun manager' : SessionManager W =>
        manager'.started = manager.started ++ [(manager.nextSession, parameters)]) ?_
      rw [Eff.wp_bind, SessionManager.startSession, Eff.wp_bind, Eff.wp_gets, Eff.wp_bind, Eff.wp_modify, Eff.wp_bind]
      change Eff.wp (SessionManager.startWith manager.nextSession parameters >>= _) _ _ _
      rw [Eff.wp_bind, SessionManager.startWith, Eff.wp_bind, Eff.wp_modify]
      refine Eff.wp_mono ((quiet_onSession manager.nextSession _).outcome _) (fun result manager' hsame => ?_)
        fun _ _ hsame => hsame
      cases result with
      | error message fatal details code => exact hsame
      | success info warnings => exact hsame

/-- A request with valid parts besides its startup payload. -/
structure RunUntilFailureArgs.Valid (args : RunUntilFailureArgs) (tools : Tools W) (campaign : CampaignTools W) : Prop where
  steps : ∃ steps, tools.buildBatchStepTemplates 1 args.setupSteps = .ok steps
  runArgs : ∃ runArgs, normalizeRunArgs args.runArgs = .ok runArgs
  memoryRanges : ∃ ranges, memoryCaptureRanges args.capture.memoryRanges = .ok (.ok ranges)
  regex : ∃ regex, args.failure.resultTextRegex.mapM campaign.compile = .ok regex

/-- A campaign with a valid request starts sessions, all with the parameters of the campaign. -/
theorem handleRunUntilFailure_started {tools : Tools W} {args : RunUntilFailureArgs}
    (hvalid : args.Valid tools campaign) (manager : SessionManager W) :
    ∃ session sessions, ((handleRunUntilFailure tools campaign args).run manager).2.started =
      manager.started ++ (session :: sessions).map fun session => (session, args.startup.campaignParameters) := by
  obtain ⟨steps, hsteps⟩ := hvalid.steps
  obtain ⟨runArgs, hrunArgs⟩ := hvalid.runArgs
  obtain ⟨ranges, hranges⟩ := hvalid.memoryRanges
  obtain ⟨regex, hregex⟩ := hvalid.regex
  have hranges' : (Eff.ofExcept (memoryCaptureRanges args.capture.memoryRanges) : ManagerM W _).run manager =
      (.ok (.ok ranges), manager) := by
    rw [hranges]
    rfl
  have hregex' : (Eff.ofExcept ((args.request steps (runArgs.getD []) ranges).failure.resultTextRegex.mapM
      campaign.compile) : ManagerM W _).run manager = (.ok regex, manager) := by
    rw [← hregex]
    rfl
  have hacts : ∀ template ∈ (args.request steps (runArgs.getD []) ranges).setupSteps, template.Acts :=
    acts_of_buildStepTemplates hsteps
  obtain ⟨n, hn⟩ := Nat.exists_eq_succ_of_ne_zero (Nat.pos_iff_ne_zero.mp args.maxIterations_pos)
  rw [handleRunUntilFailure, hsteps]
  simp only [hrunArgs]
  rw [Eff.run_bind_ok hranges']
  change ∃ session sessions, ((RunUntilFailureRequest.runUntilFailure campaign _).run manager).2.started = _
  rw [RunUntilFailureRequest.runUntilFailure, Eff.run_bind_ok hregex', Eff.run_bind_pure_state]
  change ∃ session sessions, ((RunUntilFailureRequest.runIterations campaign _ regex args.maxIterations 1 {}).run
    manager).2.started = _
  rw [hn]
  exact runIterations_started hacts n manager

/-- The starts of a campaign beside the direct start for its startup payload: where the direct handler starts a session,
the campaign starts all of its sessions with the same parameters; where the direct handler rejects the payload, the
campaign rejects it with the same result and starts nothing. -/
structure StartsAsDirect (startup : StartSessionArgs) (manager : SessionManager W)
    (campaign : Except PyError ToolResult × SessionManager W) : Prop where
  started : ∀ session a, ((handleStartSession startup).run manager).2.started = manager.started ++ [(session, a)] →
    ∃ session sessions, campaign.2.started = manager.started ++ (session :: sessions).map fun session => (session, a)
  rejected : ((handleStartSession startup).run manager).2.started = manager.started →
    campaign.1 = ((handleStartSession startup).run manager).1 ∧ campaign.2.started = manager.started

theorem startsAsDirect_iff {tools : Tools W} {args : RunUntilFailureArgs} (hvalid : args.Valid tools campaign)
    (manager : SessionManager W) :
    StartsAsDirect args.startup manager ((handleRunUntilFailure tools campaign args).run manager) ↔
      args.startup.parameters = .ok args.startup.campaignParameters := by
  have hdirect := handleStartSession_run args.startup manager
  obtain ⟨session, sessions, hcampaign⟩ := handleRunUntilFailure_started hvalid manager
  constructor
  · intro h
    cases hparameters : args.startup.parameters with
    | error error =>
        rw [hparameters] at hdirect
        have hnone := (h.rejected (by rw [hdirect])).2
        rw [hcampaign] at hnone
        exact absurd hnone (by simp)
    | ok parameters =>
        rw [hparameters] at hdirect
        obtain ⟨session', sessions', hsame⟩ := h.started _ _ hdirect
        rw [hcampaign, List.append_cancel_left_eq] at hsame
        have hhead := (List.cons.inj hsame).1
        rw [(Prod.mk.inj hhead).2]
  · intro h
    rw [h] at hdirect
    refine ⟨fun session' a hstarted => ⟨session, sessions, ?_⟩, fun hnone => ?_⟩
    · rw [hdirect, List.append_cancel_left_eq] at hstarted
      have hhead := (List.cons.inj hstarted).1
      rw [hcampaign, (Prod.mk.inj hhead).2]
    · rw [hdirect] at hnone
      exact absurd hnone (by simp)

/-- **The sessions of a campaign.** For every valid request and every behaviour of its sessions, the campaign starts
them as the direct start for the same payload if and only if the payload is one that it passes on as it is. -/
theorem campaign_starts {tools : Tools W} {args : RunUntilFailureArgs} (hvalid : args.Valid tools campaign)
    (manager : SessionManager W) :
    StartsAsDirect args.startup manager ((handleRunUntilFailure tools campaign args).run manager) ↔
      args.startup.Forwarded :=
  (startsAsDirect_iff hvalid manager).trans (parameters_eq_campaignParameters args.startup)

end Handlers

/-! ### Payloads that a campaign changes -/

/-- Tools that do nothing. -/
def idleTools : Tools Scripted where
  model _ := sharedFieldsModel
  batchArgs args := { sessionId := args.sessionId, steps := [] }
  sessionHandler _ _ := pure (.success .none)
  registryHandler _ _ := pure (.success .none)

def idleCampaign : CampaignTools Scripted where
  captureBundle _ := pure (.success .none)
  compile _ := .ok fun _ => false

/-- No session yet; every session will meet a debugger that accepts all commands. -/
def freshManager : SessionManager Scripted where
  registry := {}
  sessions := fun _ => { runtime := {}, gdb := Script.accepting.play }

theorem valid_of_startup (startup : StartSessionArgs) :
    RunUntilFailureArgs.Valid { startup } idleTools idleCampaign where
  steps := ⟨[], rfl⟩
  runArgs := ⟨none, rfl⟩
  memoryRanges := ⟨[], rfl⟩
  regex := ⟨none, rfl⟩

def explicitArgs : StartSessionArgs := { program := some "/bin/prog", args := some (.argv ["-x", "1"]) }

theorem campaign_starts_explicitArgs :
    StartsAsDirect explicitArgs freshManager
        ((handleRunUntilFailure idleTools idleCampaign { startup := explicitArgs }).run freshManager) ↔
      explicitArgs.Forwarded :=
  campaign_starts (valid_of_startup explicitArgs) freshManager

def shellLine : StartSessionArgs := { program := some "/bin/prog", args := some (.line "-x 1") }

def openQuotation : StartSessionArgs := { program := some "/bin/prog", args := some (.line "\"x") }

def debuggerOption : StartSessionArgs where
  program := some "/bin/prog"
  gdbArgs := some ["-iex", "set debuginfod enabled off"]
  gdbArgs_ok := by decide

def recording : StartSessionArgs := { rrReplay := some "latest-trace" }

/-- The campaign of a startup payload, with nothing else in its request. -/
def idleRun (startup : StartSessionArgs) : Except PyError ToolResult × SessionManager Scripted :=
  (handleRunUntilFailure idleTools idleCampaign { startup }).run freshManager

/-- A string of arguments falls into its characters, whether it can be split or not; an option for the debugger and a
recording to replay are dropped. -/
theorem campaign_changes_parameters :
    ¬StartsAsDirect shellLine freshManager (idleRun shellLine) ∧
    ¬StartsAsDirect openQuotation freshManager (idleRun openQuotation) ∧
    ¬StartsAsDirect debuggerOption freshManager (idleRun debuggerOption) ∧
    ¬StartsAsDirect recording freshManager (idleRun recording) := by
  have hsame : ∀ {startup}, StartsAsDirect startup freshManager (idleRun startup) →
      startup.parameters = .ok startup.campaignParameters := fun {startup} =>
    (startsAsDirect_iff (valid_of_startup startup) freshManager).mp
  refine ⟨fun h => ?_, fun h => ?_, fun h => ?_, fun h => ?_⟩
  · exact absurd (congrArg StartArgs.args (Except.ok.inj (hsame h))) (by decide)
  · exact nomatch hsame h
  · exact absurd (congrArg StartArgs.gdbArgs (Except.ok.inj (hsame h))) (by decide)
  · exact absurd (congrArg StartArgs.rrReplay (Except.ok.inj (hsame h))) (by decide)

end GdbMcp
