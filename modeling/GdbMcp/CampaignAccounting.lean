import GdbMcp.CampaignStarts
import GdbMcp.WorkflowAccounting

/-! The account of a campaign. However its iterations end, each of its sessions is released, and the summaries agree
with the matched failure. -/

namespace GdbMcp

open Eff

variable {W : Type} [Gdb W] {campaign : CampaignTools W} {request : RunUntilFailureRequest W}
  {regex : Option (Payload → Bool)} {session : SessionRef} {iteration remaining : Nat} {progress progress' : CampaignProgress}
  {manager manager' : SessionManager W}

/-! ### Sessions

An iteration acts on its own session and leaves all others alone, so that a session which has been released stays so. -/

/-- Nothing but the one session has changed, and no session has been created. -/
structure OnlyOn (session : SessionRef) (manager manager' : SessionManager W) : Prop where
  nextSession : manager'.nextSession = manager.nextSession
  others : ∀ other ≠ session, manager'.sessions other = manager.sessions other

omit [Gdb W] in
instance : Std.Refl (OnlyOn (W := W) session) := ⟨fun _ => ⟨rfl, fun _ _ => rfl⟩⟩

omit [Gdb W] in
instance : IsTrans (SessionManager W) (OnlyOn session) :=
  ⟨fun _ _ _ h h' => ⟨h'.nextSession.trans h.nextSession, fun other hne => (h'.others other hne).trans (h.others other hne)⟩⟩

omit [Gdb W] in
theorem onlyOn_onSession (session : SessionRef) {α : Type} (m : SessionM W α) :
    Within (OnlyOn session) (SessionManager.onSession session m) := by
  refine Within.of_run fun manager => ⟨rfl, fun other hne => ?_⟩
  exact Function.update_of_ne hne _ _

/-- A setup step acts on its session alone. -/
def BatchStepTemplate.StaysIn (template : BatchStepTemplate W) : Prop := ∀ session, template.Keeps (OnlyOn session) session

theorem staysIn_of_buildStepTemplates {tools : Tools W} {sessionId : Int} {index : Nat} {steps : List BatchStepArgs}
    {templates : List (BatchStepTemplate W)} (h : tools.buildStepTemplates sessionId index steps = .ok templates) :
    ∀ template ∈ templates, template.StaysIn :=
  fun template hmem session =>
    keeps_of_buildStepTemplates (onlyOn_onSession session _) (fun _ _ => onlyOn_onSession session _) h template hmem

theorem onlyOn_attemptSession (h : ∀ template ∈ request.setupSteps, template.StaysIn) :
    Within (OnlyOn session) (RunUntilFailureRequest.attemptSession campaign request regex session iteration progress) := by
  have hstart : Within (OnlyOn session) (SessionManager.startWith (W := W) session request.startArgs) :=
    (Within.modify fun _ => ⟨rfl, fun _ _ => rfl⟩).bind fun _ => onlyOn_onSession session _
  refine hstart.bind fun result => ?_
  cases result with
  | error message fatal details code => exact Within.pure _
  | success info warnings => exact within_afterStart (onlyOn_onSession session) fun step hstep => h step hstep session

/-- The session has no controller, or has been left as it is by a stop. -/
def Released (s : Session W) : Prop := s.runtime.hasController = false ∨ ∃ before, s = (Session.stop.run before).2

/-- Whether the stop returns or raises, the session has been stopped. -/
theorem released_of_cleanupSession (session : SessionRef) (manager : SessionManager W) :
    Released (((SessionManager.cleanupSession session).run manager).2.sessions session) := by
  have hrun : ((SessionManager.cleanupSession session).run manager).2 =
      if (manager.sessions session).runtime.hasController then
        ((SessionManager.onSession session Session.stop).run manager).2 else manager := by
    have hdiscard : Functor.mapConst () (SessionManager.onSession session (Session.stop (W := W))) =
        SessionManager.onSession session Session.stop >>= fun _ => pure () := rfl
    rw [SessionManager.cleanupSession, run_bind_ok (s := manager) rfl, hdiscard]
    split
    · rcases hstop : (SessionManager.onSession session Session.stop).run manager with ⟨error | result, manager'⟩
      · rw [run_attempt_error (run_bind_error hstop)]
        rfl
      · rw [run_attempt_ok (run_bind_ok hstop)]
    · rfl
  rw [hrun]
  split
  · exact .inr ⟨manager.sessions session, Function.update_self ..⟩
  · rename_i hcontroller
    exact .inl (Bool.not_eq_true _ ▸ hcontroller)

/-- The sessions created from the given one on have been released. -/
structure AllReleased (first : SessionRef) (manager : SessionManager W) : Prop where
  le : first ≤ manager.nextSession
  released : ∀ created, first ≤ created → created < manager.nextSession → Released (manager.sessions created)

variable (campaign regex iteration progress) in
/-- An iteration creates one session and releases it, however it ends. -/
theorem runIteration_releases (h : ∀ template ∈ request.setupSteps, template.StaysIn) (manager : SessionManager W) :
    let after := ((RunUntilFailureRequest.runIteration campaign request regex iteration progress).run manager).2
    after.nextSession = manager.nextSession + 1 ∧ Released (after.sessions manager.nextSession) ∧
      ∀ other ≠ manager.nextSession, after.sessions other = manager.sessions other := by
  have hcreated : ∃ created, (SessionManager.createUntrackedSession (W := W)).run manager = (.ok manager.nextSession, created) ∧
      created.nextSession = manager.nextSession + 1 ∧
      ∀ other ≠ manager.nextSession, created.sessions other = manager.sessions other :=
    ⟨_, rfl, rfl, fun other hne => Function.update_of_ne hne _ _⟩
  obtain ⟨created, hrun, hnext, hothers⟩ := hcreated
  rw [RunUntilFailureRequest.runIteration, run_bind_ok hrun]
  have hattempt := (onlyOn_attemptSession h : Within (OnlyOn manager.nextSession)
    (RunUntilFailureRequest.attemptSession campaign request regex manager.nextSession iteration progress)).run created
  have hcleanup := (within_cleanupSession (onlyOn_onSession (W := W) manager.nextSession)).run
    ((RunUntilFailureRequest.attemptSession campaign request regex manager.nextSession iteration progress).run created).2
  have hboth := trans_of (OnlyOn manager.nextSession) hattempt hcleanup
  exact ⟨hboth.nextSession.trans hnext, released_of_cleanupSession manager.nextSession _,
    fun other hne => (hboth.others other hne).trans (hothers other hne)⟩

/-- The released sessions of a campaign stay released, and one is added by every iteration. -/
theorem runIterations_releases (h : ∀ template ∈ request.setupSteps, template.StaysIn) (first : SessionRef) :
    Within (Keeps (AllReleased first))
      (RunUntilFailureRequest.runIterations campaign request regex remaining iteration progress) := by
  induction remaining generalizing iteration progress with
  | zero => exact Within.pure _
  | succ remaining ih =>
      refine Within.bind (Within.of_run fun manager => ?_) fun progress => Within.ite (Within.pure _) ih
      intro hall
      obtain ⟨hnext, hreleased, hothers⟩ := runIteration_releases campaign regex iteration progress h manager
      refine ⟨hnext ▸ Nat.le_succ_of_le hall.le, fun created hfirst hcreated => ?_⟩
      rw [hnext] at hcreated
      rcases Nat.lt_succ_iff_lt_or_eq.mp hcreated with hlt | heq
      · exact hothers created hlt.ne ▸ hall.released created hfirst hlt
      · exact heq ▸ hreleased

/-! ### Summaries -/

/-- What an iteration adds: its summary, marked if and only if a failure has been matched in it. -/
def Summarizes (iteration : Nat) (progress progress' : CampaignProgress) : Prop :=
  ∃ summary, progress'.iterations = progress.iterations ++ [summary] ∧ summary.iteration = iteration ∧
    summary.matchedFailure = progress'.matched.isSome ∧ ∀ found ∈ progress'.matched, found.iteration = iteration

theorem summarizes_runProgram
    (h : (RunUntilFailureRequest.runProgram campaign request regex session iteration progress).run manager =
      (.ok progress', manager')) : Summarizes iteration progress progress' := by
  obtain ⟨result, _, -, h⟩ := ok_of_run_bind h
  obtain ⟨status, _, -, h⟩ := ok_of_run_bind h
  obtain ⟨rt, _, -, h⟩ := ok_of_run_bind h
  obtain ⟨captured, _, -, h⟩ := ok_of_run_bind h
  obtain rfl := Except.ok.inj (Prod.mk.inj h).1
  refine ⟨_, rfl, rfl, ?_, ?_⟩
  · dsimp only
    split <;> simp_all
  · dsimp only
    split <;> simp

theorem summarizes_attemptSession
    (h : (RunUntilFailureRequest.attemptSession campaign request regex session iteration progress).run manager =
      (.ok progress', manager')) : Summarizes iteration progress progress' := by
  obtain ⟨started, manager₁, -, h⟩ := ok_of_run_bind h
  cases started with
  | error message fatal details code =>
      obtain rfl := Except.ok.inj (Prod.mk.inj h).1
      exact ⟨_, rfl, rfl, rfl, by simp [RunUntilFailureRequest.startupFailed]⟩
  | success info warnings =>
      dsimp only [RunUntilFailureRequest.afterStart] at h
      split at h
      · exact summarizes_runProgram h
      · obtain ⟨setup, manager₂, -, h⟩ := ok_of_run_bind h
        split at h
        · obtain ⟨status, _, -, h⟩ := ok_of_run_bind h
          obtain rfl := Except.ok.inj (Prod.mk.inj h).1
          exact ⟨_, rfl, rfl, rfl, by simp [RunUntilFailureRequest.setupFailed]⟩
        · exact summarizes_runProgram h

theorem summarizes_runIteration
    (h : (RunUntilFailureRequest.runIteration campaign request regex iteration progress).run manager =
      (.ok progress', manager')) : Summarizes iteration progress progress' := by
  obtain ⟨created, manager₁, -, h⟩ := ok_of_run_bind h
  have hattempt : ∃ manager₂, (RunUntilFailureRequest.attemptSession campaign request regex created iteration
      progress).run manager₁ = (.ok progress', manager₂) := ⟨_, Prod.ext (Prod.mk.inj h).1 rfl⟩
  obtain ⟨manager₂, hattempt⟩ := hattempt
  exact summarizes_attemptSession hattempt

/-- The summaries of the iterations from the given one on, at most so many of which remain: numbered, and either all of
them unmarked and no failure matched, or only the last one marked, for the iteration of the failure. -/
structure Sums (iteration remaining : Nat) (summaries : List RunUntilFailureIterationInfo) (matched : Option MatchedFailure) :
    Prop where
  numbered : summaries.map (·.iteration) = List.range' iteration summaries.length
  bounded : summaries.length ≤ remaining
  unmarked : matched = none → summaries.length = remaining ∧ ∀ summary ∈ summaries, summary.matchedFailure = false
  marked : ∀ found ∈ matched, found.iteration + 1 = iteration + summaries.length ∧
    summaries.map (·.matchedFailure) = List.replicate (summaries.length - 1) false ++ [true]

theorem Sums.single {summary : RunUntilFailureIterationInfo} {found : MatchedFailure} (hnumber : summary.iteration = iteration)
    (hmarked : summary.matchedFailure = true) (hfound : found.iteration = iteration) :
    Sums iteration (remaining + 1) [summary] (some found) where
  numbered := by simp [hnumber]
  bounded := by simp
  unmarked := nofun
  marked found' hfound' := by
    obtain rfl := Option.some.inj hfound'
    simp [hmarked, hfound]

theorem Sums.cons {summary : RunUntilFailureIterationInfo} {summaries : List RunUntilFailureIterationInfo}
    {matched : Option MatchedFailure} (h : Sums (iteration + 1) remaining summaries matched)
    (hnumber : summary.iteration = iteration) (hunmarked : summary.matchedFailure = false) :
    Sums iteration (remaining + 1) (summary :: summaries) matched where
  numbered := by rw [List.map_cons, h.numbered, hnumber, List.length_cons, List.range'_succ]
  bounded := Nat.succ_le_succ h.bounded
  unmarked hnone := by
    obtain ⟨hlength, hall⟩ := h.unmarked hnone
    exact ⟨congrArg (· + 1) hlength, List.forall_mem_cons.mpr ⟨hunmarked, hall⟩⟩
  marked found hfound := by
    obtain ⟨hiteration, hmap⟩ := h.marked found hfound
    have hpos : 0 < summaries.length := by
      rw [← List.length_map (f := (·.matchedFailure)), hmap]
      simp
    refine ⟨by rw [hiteration, List.length_cons]; omega, ?_⟩
    obtain ⟨n, hn⟩ := Nat.exists_eq_succ_of_ne_zero hpos.ne'
    rw [List.map_cons, hmap, hunmarked, List.length_cons, hn]
    rfl

theorem runIterations_sums (hsteps : ∀ template ∈ request.setupSteps, template.StaysIn) (hmatched : progress.matched = none)
    (h : (RunUntilFailureRequest.runIterations campaign request regex remaining iteration progress).run manager =
      (.ok progress', manager')) :
    ∃ summaries, progress'.iterations = progress.iterations ++ summaries ∧
      Sums iteration remaining summaries progress'.matched ∧
      manager'.nextSession = manager.nextSession + summaries.length := by
  induction remaining generalizing iteration progress manager with
  | zero =>
      obtain ⟨hvalue, rfl⟩ := Prod.mk.inj h
      obtain rfl := Except.ok.inj hvalue
      exact ⟨[], (List.append_nil _).symm, ⟨rfl, Nat.le_refl 0, fun _ => ⟨rfl, by simp⟩, by simp [hmatched]⟩, rfl⟩
  | succ remaining ih =>
      obtain ⟨progress₁, manager₁, hrun, h⟩ := ok_of_run_bind h
      obtain ⟨summary, hiterations, hnumber, hmarked, hfound⟩ := summarizes_runIteration hrun
      have hnext : manager₁.nextSession = manager.nextSession + 1 := by
        have := (runIteration_releases campaign regex iteration progress hsteps manager).1
        rwa [hrun] at this
      cases hcase : progress₁.matched with
      | some found =>
          rw [hcase] at hmarked hfound h
          obtain ⟨hvalue, rfl⟩ := Prod.mk.inj h
          obtain rfl := Except.ok.inj hvalue
          exact ⟨[summary], hiterations, hcase ▸ Sums.single hnumber hmarked (hfound found rfl), hnext⟩
      | none =>
          rw [hcase] at hmarked h
          obtain ⟨summaries, hrest, hsums, hlast⟩ := ih hcase h
          refine ⟨summary :: summaries, ?_, hsums.cons hnumber hmarked, ?_⟩
          · rw [hrest, hiterations, List.append_assoc, List.singleton_append]
          · rw [hlast, hnext, List.length_cons, Nat.add_assoc, Nat.add_comm 1]

/-! ### The result -/

/-- The result of a campaign agrees with its summaries. -/
structure RunUntilFailureInfo.Accounts (info : RunUntilFailureInfo) (maxIterations : Nat) : Prop where
  numbered : info.iterations.map (·.iteration) = List.range' 1 info.iterations.length
  completed : info.iterationsCompleted = info.iterations.length
  bounded : info.iterations.length ≤ maxIterations
  matched : info.matchedFailure = true → info.failureIteration = some info.iterations.length ∧
    info.iterations.map (·.matchedFailure) = List.replicate (info.iterations.length - 1) false ++ [true]
  unmatched : info.matchedFailure = false → info.failureIteration = none ∧ info.iterations.length = maxIterations ∧
    ∀ summary ∈ info.iterations, summary.matchedFailure = false

omit [Gdb W] in
theorem response_accounts (h : Sums 1 request.maxIterations progress.iterations progress.matched) :
    ∃ info warnings, request.response progress = .success (RunUntilFailureInfo.toValue info) warnings ∧
      info.Accounts request.maxIterations ∧ info.iterations = progress.iterations := by
  rw [RunUntilFailureRequest.response]
  cases hmatched : progress.matched with
  | none =>
      refine ⟨_, _, rfl, ⟨h.numbered, rfl, h.bounded, nofun, fun _ => ⟨rfl, h.unmarked hmatched⟩⟩, rfl⟩
  | some found =>
      obtain ⟨hiteration, hmarks⟩ := h.marked found hmatched
      have hlast : found.iteration = progress.iterations.length := by omega
      exact ⟨_, _, rfl, ⟨h.numbered, rfl, h.bounded, fun _ => ⟨congrArg some hlast, hmarks⟩, nofun⟩, rfl⟩

theorem AllReleased.none (manager : SessionManager W) : AllReleased manager.nextSession manager :=
  ⟨Nat.le_refl _, fun _ hle hlt => absurd hle (Nat.not_le.mpr hlt)⟩

/-- The outcome of a campaign that starts from the manager: every session that it has created is released, and a
success agrees with its summaries, one for each session. -/
structure Accounted (maxIterations : Nat) (manager : SessionManager W) (outcome : Except PyError ToolResult × SessionManager W) :
    Prop where
  released : AllReleased manager.nextSession outcome.2
  result : ∀ value warnings, outcome.1 = .ok (.success value warnings) → ∃ info : RunUntilFailureInfo,
    value = info.toValue ∧ info.Accounts maxIterations ∧
      outcome.2.nextSession = manager.nextSession + info.iterations.length

theorem runUntilFailure_accounted (campaign : CampaignTools W) (hsteps : ∀ template ∈ request.setupSteps, template.StaysIn)
    (manager : SessionManager W) :
    Accounted request.maxIterations manager ((request.runUntilFailure campaign).run manager) := by
  rw [RunUntilFailureRequest.runUntilFailure]
  cases hregex : request.failure.resultTextRegex.mapM campaign.compile with
  | error error =>
      have hrun : (Eff.ofExcept (.error error) : ManagerM W (Option (Payload → Bool))).run manager =
          (.error error, manager) := rfl
      rw [run_bind_error hrun]
      exact ⟨AllReleased.none manager, fun _ _ h => by cases h⟩
  | ok regex =>
      have hrun : (Eff.ofExcept (.ok regex) : ManagerM W (Option (Payload → Bool))).run manager = (.ok regex, manager) := rfl
      rw [run_bind_ok hrun]
      have hreleased := (runIterations_releases hsteps manager.nextSession : Within (Keeps (AllReleased _))
        (RunUntilFailureRequest.runIterations campaign request regex request.maxIterations 1 {})).run manager
        (AllReleased.none manager)
      rcases hloop : (RunUntilFailureRequest.runIterations campaign request regex request.maxIterations 1 {}).run manager
        with ⟨error | progress, manager'⟩
      · rw [hloop] at hreleased
        rw [run_bind_error hloop]
        exact ⟨hreleased, fun _ _ h => by cases h⟩
      · rw [hloop] at hreleased
        rw [run_bind_ok hloop]
        refine ⟨hreleased, fun value warnings hvalue => ?_⟩
        obtain ⟨summaries, hsummaries, hsums, hnext⟩ := runIterations_sums hsteps rfl hloop
        obtain rfl : progress.iterations = summaries := hsummaries
        obtain ⟨info, noted, hresponse, haccounts, hinfo⟩ := response_accounts hsums
        rw [hresponse] at hvalue
        obtain ⟨rfl, -⟩ := OperationResult.success.inj (Except.ok.inj hvalue)
        exact ⟨info, rfl, haccounts, hinfo ▸ hnext⟩

/-! ### Requests that are rejected -/

theorem rejected_steps {tools : Tools W} {sessionId : Int} {steps : List BatchStepArgs} {error : ToolResult}
    (h : tools.buildBatchStepTemplates sessionId steps = .error error) : error.isSuccess = false := by
  rw [Tools.buildBatchStepTemplates] at h
  by_cases hinvalid : ∃ step ∈ steps, tools.Invalid sessionId step
  · obtain ⟨message, code, herror⟩ := Tools.buildStepTemplates_of_invalid hinvalid 0
    rw [herror] at h
    rw [← Except.error.inj h]
    rfl
  · have hvalid : ∀ step ∈ steps, ¬tools.Invalid sessionId step := fun step hmem hstep => hinvalid ⟨step, hmem, hstep⟩
    obtain ⟨templates, htemplates, -⟩ := Tools.buildStepTemplates_of_valid hvalid 0
    rw [htemplates] at h
    cases h

omit [Gdb W] in
theorem rejected_runArgs {args : Option RunArgs} {error : ToolResult} (h : normalizeRunArgs args = .error error) :
    error.isSuccess = false := by
  unfold normalizeRunArgs at h
  split at h
  · cases h
  · cases h
  · split at h
    · cases h
    · rw [← Except.error.inj h]
      rfl

omit [Gdb W] in
theorem rejected_shorthand {value : String} {index : Nat} {error : ToolResult}
    (h : parseMemoryRangeShorthand value index = .ok (.error error)) : error.isSuccess = false := by
  unfold parseMemoryRangeShorthand at h
  dsimp only at h
  split at h
  · rw [← Except.error.inj (Except.ok.inj h)]
    rfl
  · split at h
    · rw [← Except.error.inj (Except.ok.inj h)]
      rfl
    · split at h
      · rw [← Except.error.inj (Except.ok.inj h)]
        rfl
      · obtain ⟨count, -, h⟩ := ok_of_except_bind h
        split at h <;> obtain ⟨offset, -, h⟩ := ok_of_except_bind h <;> cases h

omit [Gdb W] in
/-- A list of ranges is rejected over its first range or over those after it. -/
theorem rejected_ranges_cons {parsed : Except ToolResult MemoryCaptureRange} {index : Nat} {rest : List MemoryRangeArgs}
    {error : ToolResult} (hfirst : ∀ e, parsed = .error e → e.isSuccess = false)
    (hrest : ∀ e, memoryCaptureRangesFrom index rest = .ok (.error e) → e.isSuccess = false)
    (h : (match parsed with
      | .error e => pure (.error e)
      | .ok range => do
        let ranges ← memoryCaptureRangesFrom index rest
        return ranges.map (range :: ·)) = (.ok (.error error) : Except PyError _)) : error.isSuccess = false := by
  cases parsed with
  | error e => exact Except.error.inj (Except.ok.inj h) ▸ hfirst e rfl
  | ok range =>
      obtain ⟨ranges, hranges, h⟩ := ok_of_except_bind h
      cases ranges with
      | error e => exact Except.error.inj (Except.ok.inj h) ▸ hrest e hranges
      | ok ranges => cases h

theorem rejected_memoryRanges {index : Nat} {ranges : List MemoryRangeArgs} {error : ToolResult}
    (h : memoryCaptureRangesFrom index ranges = .ok (.error error)) : error.isSuccess = false := by
  induction ranges generalizing index error with
  | nil => cases h
  | cons entry rest ih =>
      rw [memoryCaptureRangesFrom.eq_def] at h
      cases entry with
      | range r => exact rejected_ranges_cons (fun e (herror : Except.ok r = .error e) => by cases herror) (fun e h => ih h) h
      | shorthand value =>
          obtain ⟨parsed, hvalue, h⟩ := ok_of_except_bind h
          exact rejected_ranges_cons (fun e heq => rejected_shorthand (heq ▸ hvalue)) (fun e h => ih h) h

/-- **The account of a campaign.** For every request and every behaviour of its sessions, the sessions that the campaign
has created are released when it returns or raises, and its result agrees with its summaries. -/
theorem campaign_accounted (tools : Tools W) (campaign : CampaignTools W) (args : RunUntilFailureArgs)
    (manager : SessionManager W) :
    Accounted args.maxIterations manager ((handleRunUntilFailure tools campaign args).run manager) := by
  have hrejected : ∀ error : ToolResult, error.isSuccess = false →
      Accounted args.maxIterations manager ((.ok error, manager) : Except PyError ToolResult × SessionManager W) := by
    refine fun error herror => ⟨AllReleased.none manager, fun value warnings hvalue => ?_⟩
    rw [Except.ok.inj hvalue] at herror
    cases herror
  rw [handleRunUntilFailure]
  cases hsteps : tools.buildBatchStepTemplates 1 args.setupSteps with
  | error error => exact hrejected error (rejected_steps hsteps)
  | ok steps =>
      dsimp only
      cases hrunArgs : normalizeRunArgs args.runArgs with
      | error error => exact hrejected error (rejected_runArgs hrunArgs)
      | ok runArgs =>
          dsimp only
          have hread : ∀ outcome, (Eff.ofExcept outcome : ManagerM W (Except ToolResult (List MemoryCaptureRange))).run
              manager = (outcome, manager) := fun _ => rfl
          rcases hranges : memoryCaptureRanges args.capture.memoryRanges with error | error | ranges
          · rw [run_bind_error (hread _)]
            exact ⟨AllReleased.none manager, fun _ _ h => by cases h⟩
          · rw [run_bind_ok (hread _)]
            exact hrejected error (rejected_memoryRanges hranges)
          · rw [run_bind_ok (hread _)]
            have hstays : ∀ template ∈ (args.request steps (runArgs.getD []) ranges).setupSteps, template.StaysIn :=
              staysIn_of_buildStepTemplates hsteps
            exact runUntilFailure_accounted campaign hstays manager

/-! ### Campaigns that go on -/

namespace RunUntilFailureRequest

/-- The request with more iterations. -/
def extended (request : RunUntilFailureRequest W) (more : Nat) : RunUntilFailureRequest W :=
  { request with maxIterations := request.maxIterations + more }

/-- Go on with a campaign behind its last iteration, unless a failure has been matched. -/
def continueCampaign (tools : CampaignTools W) (request : RunUntilFailureRequest W) (more : Nat) : ManagerM W ToolResult := do
  let regex ← Eff.ofExcept (request.failure.resultTextRegex.mapM tools.compile)
  let progress ← runIterations tools request regex request.maxIterations 1 {}
  if progress.matched.isSome then return (request.extended more).response progress
  else
    let progress ← runIterations tools request regex more (request.maxIterations + 1) progress
    return (request.extended more).response progress

theorem runIterations_extended (more : Nat) :
    runIterations campaign (request.extended more) regex remaining iteration progress =
      runIterations campaign request regex remaining iteration progress := by
  induction remaining generalizing iteration progress with
  | zero => rfl
  | succ remaining ih => simp only [runIterations, ih]; rfl

/-- The iterations up to a number, and those behind them unless a failure has been matched. -/
theorem runIterations_add (remaining more : Nat) (hmatched : progress.matched = none) :
    (runIterations campaign request regex (remaining + more) iteration progress).run manager =
      (runIterations campaign request regex remaining iteration progress >>= fun reached =>
        if reached.matched.isSome then pure reached
        else runIterations campaign request regex more (iteration + remaining) reached).run manager := by
  induction remaining generalizing iteration progress manager with
  | zero =>
      refine .trans ?_ (run_bind_ok (s := manager) rfl).symm
      rw [hmatched, Nat.zero_add]
      rfl
  | succ remaining ih =>
      rw [Nat.succ_add]
      rcases hrun : (runIteration campaign request regex iteration progress).run manager with ⟨error | reached, manager₁⟩
      · rw [runIterations, run_bind_error hrun, runIterations]
        exact (run_bind_error (run_bind_error hrun)).symm
      · rw [runIterations, run_bind_ok hrun, runIterations]
        refine .trans ?_ (run_bind_congr (run_bind_ok hrun)).symm
        cases hreached : reached.matched with
        | some found =>
            refine .trans ?_ (run_bind_ok (s := manager₁) rfl).symm
            rw [hreached]
            rfl
        | none =>
            have hiteration : iteration + (remaining + 1) = iteration + 1 + remaining := by omega
            rw [hiteration]
            exact ih hreached

end RunUntilFailureRequest

end GdbMcp
