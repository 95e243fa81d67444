import GdbMcp.BaseTextFacts
import GdbMcp.CampaignStarts
import GdbMcp.WorkflowStops

/-! The failure criteria of a campaign. An iteration is marked by what the session says after its run; a criterion holds
of the run itself. The two are compared over every outcome of an iteration. -/

namespace GdbMcp

open Eff

/-! ### What a run has heard -/

namespace Session

variable {W : Type} [Gdb W] {s s' : Session W} {timeoutSec : Nat}

/-- A command together with the response that it has heard. -/
def executeHeard (command : String) (timeoutSec : Nat) (allowRunningTimeout : Bool) :
    SessionM W (OperationResult CommandExecutionInfo × List MiTransportResponse) := do
  if ← hasController then
    if ← isGdbAlive then
      let response ← sendCommandAndWaitForPrompt (actualCommand command) timeoutSec
      let result ← settleCommand command timeoutSec allowRunningTimeout response
      return (result, [response])
    else
      handleDeadTransport deadTransportMessage
      recordTranscript
        { command, sentCommand := some command, status := "error", error := some deadTransportMessage }
      return (.error deadTransportMessage false [("command", .str command)], [])
  else
    return (.error "No active GDB session", [])

/-- The setting of the arguments, if there are any, together with what it has heard. -/
def argumentsHeard (args : List String) (timeoutSec : Nat) :
    SessionM W (OperationResult CommandExecutionInfo × List MiTransportResponse) :=
  if args.isEmpty then return (.success { command := "" }, [])
  else executeHeard (buildExecArgumentsCommand args) timeoutSec false

/-- A run that waits for its stop, together with the responses that its commands have heard. -/
def runHeard (args : List String) (timeoutSec : Nat) :
    SessionM W (OperationResult CommandExecutionInfo × List MiTransportResponse) := do
  if ← hasController then
    let (prepared, heard) ← argumentsHeard args timeoutSec
    if prepared.isSuccess then
      let (result, heard') ← executeHeard "-exec-run" timeoutSec false
      return (result, heard ++ heard')
    else
      return (prepared, heard)
  else
    return (.error "No active GDB session", [])

/-- The first computation is the second one with a note on the value. -/
def Annotates {α β : Type} (m : SessionM W (α × β)) (m' : SessionM W α) : Prop :=
  ∀ s, m'.run s = (((m.run s).1.map Prod.fst), (m.run s).2)

omit [Gdb W] in
theorem Annotates.pure {α β : Type} (a : α) (b : β) : Annotates (Pure.pure (a, b)) (Pure.pure a : SessionM W α) := fun _ => rfl

omit [Gdb W] in
theorem Annotates.ite {α β : Type} {c : Prop} [Decidable c] {m₁ m₂ : SessionM W (α × β)} {m₁' m₂' : SessionM W α}
    (h₁ : Annotates m₁ m₁') (h₂ : Annotates m₂ m₂') : Annotates (if c then m₁ else m₂) (if c then m₁' else m₂') := by
  split
  · exact h₁
  · exact h₂

omit [Gdb W] in
theorem Annotates.bind {α β γ : Type} {m : SessionM W γ} {next : γ → SessionM W (α × β)} {next' : γ → SessionM W α}
    (h : ∀ c, Annotates (next c) (next' c)) : Annotates (m >>= next) (m >>= next') := by
  intro s
  rcases hrun : m.run s with ⟨e | c, s₁⟩
  · rw [run_bind_error hrun, run_bind_error hrun]
    rfl
  · rw [run_bind_ok hrun, run_bind_ok hrun]
    exact h c s₁

omit [Gdb W] in
theorem Annotates.bind_annotated {α β γ δ : Type} {m : SessionM W (γ × δ)} {m' : SessionM W γ}
    {next : γ × δ → SessionM W (α × β)} {next' : γ → SessionM W α} (hm : Annotates m m')
    (h : ∀ c, Annotates (next c) (next' c.1)) : Annotates (m >>= next) (m' >>= next') := by
  intro s
  have hs := hm s
  rcases hrun : m.run s with ⟨e | c, s₁⟩ <;> rw [hrun] at hs
  · rw [run_bind_error hrun, run_bind_error hs]
    rfl
  · rw [run_bind_ok hrun, run_bind_ok hs]
    exact h c s₁

theorem annotates_executeHeard (command : String) (timeoutSec : Nat) (allow : Bool) :
    Annotates (executeHeard command timeoutSec allow) (executeCommandResult command timeoutSec allow : SessionM W _) := by
  refine Annotates.bind fun controlled => Annotates.ite (Annotates.bind fun alive => Annotates.ite ?_ ?_) (Annotates.pure _ _)
  · refine Annotates.bind fun response s => ?_
    rcases hrun : (settleCommand command timeoutSec allow response).run s with ⟨e | result, s₁⟩
    · rw [run_bind_error hrun]
      rfl
    · rw [run_bind_ok hrun]
      rfl
  · exact Annotates.bind fun _ => Annotates.bind fun _ => Annotates.pure _ _

theorem annotates_runHeard (args : List String) (timeoutSec : Nat) :
    Annotates (runHeard args timeoutSec) (run args timeoutSec true : SessionM W _) := by
  refine Annotates.bind fun controlled => Annotates.ite ?_ (Annotates.pure _ _)
  have hprepared : Annotates (argumentsHeard args timeoutSec) (setArguments args timeoutSec : SessionM W _) :=
    Annotates.ite (Annotates.pure _ _) (annotates_executeHeard _ _ _)
  refine Annotates.bind_annotated hprepared fun outcome => ?_
  obtain ⟨prepared, heard⟩ := outcome
  refine Annotates.ite ?_ (Annotates.pure _ _)
  have hrun := annotates_executeHeard (W := W) "-exec-run" timeoutSec false
  intro s
  have hs := hrun s
  rcases hheard : (executeHeard "-exec-run" timeoutSec false).run s with ⟨e | result, s₁⟩ <;> rw [hheard] at hs
  · rw [run_bind_error hheard]
    exact hs
  · rw [run_bind_ok hheard]
    exact hs

/-- The wait for the response has ended at its deadline. -/
def outOfTime (response : MiTransportResponse) : Bool := response.error.isNone && response.timedOut

def timeoutMessage (timeoutSec : Nat) : String := s!"Timeout waiting for command response after {timeoutSec}s"

theorem timeoutMessage_speaks (timeoutSec : Nat) :
    PyStr.contains (PyStr.lower (timeoutMessage timeoutSec)) "timeout" = true := by
  have hstem : PyStr.startswith "Timeout waiting for command response after " "Timeout" = true := by decide
  have hlower : PyStr.lower "Timeout" = "timeout" := by decide
  have hmessage : timeoutMessage timeoutSec = "Timeout waiting for command response after " ++ (toString timeoutSec ++ "s") := by
    rw [← String.append_assoc]
    rfl
  rw [hmessage, ← hlower]
  exact PyStr.contains_of_startswith (PyStr.startswith_lower (PyStr.startswith_append_left hstem _))

/-- A command that may not go on behind its deadline is a failure at the deadline. -/
theorem executeHeard_outOfTime {command : String} {result : OperationResult CommandExecutionInfo}
    {heard : List MiTransportResponse}
    (h : (executeHeard command timeoutSec false).run s = (.ok (result, heard), s')) :
    (∃ response, heard = [response] ∧
      (outOfTime response = true → ∃ details, result = .error (timeoutMessage timeoutSec) false details)) ∨ heard = [] := by
  obtain ⟨controlled, s₀, -, h⟩ := ok_of_run_bind h
  split at h
  · obtain ⟨alive, s₁, -, h⟩ := ok_of_run_bind h
    split at h
    · obtain ⟨response, s₂, -, h⟩ := ok_of_run_bind h
      obtain ⟨settled, s₃, hsettle, h⟩ := ok_of_run_bind h
      obtain ⟨hvalue, -⟩ := Prod.mk.inj h
      obtain ⟨rfl, rfl⟩ := Prod.mk.inj (Except.ok.inj hvalue)
      refine .inl ⟨response, rfl, fun hout => ?_⟩
      rw [outOfTime, Bool.and_eq_true, Option.isNone_iff_eq_none] at hout
      rw [settleCommand, hout.1] at hsettle
      dsimp only at hsettle
      rw [if_pos hout.2, settleTimeout] at hsettle
      obtain ⟨_, s₄, -, hsettle⟩ := ok_of_run_bind hsettle
      obtain ⟨state, s₅, -, hsettle⟩ := ok_of_run_bind hsettle
      rw [Bool.false_and, if_neg Bool.false_ne_true] at hsettle
      obtain ⟨_, s₆, -, hsettle⟩ := ok_of_run_bind hsettle
      exact ⟨_, (Except.ok.inj (Prod.mk.inj hsettle).1).symm⟩
    · obtain ⟨_, s₂, -, h⟩ := ok_of_run_bind h
      obtain ⟨_, s₃, -, h⟩ := ok_of_run_bind h
      exact .inr (Prod.mk.inj (Except.ok.inj (Prod.mk.inj h).1)).2.symm
  · exact .inr (Prod.mk.inj (Except.ok.inj (Prod.mk.inj h).1)).2.symm

/-- So is a run. -/
theorem runHeard_outOfTime {args : List String} {result : OperationResult CommandExecutionInfo}
    {heard : List MiTransportResponse} (h : (runHeard args timeoutSec).run s = (.ok (result, heard), s'))
    (hout : heard.getLast?.any outOfTime = true) :
    ∃ details, result = .error (timeoutMessage timeoutSec) false details := by
  have hlast : ∀ {command : String} {s s' : Session W} {result : OperationResult CommandExecutionInfo}
      {heard : List MiTransportResponse},
      (executeHeard command timeoutSec false).run s = (.ok (result, heard), s') → heard.getLast?.any outOfTime = true →
        ∃ details, result = .error (timeoutMessage timeoutSec) false details := by
    intro command s s' result heard h hout
    rcases executeHeard_outOfTime h with ⟨response, rfl, himp⟩ | rfl
    · exact himp hout
    · cases hout
  obtain ⟨controlled, s₀, -, h⟩ := ok_of_run_bind h
  split at h
  · obtain ⟨⟨prepared, heard₁⟩, s₁, hprepared, h⟩ := ok_of_run_bind h
    have hfirst : heard₁.getLast?.any outOfTime = true → ∃ details, prepared = .error (timeoutMessage timeoutSec) false details := by
      intro hout
      rw [argumentsHeard] at hprepared
      split at hprepared
      · obtain ⟨-, rfl⟩ := Prod.mk.inj (Except.ok.inj (Prod.mk.inj hprepared).1)
        cases hout
      · exact hlast hprepared hout
    dsimp only at h
    split at h
    · rename_i hsuccess
      obtain ⟨⟨result', heard₂⟩, s₂, hrun, h⟩ := ok_of_run_bind h
      obtain ⟨rfl, rfl⟩ := Prod.mk.inj (Except.ok.inj (Prod.mk.inj h).1)
      rcases executeHeard_outOfTime hrun with ⟨response, rfl, himp⟩ | rfl
      · rw [List.getLast?_concat] at hout
        exact himp hout
      · rw [List.append_nil] at hout
        obtain ⟨details, rfl⟩ := hfirst hout
        cases hsuccess
    · obtain ⟨rfl, rfl⟩ := Prod.mk.inj (Except.ok.inj (Prod.mk.inj h).1)
      exact hfirst hout
  · obtain ⟨-, rfl⟩ := Prod.mk.inj (Except.ok.inj (Prod.mk.inj h).1)
    cases hout

end Session

/-! ### The outcomes of an iteration -/

/-- What the run of an iteration has come to: its result, what it has heard, the last stop event before it, those that
were recorded in it, and the status behind it. -/
structure RunOutcome where
  result : OperationResult CommandExecutionInfo
  heard : List MiTransportResponse
  before : Option StopEvent
  recorded : List StopEvent
  status : SessionStatusSnapshot

/-- The outcome of an iteration without a failed setup step. -/
inductive IterationOutcome where
  | startup (status : SessionStatusSnapshot)
  | ran (outcome : RunOutcome)

/-- The reason of a notification that says that an inferior has exited. -/
def exitReason (notify : MiNotifyRecord) : Option String :=
  if notify.message = some "thread-group-exited" then
    some (((asTextOrNumber (notify.payload.asDict.get "reason")).filter (· ≠ "")).getD "thread-group-exited")
  else none

namespace RunOutcome

def payload (o : RunOutcome) : Payload := resultToMapping (o.result.serialize CommandExecutionInfo.toValue)

def timedOut (o : RunOutcome) : Bool := o.heard.getLast?.any Session.outOfTime

/-- The message of a run that has returned an error. -/
def message (o : RunOutcome) : Option String :=
  match o.result with
  | .success .. => none
  | .error message .. => some message

/-- The reasons with which the run has stopped, or has ended where it recorded no stop. -/
def ownReasons (o : RunOutcome) : List String :=
  if o.recorded.isEmpty then o.heard.flatMap fun response => (Session.parseResponse response).notify.filterMap exitReason
  else o.recorded.filterMap (·.reason)

/-- The reason that the session remembers where the run has recorded no stop: that of the last stop before it, or that
of the status. -/
def rememberedReason (o : RunOutcome) : Option String := (o.before.map (·.reason)).getD o.status.stopReason

end RunOutcome

/-! ### Criteria -/

section Criteria

variable (criteria : RunUntilFailureCriteria) (regex : Option (Payload → Bool))

/-- The final execution state or exit code is listed. -/
def StatusListed (status : SessionStatusSnapshot) : Prop :=
  status.executionState.name ∈ criteria.executionStates ∨ ∃ code ∈ status.exitCode, code ∈ criteria.exitCodes

/-- The reason is listed. -/
def ReasonListed (reason : Option String) : Prop := ∃ r ∈ reason, r ∈ criteria.stopReasons

/-- The run itself has stopped or ended with a listed reason. -/
def OwnReasonListed (o : RunOutcome) : Prop := ∃ reason ∈ o.ownReasons, reason ∈ criteria.stopReasons

/-- A criterion other than the one of the stop reasons holds of the run. -/
def OtherCriterion (o : RunOutcome) : Prop :=
  (criteria.failureOnTimeout = true ∧ o.timedOut = true) ∨ (criteria.failureOnError = true ∧ o.result.isSuccess = false) ∨
    StatusListed criteria o.status ∨ regex.any (· o.payload) = true

/-- An enabled criterion holds of the outcome. -/
def CriterionHolds : IterationOutcome → Prop
  | .startup status => criteria.failureOnError = true ∨ StatusListed criteria status
  | .ran o => OtherCriterion criteria regex o ∨ OwnReasonListed criteria o

/-- The iteration is marked as a matched failure. -/
def Marked : IterationOutcome → Prop
  | .startup _ => True
  | .ran o => (matchesFailure criteria o.payload o.status (o.recorded.getLast?.or o.before) regex).isSome = true

/-! ### What the outcome is mistaken for -/

/-- The message of an error speaks of a timeout. -/
def SpeaksOfTimeout (o : RunOutcome) : Prop :=
  criteria.failureOnTimeout = true ∧ ∃ message ∈ o.message, PyStr.contains (PyStr.lower message) "timeout" = true

/-- The run has recorded no stop, and the remembered reason is listed although the run has not ended with a listed one. -/
def StaleReason (o : RunOutcome) : Prop :=
  o.recorded = [] ∧ ReasonListed criteria o.rememberedReason ∧ ¬OwnReasonListed criteria o

/-- The run has stopped or ended with a listed reason that is not looked at: another stop was recorded behind it, or it
ended without a stop and a reason that is not listed is remembered. -/
def MissedReason (o : RunOutcome) : Prop :=
  OwnReasonListed criteria o ∧
    ((∃ stop ∈ o.recorded.getLast?, ¬ReasonListed criteria stop.reason) ∨
      (o.recorded = [] ∧ ¬ReasonListed criteria o.rememberedReason))

/-- The outcomes of which the marks agree with the criteria: a startup error where it counts, and a run of which another
criterion holds or which is taken for what it is. -/
def TakenRight : IterationOutcome → Prop
  | .startup status => criteria.failureOnError = true ∨ StatusListed criteria status
  | .ran o => OtherCriterion criteria regex o ∨
      ((SpeaksOfTimeout criteria o → OwnReasonListed criteria o) ∧ ¬StaleReason criteria o ∧
        (MissedReason criteria o → SpeaksOfTimeout criteria o))

variable {criteria regex}

theorem isSome_ite_some {α : Type} {c : Prop} [Decidable c] {x : α} {y : Option α} :
    (if c then some x else y).isSome = true ↔ c ∨ y.isSome = true := by
  split <;> simp_all

theorem any_contains_iff {α : Type} [BEq α] [LawfulBEq α] {x : Option α} {listed : List α} :
    x.any listed.contains = true ↔ ∃ a ∈ x, a ∈ listed := by
  cases x <;> simp

/-- What the predicates look at. -/
theorem matchesFailure_isSome (payload : Payload) (status : SessionStatusSnapshot) (stopEvent : Option StopEvent) :
    (matchesFailure criteria payload status stopEvent regex).isSome = true ↔
      (criteria.failureOnTimeout = true ∧
        ∃ message ∈ payloadMessage payload, PyStr.contains (PyStr.lower message) "timeout" = true) ∨
      (criteria.failureOnError = true ∧ (payload.lookup "status").bind asText = some "error") ∨
      ReasonListed criteria ((stopEvent.map (·.reason)).getD status.stopReason) ∨
      StatusListed criteria status ∨ regex.any (· payload) = true := by
  have htimeout : (payloadMessage payload).any (fun message => PyStr.contains (PyStr.lower message) "timeout") = true ↔
      ∃ message ∈ payloadMessage payload, PyStr.contains (PyStr.lower message) "timeout" = true := by
    cases payloadMessage payload <;> simp
  simp only [matchesFailure, isSome_ite_some, Bool.and_eq_true, beq_iff_eq, htimeout, any_contains_iff,
    List.contains_iff_mem, ReasonListed, StatusListed, or_assoc, Option.isSome_none, Bool.false_eq_true, or_false]

/-! ### Serialized results -/

theorem payload_status (o : RunOutcome) :
    (o.payload.lookup "status").bind asText = some "error" ↔ o.result.isSuccess = false := by
  rcases o with ⟨⟨info, warnings⟩ | _, heard, before, recorded, status⟩
  · have hstatus : ((resultToMapping (.success info.toValue warnings)).lookup "status").bind asText = some "success" := by
      cases warnings <;> rfl
    refine iff_of_false (fun h => ?_) (by simp [OperationResult.isSuccess])
    exact absurd (hstatus.symm.trans h) (by decide)
  · exact iff_of_true rfl rfl

theorem payload_message (o : RunOutcome) : payloadMessage o.payload = o.message := by
  rcases o with ⟨⟨info, warnings⟩ | _, heard, before, recorded, status⟩
  · cases warnings <;> rfl
  · rfl

/-- A run is marked when a criterion other than the one of the stop reasons holds, its error speaks of a timeout, or the
reason that is looked at is listed. -/
theorem marked_ran_iff {o : RunOutcome} (htimeout : o.timedOut = true → ∃ message ∈ o.message,
    PyStr.contains (PyStr.lower message) "timeout" = true) :
    Marked criteria regex (.ran o) ↔ OtherCriterion criteria regex o ∨ SpeaksOfTimeout criteria o ∨
      ReasonListed criteria (((o.recorded.getLast?.or o.before).map (·.reason)).getD o.status.stopReason) := by
  rw [Marked, matchesFailure_isSome, payload_message, payload_status, OtherCriterion, SpeaksOfTimeout]
  constructor
  · rintro (h | h | h | h | h)
    · exact .inr (.inl h)
    · exact .inl (.inr (.inl h))
    · exact .inr (.inr h)
    · exact .inl (.inr (.inr (.inl h)))
    · exact .inl (.inr (.inr (.inr h)))
  · rintro ((⟨hcriterion, htimed⟩ | h | h | h) | h | h)
    · exact .inl ⟨hcriterion, htimeout htimed⟩
    · exact .inr (.inl h)
    · exact .inr (.inr (.inr (.inl h)))
    · exact .inr (.inr (.inr (.inr h)))
    · exact .inl h
    · exact .inr (.inr (.inl h))

/-- The reason that is looked at, in terms of the run's own one. -/
theorem lookedAt_iff (o : RunOutcome) :
    ReasonListed criteria (((o.recorded.getLast?.or o.before).map (·.reason)).getD o.status.stopReason) ↔
      (OwnReasonListed criteria o ∧ ¬MissedReason criteria o) ∨ StaleReason criteria o := by
  rcases List.eq_nil_or_concat o.recorded with hnone | ⟨front, stop, hrecorded⟩
  · have hremembered : ((o.recorded.getLast?.or o.before).map (·.reason)).getD o.status.stopReason = o.rememberedReason := by
      rw [hnone]; rfl
    rw [hremembered, MissedReason, StaleReason, hnone]
    simp only [List.getLast?_nil, Option.mem_def, reduceCtorEq, false_and, exists_false, false_or, true_and]
    tauto
  · have hlast : o.recorded.getLast? = some stop := by rw [hrecorded, List.concat_eq_append, List.getLast?_concat]
    have hown : ReasonListed criteria stop.reason → OwnReasonListed criteria o := by
      rintro ⟨reason, hreason, hlisted⟩
      refine ⟨reason, ?_, hlisted⟩
      have hmem : stop ∈ o.recorded := List.mem_of_getLast? hlast
      rw [RunOutcome.ownReasons, if_neg (by simp [List.ne_nil_of_mem hmem])]
      exact List.mem_filterMap.mpr ⟨stop, hmem, hreason⟩
    have hne : o.recorded ≠ [] := fun h => by rw [h] at hlast; cases hlast
    rw [MissedReason, StaleReason, hlast]
    simp only [Option.mem_def, Option.some.injEq, exists_eq_left', hne, false_and, or_false]
    tauto

/-- The mark of an outcome agrees with the criteria if and only if the outcome is taken right. -/
theorem marked_iff_criterion {outcome : IterationOutcome} (htimeout : ∀ o, outcome = .ran o → o.timedOut = true →
    ∃ message ∈ o.message, PyStr.contains (PyStr.lower message) "timeout" = true) :
    (Marked criteria regex outcome ↔ CriterionHolds criteria regex outcome) ↔ TakenRight criteria regex outcome := by
  cases outcome with
  | startup status => exact ⟨fun h => h.mp trivial, fun h => iff_of_true trivial h⟩
  | ran o =>
      rw [marked_ran_iff (htimeout o rfl), lookedAt_iff, CriterionHolds, TakenRight]
      have hmissed : MissedReason criteria o → OwnReasonListed criteria o := And.left
      have hstale : StaleReason criteria o → ¬OwnReasonListed criteria o := fun h => h.2.2
      tauto

end Criteria

/-! ### The iterations of a campaign -/

section Attempts

variable {W : Type} [Gdb W] {campaign : CampaignTools W} {request : RunUntilFailureRequest W}
  {regex : Option (Payload → Bool)} {session : SessionRef} {iteration : Nat} {progress progress' : CampaignProgress}
  {manager manager₁ manager₂ manager' : SessionManager W} {outcome : IterationOutcome}

/-- The setup steps, if there are any, have been executed without an error. -/
def SetUp (request : RunUntilFailureRequest W) (session : SessionRef) (manager manager' : SessionManager W) : Prop :=
  (request.setupSteps.isEmpty = true ∧ manager' = manager) ∨
    ∃ setup, request.setupSteps.isEmpty = false ∧ setup.errorCount = 0 ∧
      (SessionManager.executeBatchTemplates session request.setupSteps true true).run manager = (.ok setup, manager')

/-- What an attempt with a session comes to, when no setup step fails in it. -/
inductive Attempted (request : RunUntilFailureRequest W) (session : SessionRef) (manager : SessionManager W) :
    IterationOutcome → Prop
  | startup {message : String} {fatal : Bool} {details : Payload} {code : String} {manager₁ manager₂ : SessionManager W}
      {status : SessionStatusSnapshot} :
      (SessionManager.startWith session request.startArgs).run manager = (.ok (.error message fatal details code), manager₁) →
      (SessionManager.statusSnapshot session).run manager₁ = (.ok status, manager₂) →
      Attempted request session manager (.startup status)
  | ran {info : SessionStartInfo} {warnings : List String} {manager₁ manager₂ manager₃ manager₄ : SessionManager W}
      {result : OperationResult CommandExecutionInfo} {heard : List MiTransportResponse} {status : SessionStatusSnapshot} :
      (SessionManager.startWith session request.startArgs).run manager = (.ok (.success info warnings), manager₁) →
      SetUp request session manager₁ manager₂ →
      (SessionManager.onSession session (Session.runHeard request.runArgs request.runTimeoutSec)).run manager₂ =
        (.ok (result, heard), manager₃) →
      (SessionManager.statusSnapshot session).run manager₃ = (.ok status, manager₄) →
      Attempted request session manager (.ran
        { result, heard, status
          before := (manager₂.sessions session).runtime.lastStopEvent
          recorded := (manager₄.sessions session).runtime.stopEvents.drop
            (manager₂.sessions session).runtime.stopEvents.length })

/-- A run at its deadline says so. -/
theorem Attempted.timeout (h : Attempted request session manager outcome) {o : RunOutcome} (ho : outcome = .ran o)
    (htimed : o.timedOut = true) : ∃ message ∈ o.message, PyStr.contains (PyStr.lower message) "timeout" = true := by
  cases h with
  | startup hstart hstatus => cases ho
  | @ran info warnings manager₁ manager₂ manager₃ manager₄ result heard status hstart hsetup hrun hstatus =>
      obtain rfl := IterationOutcome.ran.inj ho
      have hheard : (Session.runHeard request.runArgs request.runTimeoutSec).run (manager₂.sessions session) =
          (.ok (result, heard), ((Session.runHeard request.runArgs request.runTimeoutSec).run (manager₂.sessions session)).2) :=
        Prod.ext (Prod.mk.inj hrun).1 rfl
      obtain ⟨details, rfl⟩ := Session.runHeard_outOfTime hheard htimed
      exact ⟨Session.timeoutMessage request.runTimeoutSec, rfl, Session.timeoutMessage_speaks _⟩

/-- What the session has recorded from the run on. -/
theorem logged_of_run {result : OperationResult CommandExecutionInfo} {heard : List MiTransportResponse}
    {status : SessionStatusSnapshot} {manager₃ manager₄ : SessionManager W}
    (hrun : (SessionManager.onSession session (Session.runHeard request.runArgs request.runTimeoutSec)).run manager₂ =
      (.ok (result, heard), manager₃))
    (hstatus : (SessionManager.statusSnapshot session).run manager₃ = (.ok status, manager₄)) :
    SessionManager.Moves SessionRuntime.Logged session manager₂ manager₄ := by
  have hstepwise : Session.Stepwise SessionRuntime.Logged
      (Session.runHeard request.runArgs request.runTimeoutSec : SessionM W _) := by
    refine Within.of_run fun s => ?_
    have hs := (Session.stepwise_run (W := W) (R := SessionRuntime.Logged) request.runArgs request.runTimeoutSec true).run s
    rwa [Session.annotates_runHeard _ _ s] at hs
  have hsnapshot : Within (SessionManager.Moves SessionRuntime.Logged session)
      (SessionManager.statusSnapshot session : ManagerM W SessionStatusSnapshot) := by
    refine (SessionManager.moves_onSession Session.stepwise_getStatus).bind fun result => ?_
    cases result with
    | success status => exact Within.pure _
    | error message => exact Within.raise _
  have hfirst := (SessionManager.moves_onSession hstepwise : Within (SessionManager.Moves SessionRuntime.Logged session) _).run
    manager₂
  have hsecond := hsnapshot.run manager₃
  rw [hrun] at hfirst
  rw [hstatus] at hsecond
  exact trans_of (SessionManager.Moves SessionRuntime.Logged session) hfirst hsecond

omit [Gdb W] in
theorem run_onSession_of_annotates {α β : Type} {m : SessionM W (α × β)} {m' : SessionM W α} {a : α} {b : β}
    (hm : Session.Annotates m m') (h : (SessionManager.onSession session m).run manager = (.ok (a, b), manager')) :
    (SessionManager.onSession session m').run manager = (.ok a, manager') := by
  have hrun : (SessionManager.onSession session m').run manager =
      ((m'.run (manager.sessions session)).1, { manager with
        sessions := Function.update manager.sessions session (m'.run (manager.sessions session)).2 }) := rfl
  obtain ⟨hvalue, hstate⟩ := Prod.mk.inj h
  rw [hrun, hm]
  exact Prod.ext (congrArg (Except.map Prod.fst) hvalue) hstate

/-- The mark of the iteration is that of its outcome. -/
theorem matched_iff_marked (h : Attempted request session manager outcome)
    (hrun : (RunUntilFailureRequest.attemptSession campaign request regex session iteration progress).run manager =
      (.ok progress', manager')) : progress'.matched.isSome = true ↔ Marked request.failure regex outcome := by
  cases h with
  | startup hstart hstatus =>
      rw [RunUntilFailureRequest.attemptSession, run_bind_ok hstart] at hrun
      obtain rfl := Except.ok.inj (Prod.mk.inj hrun).1
      exact iff_of_true rfl trivial
  | @ran info warnings manager₁ manager₂ manager₃ manager₄ result heard status hstart hsetup hheard hstatus =>
      rw [RunUntilFailureRequest.attemptSession, run_bind_ok hstart] at hrun
      have hprogram : (RunUntilFailureRequest.runProgram campaign request regex session iteration progress).run manager₂ =
          (.ok progress', manager') := by
        dsimp only [RunUntilFailureRequest.afterStart] at hrun
        rcases hsetup with ⟨hempty, rfl⟩ | ⟨setup, hsteps, hcount, hexecute⟩
        · rwa [if_pos hempty] at hrun
        · rw [if_neg (by rw [hsteps]; decide), run_bind_ok hexecute, if_neg (by omega)] at hrun
          exact hrun
      have hlogged := logged_of_run hheard hstatus
      obtain ⟨events, hrecords⟩ := hlogged
      have hrun' : (SessionManager.onSession session (Session.run request.runArgs request.runTimeoutSec true)).run manager₂ =
          (.ok result, manager₃) :=
        run_onSession_of_annotates (Session.annotates_runHeard _ _) hheard
      rw [RunUntilFailureRequest.runProgram, run_bind_ok hrun', run_bind_ok hstatus, run_bind_ok (s := manager₄) rfl] at hprogram
      obtain ⟨captured, _, -, hprogram⟩ := ok_of_run_bind hprogram
      obtain rfl := Except.ok.inj (Prod.mk.inj hprogram).1
      rw [Marked, hrecords.drop, ← hrecords.last]
      exact isSome_ite_some.trans (or_iff_left Bool.false_ne_true)

/-- **The mark of an iteration.** In every iteration without a failed setup step, a failure is matched if and only if an
enabled criterion holds of the outcome, exactly when the outcome is taken for what it is. -/
theorem campaign_marks_iff (h : Attempted request session manager outcome)
    (hrun : (RunUntilFailureRequest.attemptSession campaign request regex session iteration progress).run manager =
      (.ok progress', manager')) :
    (progress'.matched.isSome = true ↔ CriterionHolds request.failure regex outcome) ↔
      TakenRight request.failure regex outcome := by
  rw [matched_iff_marked h hrun]
  exact marked_iff_criterion fun o ho htimed => h.timeout ho htimed

end Attempts

/-! ### A startup that does not count -/

/-- Program arguments do not go with a core file, so that the startup is refused. -/
def conflictingStart (failure : RunUntilFailureCriteria) : RunUntilFailureRequest Scripted where
  program := some "/bin/prog"
  args := ["x"]
  initCommands := []
  env := []
  gdbPath := none
  workingDir := none
  core := some "core"
  setupSteps := []
  runArgs := []
  runTimeoutSec := 30
  maxIterations := 1
  failure := failure
  capture := {}

theorem attempted_conflictingStart (failure : RunUntilFailureCriteria) :
    ∃ status, status.executionState = .unknown ∧ status.exitCode = none ∧
      Attempted (conflictingStart failure) 0 freshManager (.startup status) :=
  ⟨_, rfl, rfl, .startup rfl rfl⟩

theorem attempt_conflictingStart (failure : RunUntilFailureCriteria) :
    ∃ progress manager, (RunUntilFailureRequest.attemptSession idleCampaign (conflictingStart failure) none 0 1 {}).run
      freshManager = (.ok progress, manager) ∧ progress.matched.isSome = true :=
  ⟨_, _, rfl, rfl⟩

theorem campaign_marks_iff_conflictingStart :
    ∃ outcome progress manager, Attempted (conflictingStart {}) 0 freshManager outcome ∧
      (RunUntilFailureRequest.attemptSession idleCampaign (conflictingStart {}) none 0 1 {}).run freshManager =
        (.ok progress, manager) ∧
      (progress.matched.isSome = true ↔ CriterionHolds {} none outcome) := by
  obtain ⟨status, -, -, hattempted⟩ := attempted_conflictingStart {}
  obtain ⟨progress, manager, hrun, -⟩ := attempt_conflictingStart {}
  exact ⟨_, progress, manager, hattempted, hrun, (campaign_marks_iff hattempted hrun).mpr (.inl rfl)⟩

/-- Every criterion is turned off. -/
def noCriteria : RunUntilFailureCriteria where
  failureOnError := false
  failureOnTimeout := false
  stopReasons := []

/-- With every criterion turned off, the refused startup matches all the same. -/
theorem refused_startup_matches :
    ∃ outcome progress manager, Attempted (conflictingStart noCriteria) 0 freshManager outcome ∧
      (RunUntilFailureRequest.attemptSession idleCampaign (conflictingStart noCriteria) none 0 1 {}).run
        freshManager = (.ok progress, manager) ∧
      progress.matched.isSome = true ∧ ¬CriterionHolds noCriteria none outcome := by
  obtain ⟨status, hstate, hcode, hattempted⟩ := attempted_conflictingStart noCriteria
  obtain ⟨progress, manager, hrun, hmatched⟩ := attempt_conflictingStart noCriteria
  refine ⟨_, progress, manager, hattempted, hrun, hmatched, ?_⟩
  simp [CriterionHolds, StatusListed, noCriteria, hstate, hcode]

end GdbMcp
