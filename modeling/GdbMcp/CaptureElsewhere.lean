import GdbMcp.CaptureContext

/-! A capture that is evaluated elsewhere. The debugger of these runs refuses the first commands, by which the runtime
would be brought up to date, and accepts all others. -/

namespace GdbMcp

open Eff

/-- The selects of an inspection lead away from home unless its context is the one at home. -/
theorem Selection.towards_ne {home : Selection} {threadId frame : Option Int}
    (h : ¬((∀ t, threadId = some t → t = home.thread) ∧ ∀ f, frame = some f → f = home.frame)) :
    home.towards threadId frame ≠ home := by
  intro heq
  refine h ⟨fun t ht => ?_, fun f hf => ?_⟩
  · subst ht
    have hthread := congrArg Selection.thread heq
    by_contra hne
    cases frame with
    | none => simp [towards, hne] at hthread
    | some f => by_cases hf : f = home.frame <;> simp [towards, hne, hf] at hthread
  · subst hf
    have hframe := congrArg Selection.frame heq
    by_contra hne
    simp [towards, hne] at hframe

namespace Session

variable {request : CaptureOptions MemoryCaptureRange} {home : Selection} {s s' t : Session Debugger} {α β : Type}

/-! ### The log -/

/-- The debugger answers as it did, and has been sent more. -/
structure Grown (s s' : Session Debugger) : Prop where
  answers : s'.gdb.answers = s.gdb.answers
  log : s.gdb.log <+: s'.gdb.log

instance : Std.Refl Grown := ⟨fun _ => ⟨rfl, List.prefix_refl _⟩⟩

instance : IsTrans (Session Debugger) Grown :=
  ⟨fun _ _ _ h h' => ⟨h'.answers.trans h.answers, h.log.trans h'.log⟩⟩

theorem Sent.grown {line : String} (h : Sent s line s') : Grown s s' :=
  ⟨by rw [h.gdb]; rfl, by rw [h.gdb]; exact List.prefix_append _ _⟩

theorem Attended.grown (h : Attended s s') : Grown s s' := by
  obtain ⟨lines, hlog, -⟩ := h.log
  exact ⟨h.answers, hlog ▸ List.prefix_append _ _⟩

theorem Switched.grown (h : Switched s s') : Grown s s' := by
  obtain ⟨lines, hlog, -⟩ := h.log
  exact ⟨h.answers, hlog ▸ List.prefix_append _ _⟩

theorem grown_update (f : SessionRuntime → SessionRuntime) : Within Grown (update f : SessionM Debugger Unit) :=
  ⟨fun s => ⟨rfl, List.prefix_refl s.gdb.log⟩⟩

theorem grown_narrow (x : Except PyError α) : Within Grown (narrow x : SessionM Debugger α) := by
  refine ⟨fun s => ?_⟩
  rw [narrow, onRuntime, wp_zoom, wp_ofExcept]
  exact ⟨fun _ _ => refl_of Grown s, fun _ _ => refl_of Grown s⟩

theorem grown_query {command : String} (hcommand : PyStr.startswith command "-" = true) :
    Within Grown (query command) := by
  refine ⟨fun s => ?_⟩
  cases hs : s.runtime.hasController with
  | true => exact wp_mono (query_mi hs hcommand) (fun _ _ h => h.1.grown) fun _ _ h => h.elim
  | false =>
      rw [query, wp, executeCommandResult_detached hs]
      exact refl_of Grown s

theorem carries_grown : Carries Grown fun command => PyStr.startswith command "-" = true where
  narrow := grown_narrow
  mark _ := grown_update _
  query := grown_query

theorem coversSelects_mi : CoversSelects fun command => PyStr.startswith command "-" = true where
  threadInfo := rfl
  frameInfo := rfl
  thread := selects_thread.mi
  frame := selects_frame.mi

theorem grown_queryRegisters (a : RegisterFilter) : Within Grown (queryRegisters a : SessionM Debugger _) :=
  within_queryRegisters grown_narrow (fun _ h => grown_query (PyStr.startswith_trans h rfl)) a

theorem grown_getRegisters (threadId frame : Option Int) (a : RegisterFilter) :
    Within Grown (getRegisters threadId frame a : SessionM Debugger _) :=
  carries_grown.inspecting coversSelects_mi _ _ _ _ fun _ => grown_queryRegisters a

theorem grown_evaluateExpression (expression : String) (threadId frame : Option Int) :
    Within Grown (evaluateExpression expression threadId frame : SessionM Debugger _) :=
  carries_grown.inspecting coversSelects_mi _ _ _ _ fun _ =>
    carries_grown.queryThen (PyStr.startswith_append_left rfl _) fun _ => Within.pure _

theorem grown_readMemory (address : String) (count offset : Int) :
    Within Grown (readMemory address count offset : SessionM Debugger _) :=
  within_readMemory (grown_query rfl) (fun _ => grown_update _) (fun _ h => grown_query (PyStr.startswith_trans h rfl))
    address count offset

/-! ### What is evaluated elsewhere -/

/-- Something has been evaluated behind a session that was accepted, and in another frame. -/
def Strays (home : Selection) (s s' : Session Debugger) : Prop :=
  ∃ i line selection, s.gdb.log.length ≤ i ∧ s'.gdb.log[i]? = some (line, selection) ∧ evaluates line = true ∧
    (s.gdb.answers i line selection).accepted = true ∧ selection ≠ home

theorem Strays.grown (h : Strays home s t) (hgrown : Grown t s') : Strays home s s' := by
  obtain ⟨i, line, selection, hi, hline, hrest⟩ := h
  obtain ⟨lines, hlog⟩ := hgrown.log
  refine ⟨i, line, selection, hi, ?_, hrest⟩
  rw [← hlog, List.getElem?_append_left (List.getElem?_eq_some_iff.mp hline).1]
  exact hline

theorem Grown.strays (hgrown : Grown s t) (h : Strays home t s') : Strays home s s' := by
  obtain ⟨i, line, selection, hi, hline, hevaluates, haccepted, hselection⟩ := h
  exact ⟨i, line, selection, hgrown.log.length_le.trans hi, hline, hevaluates, hgrown.answers ▸ haccepted, hselection⟩

/-- What follows does not undo it. -/
theorem wp_strays_bind {m : SessionM Debugger β} {next : β → SessionM Debugger α}
    (hm : wp m (fun _ t => Strays home s t) (fun _ t => Strays home s t) t) (hnext : ∀ b, Within Grown (next b)) :
    wp (m >>= next) (fun _ t => Strays home s t) (fun _ t => Strays home s t) t := by
  rw [wp_bind]
  exact wp_mono hm (fun b u h => wp_mono ((hnext b).outcome u) (fun _ _ hu => h.grown hu) fun _ _ hu => h.grown hu)
    fun _ _ h => h

/-! ### Commands that are accepted -/

/-- From now on the debugger accepts every command. -/
structure Accepting (s : Session Debugger) : Prop where
  hasController : s.runtime.hasController = true
  accepts : ∀ n line selection, s.gdb.log.length ≤ n → (s.gdb.answers n line selection).accepted = true

theorem Accepting.grown (h : Accepting s) (hgrown : Grown s s') (hs' : s'.runtime.hasController = true) : Accepting s' where
  hasController := hs'
  accepts n line selection hn := by
    rw [hgrown.answers]
    exact h.accepts n line selection (hgrown.log.length_le.trans hn)

theorem query_accepted {command : String} (hs : Accepting s) (hcommand : PyStr.startswith command "-" = true) :
    wp (query command)
      (fun result s' => Sent s command s' ∧ ∃ info warnings, result = .success info warnings ∧
        extractMiResultPayload info = (s.answerTo command).payload)
      (fun _ _ => False) s := by
  refine wp_mono (query_mi hs.hasController hcommand) (fun result s' ⟨hsent, hsuccess, hpayload⟩ => ⟨hsent, ?_⟩) fun _ _ h => h
  cases result with
  | success info warnings => exact ⟨info, warnings, rfl, hpayload _ _ rfl⟩
  | error => exact nomatch hsuccess.trans (hs.accepts _ _ _ le_rfl)

theorem captureSelection_accepted (hs : Accepting s) (hreports : Reports s.gdb.answers s.gdb.selection) :
    wp captureSelection (fun result _ => result.isSuccess = true) (fun _ _ => False) s := by
  rw [captureSelection, wp_bind]
  refine wp_mono (query_accepted hs (by decide)) (fun result s₁ hsent => ?_) fun _ _ h => h
  obtain ⟨hsent, info, _, heq, hpayload⟩ := hsent
  subst heq
  have hattended := hsent.attended (by decide)
  have hs₁ := hs.grown hattended.grown hattended.hasController
  have hthread : asInt ((s.answerTo "-thread-info").payload.get "current-thread-id") = .ok (some s.gdb.selection.thread) :=
    hreports.thread _ (hs.accepts _ _ _ le_rfl)
  change wp (narrow (asInt ((extractMiResultPayload info).get "current-thread-id")) >>= _) _ _ s₁
  rw [hpayload, hthread, wp_bind]
  change wp (query "-stack-info-frame" >>= _) _ _ s₁
  rw [wp_bind]
  refine wp_mono (query_accepted hs₁ (by decide)) (fun result s₂ hsent₂ => ?_) fun _ _ h => h
  obtain ⟨_, info, _, heq, hpayload⟩ := hsent₂
  subst heq
  have hframe : readFrameLevel ((s₁.answerTo "-stack-info-frame").payload.get "frame") = .ok (some s.gdb.selection.frame) := by
    rw [answerTo, Debugger.answer, hattended.answers, hattended.selection]
    exact hreports.frame _ (hs.accepts _ _ _ hattended.length_le)
  change wp (narrow (readFrameLevel ((extractMiResultPayload info).get "frame")) >>= _) _ _ s₂
  rw [hpayload, hframe, wp_bind]
  rfl

theorem selectUnlessCurrent_accepted {command : Int → String} (hcommand : Selects command) (current requested : Option Int)
    (changed : Bool) (hs : Accepting s) :
    wp (selectUnlessCurrent command current requested changed)
      (fun outcome s' => outcome.2.isSuccess = true ∧ Accepting s') (fun _ _ => False) s := by
  cases requested with
  | none => exact ⟨rfl, hs⟩
  | some k =>
      rw [selectUnlessCurrent]
      split
      · exact ⟨rfl, hs⟩
      · rw [wp_bind]
        refine wp_mono (query_accepted hs (hcommand.mi k)) (fun result s' hsent => ?_) fun _ _ h => h
        obtain ⟨hsent, _, _, heq, _⟩ := hsent
        subst heq
        exact ⟨rfl, hs.grown hsent.grown hsent.hasController⟩

theorem selectForInspection_accepted (captured : SelectionSnapshot) (threadId frame : Option Int) (hs : Accepting s) :
    wp (selectForInspection (some captured) threadId frame)
      (fun outcome s' => outcome.2.isSuccess = true ∧ Accepting s') (fun _ _ => False) s := by
  rw [selectForInspection, wp_bind]
  refine wp_mono (selectUnlessCurrent_accepted selects_thread _ _ _ hs) (fun outcome s₁ ⟨hsuccess, hs₁⟩ => ?_) fun _ _ h => h
  obtain ⟨changed, selected⟩ := outcome
  dsimp only
  rw [if_pos hsuccess]
  exact selectUnlessCurrent_accepted selects_frame _ _ _ hs₁

/-! ### An inspection elsewhere -/

theorem captureIf_accepted (hs : Accepting s) (hreports : Reports s.gdb.answers s.gdb.selection) :
    wp (captureIf true) (fun result _ => result.isSuccess = true) (fun _ _ => False) s := by
  change wp (captureSelection >>= fun result => orReturn result fun captured => pure (.success (some captured))) _ _ s
  rw [wp_bind]
  refine wp_mono (captureSelection_accepted hs hreports) (fun result s₁ hsuccess => ?_) fun _ _ h => h
  cases result with
  | success => rfl
  | error => cases hsuccess

/-- The queries of an inspection whose context is another one are sent there. -/
theorem strays_inspecting {threadId frame : Option Int} {queries : Option SelectionSnapshot → SessionM Debugger (OperationResult α)}
    (hs : Accepting s) (hreports : Reports s.gdb.answers s.gdb.selection)
    (haway : s.gdb.selection.towards threadId frame ≠ s.gdb.selection)
    (hqueries : ∀ selection t, Accepting t → t.gdb.selection ≠ s.gdb.selection →
      wp (queries selection) (fun _ t' => Strays s.gdb.selection t t') (fun _ t' => Strays s.gdb.selection t t') t) :
    wp (inspecting .restoreIfChanged true threadId frame queries) (fun _ s' => Strays s.gdb.selection s s')
      (fun _ s' => Strays s.gdb.selection s s') s := by
  rw [inspecting, wp_bind]
  refine wp_mono (wp_and (captureIf_spec true hreports hs.hasController) (captureIf_accepted hs hreports))
    (fun result s₁ hreached => ?_) fun _ _ h => h.2.elim
  obtain ⟨⟨h, hcaptured⟩, hsuccess⟩ := hreached
  cases result with
  | error => cases hsuccess
  | success selection _ =>
      obtain ⟨rfl, -⟩ := hcaptured _ _ rfl
      have hs₁ := hs.grown h.grown h.hasController
      have hthere := selectForInspection_spec threadId frame h.hasController
      rw [h.selection] at hthere
      change wp (selectForInspection (some s.gdb.selection.snapshot) threadId frame >>= _) _ _ s₁
      rw [wp_bind]
      refine wp_mono (wp_and hthere (selectForInspection_accepted _ _ _ hs₁))
        (fun outcome s₂ hselected => ?_) fun _ _ h => h.2.elim
      obtain ⟨⟨hswitched, _, _, hcontext⟩, hsuccess, hs₂⟩ := hselected
      obtain ⟨changed, selected⟩ := outcome
      cases selected with
      | error => cases hsuccess
      | success =>
          have hgrown : Grown s s₂ := trans_of Grown h.grown hswitched.grown
          have hne : s₂.gdb.selection ≠ s.gdb.selection := by
            rw [hcontext rfl]
            exact haway
          refine wp_strays_bind ?_ fun result => carries_grown.concludeInspection coversSelects_mi _ _ _ _
          exact wp_mono (hqueries _ s₂ hs₂ hne) (fun _ _ ht => hgrown.strays ht) fun _ _ ht => hgrown.strays ht

/-- An evaluation in another frame, which is accepted. -/
theorem strays_queryThen {command : String} {next : CommandExecutionInfo → SessionM Debugger (OperationResult α)}
    (hs : Accepting s) (hselection : s.gdb.selection ≠ home) (hcommand : PyStr.startswith command "-" = true)
    (hevaluates : evaluates command = true) (hnext : ∀ info, Within Grown (next info)) :
    wp (query command >>= fun result => orReturn result next) (fun _ s' => Strays home s s') (fun _ s' => Strays home s s') s := by
  refine wp_strays_bind ?_ fun result => within_orReturn hnext
  refine wp_mono (query_accepted hs hcommand) (fun result s' ⟨hsent, _⟩ => ?_) fun _ _ h => h.elim
  refine ⟨s.gdb.log.length, command, s.gdb.selection, le_rfl, ?_, hevaluates, hs.accepts _ _ _ le_rfl, hselection⟩
  rw [hsent.gdb, Debugger.asked, List.getElem?_concat_length]

theorem evaluates_append {p t : String} (hp : evaluates p = true) : evaluates (p ++ t) = true := by
  rw [evaluates, List.any_eq_true] at hp ⊢
  obtain ⟨q, hq, hstart⟩ := hp
  exact ⟨q, hq, PyStr.startswith_append_left hstart t⟩

theorem strays_getVariables {threadId : Option Int} {frame : Int} (hs : Accepting s)
    (hreports : Reports s.gdb.answers s.gdb.selection)
    (haway : ¬((∀ t, threadId = some t → t = s.gdb.selection.thread) ∧ frame = s.gdb.selection.frame)) :
    wp (getVariables threadId frame) (fun _ s' => Strays s.gdb.selection s s')
      (fun _ s' => Strays s.gdb.selection s s') s := by
  refine strays_inspecting hs hreports (Selection.towards_ne fun h => haway ⟨h.1, h.2 _ rfl⟩) fun selection t ht hselection => ?_
  exact strays_queryThen ht hselection rfl rfl fun _ => Within.pure _

theorem captures_of_away {threadId frame : Option Int}
    (haway : ¬((∀ t, threadId = some t → t = home.thread) ∧ ∀ f, frame = some f → f = home.frame)) :
    (threadId.isSome || frame.isSome) = true := by
  cases threadId with
  | some _ => rfl
  | none =>
      cases frame with
      | some _ => rfl
      | none => exact absurd ⟨fun _ h => (by cases h), fun _ h => by cases h⟩ haway

theorem strays_getRegisters {threadId frame : Option Int} (hs : Accepting s) (hreports : Reports s.gdb.answers s.gdb.selection)
    (haway : ¬((∀ t, threadId = some t → t = s.gdb.selection.thread) ∧ ∀ f, frame = some f → f = s.gdb.selection.frame)) :
    wp (getRegisters threadId frame {}) (fun _ s' => Strays s.gdb.selection s s')
      (fun _ s' => Strays s.gdb.selection s s') s := by
  rw [getRegisters, captures_of_away haway]
  refine strays_inspecting hs hreports (Selection.towards_ne haway) fun selection t ht hselection => ?_
  change wp (query (registerValuesCommand true []) >>= fun result => orReturn result _) _ _ t
  exact strays_queryThen ht hselection rfl rfl fun info => Within.pure _

theorem strays_evaluateExpression {threadId frame : Option Int} (hs : Accepting s)
    (hreports : Reports s.gdb.answers s.gdb.selection)
    (haway : ¬((∀ t, threadId = some t → t = s.gdb.selection.thread) ∧ ∀ f, frame = some f → f = s.gdb.selection.frame))
    (expression : String) :
    wp (evaluateExpression expression threadId frame) (fun _ s' => Strays s.gdb.selection s s')
      (fun _ s' => Strays s.gdb.selection s s') s := by
  rw [evaluateExpression, captures_of_away haway]
  refine strays_inspecting hs hreports (Selection.towards_ne haway) fun selection t ht hselection => ?_
  exact strays_queryThen ht hselection (PyStr.startswith_append_left rfl _) (evaluates_append rfl) fun _ => Within.pure _

/-! ### The sections elsewhere -/

section Capture

variable {tools : CaptureTools Debugger} {bundleDir : Path} {threadId : Option Int} {progress : CaptureProgress}
  (hwrite : ∀ path, tools.writeText path = pure ())
include hwrite

theorem grown_write (name : String) : Within Grown (tools.writeText (artifactPath bundleDir name)) := by
  rw [hwrite]
  exact Within.pure _

theorem grown_captureRegisters (progress : CaptureProgress) :
    Within Grown (captureRegisters tools bundleDir request threadId progress) := by
  refine Within.ite ((Within.gets _).bind fun frame => (grown_getRegisters _ _ _).bind fun _ => ?_) (Within.pure _)
  exact within_writeResult (grown_write hwrite) _ _ _

omit hwrite in
theorem grown_expressionFailures (expressions : List String) :
    Within Grown (expressionFailures threadId expressions : SessionM Debugger _) := by
  induction expressions with
  | nil => exact Within.pure _
  | cons expression rest ih =>
      refine (Within.gets _).bind fun frame => (grown_evaluateExpression _ _ _).bind fun _ => ?_
      exact ih.bind fun _ => Within.pure _

theorem grown_captureExpressions (progress : CaptureProgress) :
    Within Grown (captureExpressions tools bundleDir request threadId progress) :=
  Within.ite (Within.pure _) ((grown_expressionFailures _).bind fun _ =>
    within_writeArtifact (grown_write hwrite) _ _ _)

/-- The context that the sections behind the frame are evaluated in is not the one at home, for one of them. -/
inductive Misses (request : CaptureOptions MemoryCaptureRange) (home : Selection) (remembered : Option Int × Option Int) : Prop
  | ofVariables (hrequest : request.includeVariables = true)
      (haway : ¬((∀ t, remembered.1 = some t → t = home.thread) ∧ remembered.2.getD 0 = home.frame))
  | ofRegisters (hnone : request.includeVariables = false) (hrequest : request.includeRegisters = true)
      (haway : ¬((∀ t, remembered.1 = some t → t = home.thread) ∧ ∀ f, remembered.2 = some f → f = home.frame))
  | ofExpressions (hnone : request.includeVariables = false) (hnone' : request.includeRegisters = false)
      (hrequest : request.expressions ≠ [])
      (haway : ¬((∀ t, remembered.1 = some t → t = home.thread) ∧ ∀ f, remembered.2 = some f → f = home.frame))

omit hwrite in
theorem misses_of_not_fits {remembered : Option Int × Option Int} (h : ¬Fits request home remembered) :
    Misses request home remembered := by
  by_cases haway : (∀ t, remembered.1 = some t → t = home.thread) ∧ ∀ f, remembered.2 = some f → f = home.frame
  · have hvariables : request.includeVariables = true ∧
        ¬((∀ t, remembered.1 = some t → t = home.thread) ∧ remembered.2.getD 0 = home.frame) := by
      by_contra hno
      refine h ⟨fun hrequest => ?_, fun _ => haway⟩
      by_contra hmiss
      exact hno ⟨hrequest, hmiss⟩
    exact .ofVariables hvariables.1 hvariables.2
  · cases hvariables : request.includeVariables with
    | true =>
        refine .ofVariables hvariables fun ⟨hthread, hframe⟩ => haway ⟨hthread, fun f hf => ?_⟩
        rw [hf] at hframe
        exact hframe
    | false =>
        cases hregisters : request.includeRegisters with
        | true => exact .ofRegisters hvariables hregisters haway
        | false =>
            refine .ofExpressions hvariables hregisters (fun hempty => ?_) haway
            refine h ⟨fun h => absurd (hvariables.symm.trans h) nofun, fun h => ?_⟩
            exact absurd h (by simp [hregisters, hempty])

variable (bundleDir progress) in
/-- The sections behind the frame, in a session whose debugger accepts everything. -/
theorem strays_behindFrame (hs : Accepting s) (hreports : Reports s.gdb.answers s.gdb.selection)
    (hmisses : Misses request s.gdb.selection s.marks) :
    wp (do
        let progress ← captureVariables tools bundleDir request s.runtime.currentThreadId (s.runtime.currentFrame.getD 0) progress
        let progress ← captureRegisters tools bundleDir request s.runtime.currentThreadId progress
        captureExpressions tools bundleDir request s.runtime.currentThreadId progress)
      (fun _ s' => Strays s.gdb.selection s s') (fun _ s' => Strays s.gdb.selection s s') s := by
  have hbehind : ∀ progress, Within Grown (captureRegisters tools bundleDir request s.runtime.currentThreadId progress >>=
      captureExpressions tools bundleDir request s.runtime.currentThreadId) := fun _ =>
    (grown_captureRegisters hwrite _).bind fun _ => grown_captureExpressions hwrite _
  cases hmisses with
  | ofVariables hrequest haway =>
      refine wp_strays_bind ?_ hbehind
      rw [captureVariables, if_pos hrequest]
      exact wp_strays_bind (strays_getVariables hs hreports haway) fun _ => within_writeResult (grown_write hwrite) _ _ _
  | ofRegisters hnone hrequest haway =>
      rw [captureVariables, if_neg (by simp [hnone]), wp_bind, wp_pure]
      refine wp_strays_bind ?_ fun _ => grown_captureExpressions hwrite _
      rw [captureRegisters, if_pos hrequest, wp_bind, read, wp_gets]
      exact wp_strays_bind (strays_getRegisters hs hreports haway) fun _ => within_writeResult (grown_write hwrite) _ _ _
  | ofExpressions hnone hnone' hrequest haway =>
      rw [captureVariables, if_neg (by simp [hnone]), wp_bind, wp_pure, captureRegisters, if_neg (by simp [hnone']), wp_bind,
        wp_pure, captureExpressions, if_neg (by simpa using hrequest)]
      refine wp_strays_bind ?_ fun _ => within_writeArtifact (grown_write hwrite) _ _ _
      obtain ⟨expression, rest, heq⟩ := List.exists_cons_of_ne_nil hrequest
      rw [heq, expressionFailures, wp_bind, read, wp_gets]
      refine wp_strays_bind (strays_evaluateExpression hs hreports haway expression) fun _ => ?_
      exact (grown_expressionFailures rest).bind fun _ => Within.pure _

end Capture

/-! ### The commands before -/

/-- A debugger that refuses the first commands but for the selects, and reports what is selected. -/
def refusingFirst (k n : Nat) (line : String) (selection : Selection) : Answer where
  accepted := decide (k ≤ n) || isSelect line
  payload := .dict [("current-thread-id", .int selection.thread), ("frame", .dict [("level", .int selection.frame)])]

theorem reports_refusingFirst (k : Nat) (home : Selection) : Reports (refusingFirst k) home where
  thread _ _ := rfl
  frame _ _ := rfl
  selectThread _ _ := by rw [refusingFirst, selects_thread.selects, Bool.or_true]
  selectFrame _ _ _ := by rw [refusingFirst, selects_frame.selects, Bool.or_true]

/-- The session with such a debugger has not changed but for the commands that were refused. -/
structure Waiting (k : Nat) (home : Selection) (remembered : Option Int × Option Int) (j : Nat) (s : Session Debugger) :
    Prop where
  hasController : s.runtime.hasController = true
  answers : s.gdb.answers = refusingFirst k
  selection : s.gdb.selection = home
  marks : s.marks = remembered
  length : s.gdb.log.length = j

/-- The number of commands before the variables. -/
def commandsBefore (request : CaptureOptions MemoryCaptureRange) : Nat :=
  (if request.includeThreads || request.includeBacktraces then 1 else 0) + if request.includeFrame then 1 else 0

variable {k j : Nat} {remembered : Option Int × Option Int}

theorem Waiting.accepting (h : Waiting k home remembered k s) : Accepting s where
  hasController := h.hasController
  accepts n line selection hn := by
    rw [h.length] at hn
    rw [h.answers, refusingFirst, decide_eq_true hn, Bool.true_or]

theorem query_refused {command : String} (h : Waiting k home remembered j s) (hj : j < k)
    (hcommand : PyStr.startswith command "-" = true) (hselect : isSelect command = false) :
    wp (query command) (fun result s' => result.isSuccess = false ∧ Waiting k home remembered (j + 1) s')
      (fun _ _ => False) s := by
  refine wp_mono (query_mi h.hasController hcommand) (fun result s' ⟨hsent, hsuccess, _⟩ => ?_) fun _ _ h => h
  have hattended := hsent.attended hselect
  refine ⟨?_, hsent.hasController, hattended.answers.trans h.answers, hattended.selection.trans h.selection,
    hsent.marks.trans h.marks, ?_⟩
  · rw [hsuccess, answerTo, Debugger.answer, h.answers, h.length, refusingFirst, hselect, Bool.or_false]
    exact decide_eq_false (Nat.not_le.mpr hj)
  · rw [hsent.gdb, Debugger.asked, List.length_append, h.length]
    rfl

section Before

variable {tools : CaptureTools Debugger} {bundleDir : Path} {progress : CaptureProgress}
  {Q : CaptureProgress → Session Debugger → Prop} {R : PyError → Session Debugger → Prop}
  (hwrite : ∀ path, tools.writeText path = pure ())
include hwrite

theorem wp_writeArtifact {name status : String} (hQ : ∀ progress, Q progress s) :
    wp (writeArtifact tools bundleDir name status progress) Q R s := by
  rw [writeArtifact, hwrite]
  exact hQ _

theorem wp_writeResult {name : String} {result : OperationResult α} (hQ : ∀ progress, Q progress s) :
    wp (writeResult tools bundleDir name result progress) Q R s := by
  rw [writeResult]
  split
  · exact wp_writeArtifact hwrite hQ
  · rw [wp_bind]
    exact wp_writeArtifact hwrite fun _ => hQ _

theorem wp_writeArtifact_if {flag : Bool} {name status : String} (hQ : ∀ progress, Q progress s) :
    wp (if flag then writeArtifact tools bundleDir name status progress else pure progress) Q R s := by
  split
  · exact wp_writeArtifact hwrite hQ
  · exact hQ _

theorem captureThreads_waiting (h : Waiting k home remembered 0 s)
    (hk : (if request.includeThreads || request.includeBacktraces then 1 else 0) ≤ k) :
    wp (captureThreads tools bundleDir request progress)
      (fun listed s' => listed.2 = [] ∧
        Waiting k home remembered (if request.includeThreads || request.includeBacktraces then 1 else 0) s')
      (fun _ _ => False) s := by
  rw [captureThreads]
  split
  · next hrequest =>
    rw [if_pos hrequest] at hk
    have hthreads : wp getThreads (fun result s' => result.isSuccess = false ∧ Waiting k home remembered 1 s')
        (fun _ _ => False) s := by
      rw [getThreads, wp_bind]
      refine wp_mono (query_refused h hk rfl (by decide)) (fun result s' h => ?_) fun _ _ h => h
      cases result with
      | success => cases h.1
      | error => exact h
    rw [wp_bind]
    refine wp_mono hthreads (fun result s' ⟨hsuccess, hs'⟩ => ?_) fun _ _ h => h
    rw [wp_bind]
    refine wp_writeResult hwrite fun progress => ?_
    cases result with
    | success => cases hsuccess
    | error => exact ⟨rfl, hs'⟩
  · exact ⟨rfl, h⟩

theorem captureBacktraces_waiting (hQ : ∀ progress, Q progress s) :
    wp (captureBacktraces tools bundleDir request [] progress) Q R s := by
  rw [captureBacktraces]
  split
  · rw [wp_bind]
    exact wp_writeArtifact hwrite hQ
  · exact hQ _

theorem captureFrame_waiting (h : Waiting k home remembered j s) (hk : k = j + if request.includeFrame then 1 else 0) :
    wp (captureFrame tools bundleDir request progress) (fun _ s' => Waiting k home remembered k s') (fun _ _ => False) s := by
  rw [captureFrame]
  split
  · next hrequest =>
    rw [if_pos hrequest] at hk
    subst hk
    have hframe : wp (getFrameInfo none none) (fun result s' => Waiting (j + 1) home remembered (j + 1) s')
        (fun _ _ => False) s := by
      change wp (queryFrameInfo >>= concludeInspection .restoreAlways none false) _ _ s
      rw [queryFrameInfo, wp_bind, wp_bind]
      refine wp_mono (query_refused h (Nat.lt_succ_self j) rfl (by decide)) (fun result s' hrefused => ?_) fun _ _ h => h
      obtain ⟨hsuccess, hs'⟩ := hrefused
      cases result with
      | success => cases hsuccess
      | error => exact hs'
    rw [wp_bind]
    exact wp_mono hframe (fun _ s' hs' => wp_writeResult hwrite fun _ => hs') fun _ _ h => h
  · next hrequest =>
    rw [if_neg hrequest] at hk
    exact hk ▸ h

theorem captureContext_strays (h : Waiting k home remembered j s) (hk : k = j + if request.includeFrame then 1 else 0)
    (hmisses : Misses request home remembered) :
    wp (captureContext tools bundleDir request progress)
      (fun _ s' => ∃ t, Waiting k home remembered k t ∧ Strays home t s')
      (fun _ s' => ∃ t, Waiting k home remembered k t ∧ Strays home t s') s := by
  rw [captureContext, read, wp_bind, wp_gets, read, wp_bind, wp_gets, wp_bind]
  refine wp_mono (captureFrame_waiting hwrite h hk) (fun progress t ht => ?_) fun _ _ h => h.elim
  have hmarks : t.marks = s.marks := ht.marks.trans h.marks.symm
  have hthread : t.runtime.currentThreadId = s.runtime.currentThreadId := congrArg Prod.fst hmarks
  have hframe : t.runtime.currentFrame = s.runtime.currentFrame := congrArg Prod.snd hmarks
  rw [← hthread, ← hframe]
  have hreports : Reports t.gdb.answers t.gdb.selection := by
    rw [ht.answers]
    exact reports_refusingFirst k _
  have hstrays := strays_behindFrame bundleDir progress hwrite ht.accepting hreports
    (by rw [ht.selection, ht.marks]; exact hmisses)
  rw [ht.selection] at hstrays
  exact wp_mono hstrays (fun _ _ hs' => ⟨t, ht, hs'⟩) fun _ _ hs' => ⟨t, ht, hs'⟩

variable (tools bundleDir) in
theorem captureSections_strays (h : Waiting (commandsBefore request) home remembered 0 s) (hlog : s.gdb.log = [])
    (hmisses : Misses request home remembered) :
    wp (captureSections tools bundleDir request) (fun _ s' => Strays home s s') (fun _ s' => Strays home s s') s := by
  have hback : ∀ s', (∃ t, Waiting (commandsBefore request) home remembered (commandsBefore request) t ∧ Strays home t s') →
      Strays home s s' := by
    rintro s' ⟨t, ht, i, line, selection, -, hline, hevaluates, haccepted, hselection⟩
    rw [ht.answers, ← h.answers] at haccepted
    exact ⟨i, line, selection, by simp [hlog], hline, hevaluates, haccepted, hselection⟩
  rw [captureSections, wp_bind]
  refine wp_mono (getStatus_attached h.hasController) (fun statusResult s₁ hs₁ => ?_) fun _ _ h => h.elim
  subst hs₁
  rw [wp_bind, read, wp_gets, wp_bind]
  refine wp_writeResult hwrite fun _ => ?_
  rw [wp_bind]
  refine wp_writeArtifact hwrite fun _ => ?_
  rw [wp_bind, captureStopHistory]
  refine wp_writeArtifact_if hwrite fun _ => ?_
  rw [wp_bind, captureTranscript]
  refine wp_writeArtifact_if hwrite fun _ => ?_
  rw [wp_bind]
  refine wp_mono (captureThreads_waiting hwrite h (Nat.le_add_right _ _)) (fun listed s₂ hlisted => ?_) fun _ _ h => h.elim
  obtain ⟨hids, hs₂⟩ := hlisted
  obtain ⟨progress, ids⟩ := listed
  subst hids
  dsimp only
  rw [wp_bind]
  refine captureBacktraces_waiting hwrite fun _ => wp_strays_bind ?_ fun _ => ?_
  · exact wp_mono (captureContext_strays hwrite hs₂ rfl hmisses) (fun _ _ h => hback _ h) fun _ _ h => hback _ h
  · refine (within_captureMemoryRanges (grown_write hwrite) (fun _ => grown_readMemory _ _ _) _).bind fun _ => ?_
    exact (within_writeArtifact (grown_write hwrite) _ _ _).bind fun _ => (Within.gets _).bind fun _ => Within.pure _

end Before

/-! ### Every capture -/

/-- The selection is the one at first, and what was evaluated on the way and was accepted was evaluated there. -/
def ObservedAt (home : Selection) (s s' : Session Debugger) : Prop :=
  s'.gdb.selection = home ∧ ∀ i line selection, s.gdb.log.length ≤ i → s'.gdb.log[i]? = some (line, selection) →
    evaluates line = true → (s.gdb.answers i line selection).accepted = true → selection = home

theorem EvaluatesAt.observedAt (h : EvaluatesAt home s s') (hselection : s'.gdb.selection = home) : ObservedAt home s s' := by
  refine ⟨hselection, fun i line selection hi hline hevaluates _ => ?_⟩
  obtain ⟨lines, hlog, hlines⟩ := h
  rw [hlog, List.getElem?_append_right hi] at hline
  exact hlines _ (List.mem_of_getElem? hline) hevaluates

theorem ObservedAt.not_strays (h : ObservedAt home s s') : ¬Strays home s s' :=
  fun ⟨i, line, selection, hi, hline, hevaluates, haccepted, hselection⟩ =>
    hselection (h.2 i line selection hi hline hevaluates haccepted)

/-- A session with a debugger that refuses the first commands. -/
def refusingSession (k : Nat) (home : Selection) (remembered : Option Int × Option Int) : Session Debugger where
  runtime := { transport := { controller := some {} }, currentThreadId := remembered.1, currentFrame := remembered.2 }
  gdb := { answers := refusingFirst k, selection := home }

theorem waiting_refusingSession (k : Nat) (home : Selection) (remembered : Option Int × Option Int) :
    Waiting k home remembered 0 (refusingSession k home remembered) := ⟨rfl, rfl, rfl, rfl, rfl⟩

end Session

end GdbMcp
