import GdbMcp.CaptureKept
import GdbMcp.InspectionLookup

/-! The context in which the sections of a capture are evaluated. The thread and the frame come from what the runtime
remembers, some of it read before other sections have refreshed it; the frame and the registers of a runtime that
remembers none are those that the debugger has selected. -/

namespace GdbMcp

open Eff

def evaluationPrefixes : List String :=
  ["-stack-info-frame", "-stack-list-variables", "-data-list-register-values", "-data-evaluate-expression"]

/-- Whether a command line evaluates something in the selected frame. -/
def evaluates (line : String) : Bool := evaluationPrefixes.any (PyStr.startswith line)

theorem evaluates_of_startswith {line p : String} (hline : PyStr.startswith line p = true)
    (hp : ∀ q ∈ evaluationPrefixes, PyStr.apart p q = true) : evaluates line = false :=
  PyStr.any_startswith_apart hline hp

theorem evaluates_of_isSelect {line : String} (h : isSelect line = true) : evaluates line = false := by
  rw [isSelect, selectPrefixes, List.any_cons, List.any_cons, List.any_nil, Bool.or_false, Bool.or_eq_true] at h
  rcases h with h | h
  · exact evaluates_of_startswith h (by decide)
  · exact evaluates_of_startswith h (by decide)

/-- What the runtime may remember for the sections of a capture to be evaluated in the selected frame. The variables need
the frame, which is 0 by default; the registers and the expressions go without. -/
structure Fits (request : CaptureOptions MemoryCaptureRange) (home : Selection) (remembered : Option Int × Option Int) :
    Prop where
  ofVariables : request.includeVariables = true →
    (∀ t, remembered.1 = some t → t = home.thread) ∧ remembered.2.getD 0 = home.frame
  ofRegisters : request.includeRegisters = true ∨ request.expressions ≠ [] →
    (∀ t, remembered.1 = some t → t = home.thread) ∧ ∀ f, remembered.2 = some f → f = home.frame

theorem Fits.thread {request : CaptureOptions MemoryCaptureRange} {home : Selection} {remembered : Option Int × Option Int}
    (h : Fits request home remembered) : Fits request home (some home.thread, remembered.2) where
  ofVariables hv := ⟨fun _ ht => (Option.some.inj ht).symm, (h.ofVariables hv).2⟩
  ofRegisters hr := ⟨fun _ ht => (Option.some.inj ht).symm, (h.ofRegisters hr).2⟩

theorem Fits.frame {request : CaptureOptions MemoryCaptureRange} {home : Selection} {remembered : Option Int × Option Int}
    (h : Fits request home remembered) : Fits request home (remembered.1, some home.frame) where
  ofVariables hv := ⟨(h.ofVariables hv).1, rfl⟩
  ofRegisters hr := ⟨(h.ofRegisters hr).1, fun _ hf => (Option.some.inj hf).symm⟩

namespace Session

variable {request : CaptureOptions MemoryCaptureRange} {home : Selection} {s s' : Session Debugger} {α β : Type}

/-- The debugger has the frame selected that it had at first, and the runtime fits. -/
structure AtHome (request : CaptureOptions MemoryCaptureRange) (home : Selection) (s : Session Debugger) : Prop where
  hasController : s.runtime.hasController = true
  selection : s.gdb.selection = home
  reports : Reports s.gdb.answers home
  fits : Fits request home s.marks

/-- Everything that is evaluated on the way is evaluated at home. -/
def EvaluatesAt (home : Selection) (s s' : Session Debugger) : Prop :=
  ∃ lines, s'.gdb.log = s.gdb.log ++ lines ∧ ∀ p ∈ lines, evaluates p.1 = true → p.2 = home

instance : Std.Refl (EvaluatesAt home) := ⟨fun _ => ⟨[], by simp⟩⟩

instance : IsTrans (Session Debugger) (EvaluatesAt home) := by
  refine ⟨fun s t u ⟨lines, hlog, hlines⟩ ⟨lines', hlog', hlines'⟩ => ⟨lines ++ lines', ?_, fun p hp => ?_⟩⟩
  · rw [hlog', hlog, List.append_assoc]
  · exact (List.mem_append.mp hp).elim (hlines p) (hlines' p)

theorem Sent.evaluatesAt {line : String} (h : Sent s line s') (hline : evaluates line = true → s.gdb.selection = home) :
    EvaluatesAt home s s' :=
  ⟨[(line, s.gdb.selection)], by rw [h.gdb]; rfl, List.forall_mem_singleton.mpr hline⟩

theorem Attended.evaluatesAt (h : Attended s s') : EvaluatesAt s.gdb.selection s s' := by
  obtain ⟨lines, hlog, hlines⟩ := h.log
  exact ⟨lines, hlog, fun p hp _ => (hlines p hp).2⟩

theorem Switched.evaluatesAt (h : Switched s s') : EvaluatesAt home s s' := by
  obtain ⟨lines, hlog, hlines⟩ := h.log
  refine ⟨lines, hlog, fun p hp hevaluates => ?_⟩
  rw [evaluates_of_isSelect (hlines p hp)] at hevaluates
  cases hevaluates

/-- At home it stays at home, and everything is evaluated there. -/
def Stays (request : CaptureOptions MemoryCaptureRange) (home : Selection) (s s' : Session Debugger) : Prop :=
  AtHome request home s → AtHome request home s' ∧ EvaluatesAt home s s'

instance : Std.Refl (Stays request home) := ⟨fun s h => ⟨h, refl_of (EvaluatesAt home) s⟩⟩

instance : IsTrans (Session Debugger) (Stays request home) := by
  refine ⟨fun s t u h h' hs => ?_⟩
  obtain ⟨ht, hlog⟩ := h hs
  obtain ⟨hu, hlog'⟩ := h' ht
  exact ⟨hu, trans_of (EvaluatesAt home) hlog hlog'⟩

/-- It is enough to look at sessions at home. -/
theorem stays_of_home {m : SessionM Debugger α}
    (h : ∀ s, AtHome request home s → wp m (fun _ => Stays request home s) (fun _ => Stays request home s) s) :
    Within (Stays request home) m := by
  refine ⟨fun s => ?_⟩
  by_cases hs : AtHome request home s
  · exact h s hs
  · exact wp_mono (wp_true m s) (fun _ _ _ hs' => absurd hs' hs) fun _ _ _ hs' => absurd hs' hs

/-! ### Queries at home -/

theorem stays_update {f : SessionRuntime → SessionRuntime} (hcontroller : ∀ rt, (f rt).hasController = rt.hasController)
    (hfits : ∀ rt, Fits request home (rt.currentThreadId, rt.currentFrame) →
      Fits request home ((f rt).currentThreadId, (f rt).currentFrame)) :
    Within (Stays request home) (update f : SessionM Debugger Unit) :=
  ⟨fun s hs => ⟨⟨(hcontroller _).trans hs.hasController, hs.selection, hs.reports, hfits _ hs.fits⟩,
    refl_of (EvaluatesAt home) s⟩⟩

theorem stays_narrow (x : Except PyError α) : Within (Stays request home) (narrow x : SessionM Debugger α) := by
  refine ⟨fun s => ?_⟩
  rw [narrow, onRuntime, wp_zoom, wp_ofExcept]
  exact ⟨fun _ _ => refl_of (Stays request home) s, fun _ _ => refl_of (Stays request home) s⟩

theorem Sent.stays {line : String} (h : Sent s line s') (hline : isSelect line = false) : Stays request home s s' := by
  intro hs
  have hattended := h.attended hline
  exact ⟨⟨h.hasController, hattended.selection.trans hs.selection, hattended.answers ▸ hs.reports, h.marks ▸ hs.fits⟩,
    h.evaluatesAt fun _ => hs.selection⟩

theorem stays_query {command : String} (hcommand : Harmless command) :
    Within (Stays request home) (query command) := by
  refine stays_of_home fun s hs => ?_
  exact wp_mono (query_asked hs.hasController hcommand.silent) (fun _ s' h => h.1.sent.stays hcommand.noSelect)
    fun _ _ h => h.elim

theorem stays_queryThen {command : String} {next : CommandExecutionInfo → SessionM Debugger (OperationResult α)}
    (hcommand : Harmless command) (hnext : ∀ info, Within (Stays request home) (next info)) :
    Within (Stays request home) (query command >>= fun result => orReturn result next) :=
  (stays_query hcommand).bind fun _ => within_orReturn hnext

/-! ### Inspections at home -/

theorem Attended.stays (h : Attended s s') (hfits : AtHome request home s → Fits request home s'.marks) :
    Stays request home s s' :=
  fun hs => ⟨⟨h.hasController, h.selection.trans hs.selection, h.answers ▸ hs.reports, hfits hs⟩,
    hs.selection ▸ h.evaluatesAt⟩

/-- Without a capture that succeeds, the runtime remembers what it did. -/
theorem captureSelection_marks (hs : s.runtime.hasController = true) :
    wp captureSelection (fun result s' => result.isSuccess = true ∨ s'.marks = s.marks) (fun _ _ => True) s := by
  rw [captureSelection, wp_bind]
  refine wp_mono (query_mi hs (by decide)) (fun result s₁ h₁ => ?_) fun _ _ _ => trivial
  obtain ⟨h₁, _⟩ := h₁
  cases result with
  | error => exact .inr h₁.marks
  | success thread _ =>
      change wp (narrow _ >>= _) _ _ s₁
      rw [wp_bind, narrow, onRuntime, wp_zoom, wp_ofExcept]
      refine ⟨fun current _ => ?_, fun _ _ => trivial⟩
      change wp (query "-stack-info-frame" >>= _) _ _ s₁
      rw [wp_bind]
      refine wp_mono (query_mi h₁.hasController (by decide)) (fun result s₂ h₂ => ?_) fun _ _ _ => trivial
      obtain ⟨h₂, _⟩ := h₂
      cases result with
      | error => exact .inr (h₂.marks.trans h₁.marks)
      | success frame _ =>
          change wp (narrow _ >>= _) _ _ s₂
          rw [wp_bind, narrow, onRuntime, wp_zoom, wp_ofExcept]
          exact ⟨fun _ _ => .inl rfl, fun _ _ => trivial⟩

theorem captureIf_marks (captures : Bool) (hs : s.runtime.hasController = true) :
    wp (captureIf captures)
      (fun result s' => (captures = true ∧ result.isSuccess = true) ∨ s'.marks = s.marks) (fun _ _ => True) s := by
  cases captures with
  | false => exact .inr rfl
  | true =>
      change wp (captureSelection >>= fun result => orReturn result fun captured => pure (.success (some captured))) _ _ s
      rw [wp_bind]
      refine wp_mono (captureSelection_marks hs) (fun result s₁ h => ?_) fun _ _ h => h
      cases result with
      | success => exact .inl ⟨rfl, rfl⟩
      | error => exact .inr (h.resolve_left nofun)

theorem AtHome.fits_home (hs : AtHome request home s) : Fits request home (some home.thread, some home.frame) :=
  hs.fits.thread.frame

/-- Back at home, with the runtime remembering it. -/
theorem AtHome.again (hs : AtHome request home s) (hanswers : s'.gdb.answers = s.gdb.answers)
    (hcontroller : s'.runtime.hasController = true) (hselection : s'.gdb.selection = home) (hmarked : s'.Marked) :
    AtHome request home s' := by
  refine ⟨hcontroller, hselection, hanswers ▸ hs.reports, ?_⟩
  rw [hmarked, hselection]
  exact hs.fits_home

theorem stays_captureIf (captures : Bool) : Within (Stays request home) (captureIf captures) := by
  refine stays_of_home fun s hs => ?_
  have hreports : Reports s.gdb.answers s.gdb.selection := hs.selection.symm ▸ hs.reports
  refine wp_mono (wp_and (captureIf_spec captures hreports hs.hasController) (captureIf_marks captures hs.hasController))
    (fun result s₁ ⟨⟨h, hcaptured⟩, hmarks⟩ => h.stays fun _ => ?_) fun _ _ h => h.1.elim
  rcases hmarks with ⟨rfl, hsuccess⟩ | hmarks
  · cases result with
    | error => cases hsuccess
    | success selection _ =>
        obtain ⟨-, hmarked, -⟩ := hcaptured _ _ rfl
        rw [hmarked, h.selection, hs.selection]
        exact hs.fits_home
  · exact hmarks ▸ hs.fits

/-- Where the requested context is the one at home, nothing is selected. -/
theorem selectForInspection_home {threadId frame : Option Int} (hthread : ∀ t, threadId = some t → t = home.thread)
    (hframe : ∀ f, frame = some f → f = home.frame) :
    (selectForInspection (some home.snapshot) threadId frame : SessionM Debugger _) = pure (false, .success ()) := by
  have hskip : ∀ (command : Int → String) (current : Int) (requested : Option Int),
      (∀ k, requested = some k → k = current) →
        (selectUnlessCurrent command (some current) requested false : SessionM Debugger _) = pure (false, .success ()) := by
    intro command current requested hrequested
    cases requested with
    | none => rfl
    | some k =>
        rw [selectUnlessCurrent, if_pos (congrArg some (hrequested k rfl).symm)]
  show (selectUnlessCurrent threadSelectCommand (some home.thread) threadId false >>= _) = _
  rw [hskip _ _ _ hthread]
  exact hskip _ _ _ hframe

/-- An inspection of the context at home. -/
theorem stays_inspecting {captures : Bool} {threadId frame : Option Int}
    {queries : Option SelectionSnapshot → SessionM Debugger (OperationResult α)}
    (hthread : ∀ t, threadId = some t → t = home.thread) (hframe : ∀ f, frame = some f → f = home.frame)
    (hqueries : ∀ selection, Within (Stays request home) (queries selection)) :
    Within (Stays request home) (inspecting .restoreIfChanged captures threadId frame queries) := by
  refine stays_of_home fun s hs => ?_
  have hreports : Reports s.gdb.answers s.gdb.selection := hs.selection.symm ▸ hs.reports
  have hstays := (stays_captureIf captures : Within (Stays request home) _).outcome s
  rw [inspecting, wp_bind]
  refine wp_mono (wp_and (captureIf_spec captures hreports hs.hasController) hstays)
    (fun result s₁ hreached => ?_) fun _ _ h => h.1.elim
  obtain ⟨⟨h, hcaptured⟩, hs₁⟩ := hreached
  cases result with
  | error => exact hs₁
  | success selection _ =>
      have hselect : (selectForInspection selection threadId frame : SessionM Debugger _) = pure (false, .success ()) := by
        have hcaptured := hcaptured _ _ rfl
        cases captures with
        | false =>
            obtain rfl : selection = none := hcaptured
            rfl
        | true =>
            obtain ⟨rfl, -⟩ := hcaptured
            rw [hs.selection]
            exact selectForInspection_home hthread hframe
      have hback : ∀ result : OperationResult α,
          Within (Stays request home) (concludeInspection .restoreIfChanged selection false result) := by
        intro result
        cases selection <;> cases result <;> exact Within.pure _
      change wp (selectForInspection selection threadId frame >>= _) _ _ s₁
      rw [hselect]
      have hrest := ((hqueries selection).bind hback).outcome s₁
      exact wp_mono hrest (fun _ t ht => trans_of (Stays request home) hs₁ ht) fun _ t ht =>
        trans_of (Stays request home) hs₁ ht

/-! ### The parts of a capture -/

theorem getStatus_attached (hs : s.runtime.hasController = true) :
    wp (getStatus : SessionM Debugger _) (fun _ s' => s' = s) (fun _ _ => False) s := by
  rw [getStatus, noticeExit, wp_bind, wp_bind, hasController, read, wp_gets, if_pos hs, isGdbAlive, wp_bind,
    onChannel, wp_zoom, MiClient.isAlive, wp_bind, MiClient.hasController, wp_gets,
    if_pos (show s.channel.client.controller.isSome = true from hs)]
  rfl

theorem stays_getStatus : Within (Stays request home) (getStatus : SessionM Debugger _) := by
  refine stays_of_home fun s hs => wp_mono (getStatus_attached hs.hasController) (fun _ s' h => ?_) fun _ _ h => h.elim
  rw [h]
  exact refl_of (Stays request home) s

theorem stays_getThreads : Within (Stays request home) (getThreads : SessionM Debugger _) := by
  refine stays_queryThen (harmless_of_startswith (p := "-thread-info") rfl (by decide)) fun info => ?_
  cases extractMiResultPayload info <;> exact Within.pure _

/-- The frame that the runtime takes over is the one at home. -/
theorem stays_queryFrameInfo : Within (Stays request home) queryFrameInfo := by
  refine stays_of_home fun s hs => ?_
  rw [queryFrameInfo, wp_bind]
  refine wp_mono (query_mi hs.hasController (by decide)) (fun result s₁ hsent => ?_) fun _ _ h => h.elim
  obtain ⟨hsent, hsuccess, hpayload⟩ := hsent
  have hs₁ : Stays request home s s₁ := hsent.stays (by decide)
  cases result with
  | error => exact hs₁
  | success info _ =>
      have hlevel : readFrameLevel ((extractMiResultPayload info).get "frame") = .ok (some home.frame) := by
        rw [hpayload _ _ rfl]
        rw [answerTo, Debugger.answer, hs.selection] at hsuccess ⊢
        exact hs.reports.frame _ hsuccess.symm
      have htaken : Within (Stays request home)
          (update (·.markFrameSelected (some home.frame)) : SessionM Debugger Unit) := by
        refine stays_update ?_ fun _ h => h.frame
        exact fun _ => rfl
      change wp (narrow (readFrameLevel ((extractMiResultPayload info).get "frame")) >>= _) _ _ s₁
      rw [hlevel, wp_bind]
      exact trans_of (Stays request home) hs₁ (htaken.outcome s₁)

theorem stays_getFrameInfo : Within (Stays request home) (getFrameInfo none none : SessionM Debugger _) := by
  refine ⟨fun s => ?_⟩
  change wp (queryFrameInfo >>= concludeInspection .restoreAlways none false) _ _ s
  refine (stays_queryFrameInfo.bind fun result => ?_).outcome s
  cases result <;> exact Within.pure _

theorem stays_readMemory (address : String) (count offset : Int) :
    Within (Stays request home) (readMemory address count offset : SessionM Debugger _) := by
  refine within_readMemory ?_ (fun _ => ?_) (fun _ hcommand => ?_) address count offset
  · exact stays_query (harmless_of_startswith (p := "-list-features") rfl (by decide))
  · refine stays_update ?_ fun _ h => h
    exact fun _ => rfl
  · exact stays_query (harmless_of_startswith hcommand (by decide))

/-! ### Backtraces -/

theorem queryFrames_sent (threadId : Option Int) (maxFrames : Int) (hs : s.runtime.hasController = true) :
    wp (queryFrames threadId maxFrames) (fun _ s' => ∃ line, evaluates line = false ∧ isSelect line = false ∧ Sent s line s')
      (fun _ _ => False) s := by
  have hline : PyStr.startswith s!"-stack-list-frames 0 {maxFrames - 1}" "-stack-list-frames" = true :=
    PyStr.startswith_append_left rfl _
  rw [queryFrames, wp_bind]
  refine wp_mono (query_mi hs (PyStr.startswith_trans hline rfl)) (fun result s' ⟨h, _⟩ => ?_) fun _ _ h => h
  have hsent : ∃ line, evaluates line = false ∧ isSelect line = false ∧ Sent s line s' :=
    ⟨_, evaluates_of_startswith hline (by decide), not_isSelect_of_startswith hline (by decide), h⟩
  cases result with
  | error => exact hsent
  | success => exact hsent

/-- A backtrace of a thread evaluates nothing but the capture of its selection. -/
theorem stays_getBacktrace (threadId maxFrames : Int) :
    Within (Stays request home) (getBacktrace (some threadId) maxFrames : SessionM Debugger _) := by
  refine stays_of_home fun s hs => ?_
  have hreports : Reports s.gdb.answers s.gdb.selection := hs.selection.symm ▸ hs.reports
  have hstays := (stays_captureIf true : Within (Stays request home) _).outcome s
  rw [getBacktrace, wp_bind]
  refine wp_mono (wp_and (captureIf_spec true hreports hs.hasController) hstays)
    (fun result s₁ hreached => ?_) fun _ _ h => h.1.elim
  obtain ⟨⟨h, hcaptured⟩, hs₁⟩ := hreached
  cases result with
  | error => exact hs₁
  | success selection _ =>
      obtain ⟨rfl, hmarked, -⟩ := hcaptured _ _ rfl
      obtain ⟨-, hlog₁⟩ := hs₁ hs
      change wp (selectUnlessCurrent threadSelectCommand (some s.gdb.selection.thread) (some threadId) false >>= _) _ _ s₁
      rw [wp_bind]
      refine wp_mono (selectUnlessCurrent_spec selects_thread _ _ _ h.hasController) (fun outcome s₂ h₂ => ?_)
        fun _ _ h => h.elim
      obtain ⟨⟨switched, selected⟩, hthere, hmarks, hunchanged, -, hrejected⟩ := outcome, h₂
      have hlog₂ := trans_of (EvaluatesAt home) hlog₁ hthere.evaluatesAt
      have hat : switched = false → s₂.gdb.selection = home := fun hc =>
        (hunchanged hc).2.trans (h.selection.trans hs.selection)
      have hkept : switched = false → s₂.Marked := fun hc => by
        rw [Marked, hmarks, (hunchanged hc).2]
        exact hmarked
      cases selected with
      | error =>
          have hc : switched = false := hrejected rfl
          exact fun _ => ⟨hs.again (hthere.answers.trans h.answers) hthere.hasController (hat hc) (hkept hc), hlog₂⟩
      | success =>
          change wp (queryFrames (some threadId) maxFrames >>= _) _ _ s₂
          rw [wp_bind]
          refine wp_mono (queryFrames_sent (some threadId) maxFrames hthere.hasController)
            (fun result s₃ hsent => ?_) fun _ _ h => h.elim
          obtain ⟨line, hline, hselect, hsent⟩ := hsent
          have hattended := hsent.attended hselect
          have hanswers : s₃.gdb.answers = s.gdb.answers := (hattended.answers.trans hthere.answers).trans h.answers
          have hlog₃ : EvaluatesAt home s s₃ :=
            trans_of (EvaluatesAt home) hlog₂ (hsent.evaluatesAt fun h => absurd (hline.symm.trans h) fun h => by cases h)
          have hreports₃ : Reports s₃.gdb.answers s.gdb.selection := hanswers ▸ hreports
          refine wp_mono (concludeInspection_spec _ result hreports₃ hsent.hasController fun hc =>
            hattended.selection.trans ((hat hc).trans hs.selection.symm)) (fun _ s' hconcluded => ?_)
            fun _ _ h => h.elim
          obtain ⟨_, hreturned, hchanged⟩ := hconcluded
          have hback : s'.gdb.selection = home := hreturned.selection.trans hs.selection
          have hmarked' : s'.Marked := by
            cases switched with
            | true => exact hchanged rfl
            | false =>
                have hselection : s₃.gdb.selection = s.gdb.selection :=
                  hattended.selection.trans ((hat rfl).trans hs.selection.symm)
                refine hreturned.marked hselection ?_
                rw [Marked, hsent.marks, hattended.selection]
                exact hkept rfl
          exact fun _ => ⟨hs.again (hreturned.switched.answers.trans hanswers) hreturned.switched.hasController hback hmarked',
            trans_of (EvaluatesAt home) hlog₃ hreturned.switched.evaluatesAt⟩

/-! ### The sections in the current context -/

theorem stays_registerQuery (command : String) (h : PyStr.startswith command "-data-list-register-" = true) :
    Within (Stays request home) (query command) := stays_query (harmless_of_startswith h (by decide))

theorem stays_getVariables {threadId : Option Int} {frame : Int} (hthread : ∀ t, threadId = some t → t = home.thread)
    (hframe : frame = home.frame) :
    Within (Stays request home) (getVariables threadId frame : SessionM Debugger _) := by
  refine stays_inspecting hthread (fun _ hf => (Option.some.inj hf).symm.trans hframe) fun selection => ?_
  exact stays_queryThen (harmless_of_startswith (p := "-stack-list-variables") rfl (by decide)) fun _ => Within.pure _

theorem stays_getRegisters {threadId frame : Option Int} (hthread : ∀ t, threadId = some t → t = home.thread)
    (hframe : ∀ f, frame = some f → f = home.frame) (a : RegisterFilter) :
    Within (Stays request home) (getRegisters threadId frame a : SessionM Debugger _) :=
  stays_inspecting hthread hframe fun _ => within_queryRegisters stays_narrow stays_registerQuery a

theorem stays_evaluateExpression {threadId frame : Option Int} (hthread : ∀ t, threadId = some t → t = home.thread)
    (hframe : ∀ f, frame = some f → f = home.frame) (expression : String) :
    Within (Stays request home) (evaluateExpression expression threadId frame : SessionM Debugger _) := by
  refine stays_inspecting hthread hframe fun _ => ?_
  exact stays_queryThen (harmless_append "-data-evaluate-expression" rfl (by decide)) fun _ => Within.pure _

/-- An inspection in the frame that the runtime remembers at home. -/
theorem stays_inFrame {inspect : Option Int → SessionM Debugger α} (hrequest : request.includeRegisters = true ∨ request.expressions ≠ [])
    (hinspect : ∀ frame, (∀ f, frame = some f → f = home.frame) → Within (Stays request home) (inspect frame)) :
    Within (Stays request home) (read SessionRuntime.currentFrame >>= inspect) := by
  refine stays_of_home fun s hs => ?_
  rw [wp_bind, read, wp_gets]
  exact (hinspect _ (hs.fits.ofRegisters hrequest).2).outcome s

section Capture

variable {tools : CaptureTools Debugger} {bundleDir : Path}
  (hwrite : ∀ name, Within (Stays request home) (tools.writeText (artifactPath bundleDir name)))
include hwrite

theorem stays_captureFrame (progress : CaptureProgress) :
    Within (Stays request home) (captureFrame tools bundleDir request progress) :=
  Within.ite (stays_getFrameInfo.bind fun _ => within_writeResult hwrite _ _ _) (Within.pure _)

theorem stays_captureVariables {threadId : Option Int} {frame : Int}
    (hfits : request.includeVariables = true → (∀ t, threadId = some t → t = home.thread) ∧ frame = home.frame)
    (progress : CaptureProgress) :
    Within (Stays request home) (captureVariables tools bundleDir request threadId frame progress) := by
  rw [captureVariables]
  split
  · next hrequest =>
    obtain ⟨hthread, hframe⟩ := hfits hrequest
    exact (stays_getVariables hthread hframe).bind fun _ => within_writeResult hwrite _ _ _
  · exact Within.pure _

theorem stays_captureRegisters {threadId : Option Int}
    (hthread : request.includeRegisters = true → ∀ t, threadId = some t → t = home.thread) (progress : CaptureProgress) :
    Within (Stays request home) (captureRegisters tools bundleDir request threadId progress) := by
  rw [captureRegisters]
  split
  · next hrequest =>
    refine stays_inFrame (.inl hrequest) fun frame hframe => ?_
    exact (stays_getRegisters (hthread hrequest) hframe _).bind fun _ => within_writeResult hwrite _ _ _
  · exact Within.pure _

theorem stays_captureExpressions {threadId : Option Int}
    (hthread : request.expressions ≠ [] → ∀ t, threadId = some t → t = home.thread) (progress : CaptureProgress) :
    Within (Stays request home) (captureExpressions tools bundleDir request threadId progress) := by
  rw [captureExpressions]
  split
  · exact Within.pure _
  · next hrequest =>
    rw [List.isEmpty_iff] at hrequest
    have hfailures : ∀ expressions, Within (Stays request home) (expressionFailures threadId expressions) := by
      intro expressions
      induction expressions with
      | nil => exact Within.pure _
      | cons expression rest ih =>
          refine stays_inFrame (.inr hrequest) fun frame hframe => ?_
          exact (stays_evaluateExpression (hthread hrequest) hframe expression).bind fun _ => ih.bind fun _ => Within.pure _
    exact (hfailures _).bind fun _ => within_writeArtifact hwrite _ _ _

/-- The thread and the frame that are read at first still fit when they are used. -/
theorem stays_captureContext (progress : CaptureProgress) :
    Within (Stays request home) (captureContext tools bundleDir request progress) := by
  refine stays_of_home fun s hs => ?_
  rw [captureContext, read, wp_bind, wp_gets, read, wp_bind, wp_gets]
  refine ((stays_captureFrame hwrite _).bind fun _ => (stays_captureVariables hwrite hs.fits.ofVariables _).bind fun _ => ?_).outcome s
  refine (stays_captureRegisters hwrite (fun h => (hs.fits.ofRegisters (.inl h)).1) _).bind fun _ => ?_
  exact stays_captureExpressions hwrite (fun h => (hs.fits.ofRegisters (.inr h)).1) _

theorem stays_captureSections : Within (Stays request home) (captureSections tools bundleDir request) :=
  within_captureSections
    { status := stays_getStatus
      write := hwrite
      threads := stays_getThreads
      threadIds := fun _ => stays_narrow _
      backtrace := fun _ => stays_getBacktrace _ _
      memory := fun _ => stays_readMemory _ _ _
      context := stays_captureContext hwrite }

end Capture

end Session
end GdbMcp
