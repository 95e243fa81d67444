import GdbMcp.InspectionAttended

/-! An inspection leaves the selection as it was, whatever its outcome. The flag `changed` is clear only
where no select was accepted; everywhere else the way back is taken. -/

namespace GdbMcp

open Eff

namespace Session

variable {s s' : Session Debugger} {home : Selection} {α : Type}

/-- The debugger is back at a selection, and only selects have led there. -/
structure Returned (home : Selection) (s s' : Session Debugger) : Prop where
  selection : s'.gdb.selection = home
  switched : Switched s s'
  marked : s.gdb.selection = home → s.Marked → s'.Marked

theorem Returned.refl (hs : s.runtime.hasController = true) (hselection : s.gdb.selection = home) :
    Returned home s s :=
  ⟨hselection, .refl hs, fun _ h => h⟩

theorem restoreSelection_returned (hreports : Reports s.gdb.answers home) (hs : s.runtime.hasController = true) :
    wp (restoreSelection home.snapshot)
      (fun result s' => result.isSuccess = true ∧ Returned home s s' ∧ s'.Marked) (fun _ _ => False) s :=
  wp_mono (restoreSelection_spec hreports hs)
    (fun _ _ ⟨hsuccess, hswitched, hselection, hmarked⟩ =>
      ⟨hsuccess, ⟨hselection, hswitched, fun _ _ => hmarked⟩, hmarked⟩) fun _ _ h => h

theorem selectionErrorWithRestore_spec {message : String} {fatal : Bool} {details : List (String × Value)}
    {code : String} (hreports : Reports s.gdb.answers home) (hs : s.runtime.hasController = true) :
    wp (selectionErrorWithRestore (some home.snapshot) message fatal details code)
      (fun (result : OperationResult α) s' => result.isSuccess = false ∧ Returned home s s' ∧ s'.Marked)
      (fun _ _ => False) s := by
  rw [selectionErrorWithRestore, wp_bind]
  refine wp_mono (restoreSelection_returned hreports hs) (fun result s' h => ?_) fun _ _ h => h
  obtain ⟨-, hreturned, hmarked⟩ := h
  cases result with
  | success => exact ⟨rfl, hreturned, hmarked⟩
  | error => exact ⟨rfl, hreturned, hmarked⟩

/-- Where the flag is clear, the selection has to be the one before. -/
theorem restoreSelectionIfChanged_spec {changed : Bool} (hreports : Reports s.gdb.answers home)
    (hs : s.runtime.hasController = true) (hunchanged : changed = false → s.gdb.selection = home) :
    wp (restoreSelectionIfChanged (some home.snapshot) changed)
      (fun result s' => result.isSuccess = true ∧ Returned home s s' ∧ (changed = true → s'.Marked))
      (fun _ _ => False) s := by
  cases changed with
  | false => exact ⟨rfl, .refl hs (hunchanged rfl), nofun⟩
  | true =>
      exact wp_mono (restoreSelection_returned hreports hs) (fun _ _ h => ⟨h.1, h.2.1, fun _ => h.2.2⟩)
        fun _ _ h => h

theorem concludeInspection_spec (policy : FailurePolicy) {changed : Bool} (result : OperationResult α)
    (hreports : Reports s.gdb.answers home) (hs : s.runtime.hasController = true)
    (hunchanged : changed = false → s.gdb.selection = home) :
    wp (concludeInspection policy (some home.snapshot) changed result)
      (fun result' s' => (result'.isSuccess = true → result.isSuccess = true) ∧ Returned home s s' ∧
        (changed = true → s'.Marked))
      (fun _ _ => False) s := by
  have hback : ∀ last : OperationResult α, (last.isSuccess = true → result.isSuccess = true) →
      wp (restoreSelectionIfChanged (some home.snapshot) changed >>= fun restored =>
          orReturn restored fun _ => pure last)
        (fun result' s' => (result'.isSuccess = true → result.isSuccess = true) ∧ Returned home s s' ∧
          (changed = true → s'.Marked)) (fun _ _ => False) s := by
    intro last hlast
    rw [wp_bind]
    refine wp_mono (restoreSelectionIfChanged_spec hreports hs hunchanged) (fun restored s' h => ?_) fun _ _ h => h
    cases restored with
    | success => exact ⟨hlast, h.2⟩
    | error => exact ⟨nofun, h.2⟩
  cases result with
  | success value _ => exact hback _ fun _ => rfl
  | error message fatal details code =>
      cases policy with
      | restoreAlways =>
          refine wp_mono (selectionErrorWithRestore_spec hreports hs) (fun result' s' h => ?_) fun _ _ h => h
          exact ⟨fun h' => absurd (h.1.symm.trans h') nofun, h.2.1, fun _ => h.2.2⟩
      | restoreIfChanged => exact hback _ nofun

/-! ### Whole inspections -/

/-- The selection is the one before, and the runtime agrees with it if it did so before. -/
structure Restored (s s' : Session Debugger) : Prop where
  selection : s'.gdb.selection = s.gdb.selection
  marked : s.Marked → s'.Marked

theorem Attended.restored (hreports : Reports s.gdb.answers s.gdb.selection) (h : Attended s s') : Restored s s' :=
  ⟨h.selection, h.marked hreports⟩

theorem restored_of_attends {m : SessionM Debugger α} (hm : Within Attends m)
    (hreports : Reports s.gdb.answers s.gdb.selection) (hs : s.runtime.hasController = true) :
    wp m (fun _ s' => Restored s s') (fun _ _ => True) s :=
  wp_mono (hm.outcome s) (fun _ _ h => (h hs).restored hreports) fun _ _ _ => trivial

/-- The log of an inspection with a capture: the queries between the selects were asked at one selection. -/
structure Inspected (context : Selection) (s s' : Session Debugger) : Prop where
  log : ∃ there lines back,
    s'.gdb.log = s.gdb.log ++ ["-thread-info", "-stack-info-frame"].map (·, s.gdb.selection) ++
      (there ++ lines ++ back) ∧
    (∀ p ∈ there ++ back, isSelect p.1 = true) ∧ lines ≠ [] ∧
    ∀ p ∈ lines, isSelect p.1 = false ∧ p.2 = context

theorem captureIf_spec (captures : Bool) (hreports : Reports s.gdb.answers s.gdb.selection)
    (hs : s.runtime.hasController = true) :
    wp (captureIf captures)
      (fun result s₁ => Attended s s₁ ∧ ∀ selection warnings, result = .success selection warnings →
        if captures then selection = some s.gdb.selection.snapshot ∧ s₁.Marked ∧
          s₁.gdb.log = s.gdb.log ++ ["-thread-info", "-stack-info-frame"].map (·, s.gdb.selection)
        else selection = none)
      (fun _ _ => False) s := by
  cases captures with
  | false => exact ⟨.refl hs, fun _ _ heq => (OperationResult.success.inj heq).1.symm⟩
  | true =>
      change wp (captureSelection >>= fun result => orReturn result fun captured => pure (.success (some captured)))
        _ _ s
      rw [wp_bind]
      refine wp_mono (captureSelection_spec hreports hs) (fun result s₁ ⟨h, hcaptured⟩ => ?_) fun _ _ h => h
      cases result with
      | error => exact ⟨h, nofun⟩
      | success captured _ =>
          refine ⟨h, fun selection warnings heq => ?_⟩
          obtain ⟨rfl, hmarked, hlog⟩ := hcaptured _ _ rfl
          exact ⟨(OperationResult.success.inj heq).1.symm, hmarked, hlog⟩

/-- The queries behind a switch, and the way back. -/
theorem wp_queries_conclude {policy : FailurePolicy} {changed : Bool}
    {queries : SessionM Debugger (OperationResult α)} (hqueries : Inspects queries)
    (hreports : Reports s.gdb.answers home) (hs : s.runtime.hasController = true)
    (hunchanged : changed = false → s.gdb.selection = home) :
    wp (queries >>= concludeInspection policy (some home.snapshot) changed)
      (fun result s' => s'.gdb.selection = home ∧ ((changed = false → s.Marked) → s'.Marked) ∧
        (result.isSuccess = true → ∃ t, Attended s t ∧ s.gdb.log.length < t.gdb.log.length ∧ Switched t s'))
      (fun _ _ => True) s := by
  rw [wp_bind]
  refine wp_mono (hqueries.outcome s hs) (fun result t ⟨h, hlength⟩ => ?_) fun _ _ h => h
  have hreports' : Reports t.gdb.answers home := h.answers ▸ hreports
  refine wp_mono (concludeInspection_spec policy result hreports' h.hasController fun hc =>
    h.selection.trans (hunchanged hc)) (fun result' s' ⟨hsuccess, hreturned, hchanged⟩ => ?_) fun _ _ h => h.elim
  refine ⟨hreturned.selection, fun hmarked => ?_, fun h' => ⟨t, h, hlength (hsuccess h'), hreturned.switched⟩⟩
  cases changed with
  | true => exact hchanged rfl
  | false =>
      have hhome : s.gdb.selection = home := hunchanged rfl
      refine hreturned.marked (h.selection.trans hhome) (h.marked ?_ (hmarked rfl))
      rw [hhome]
      exact hreports

theorem Inspected.of_steps {s₁ s₂ t : Session Debugger} {context : Selection}
    (hcapture : s₁.gdb.log = s.gdb.log ++ ["-thread-info", "-stack-info-frame"].map (·, s.gdb.selection))
    (hthere : Switched s₁ s₂) (hcontext : s₂.gdb.selection = context) (hqueries : Attended s₂ t)
    (hlength : s₂.gdb.log.length < t.gdb.log.length) (hback : Switched t s') : Inspected context s s' := by
  obtain ⟨there, hthere, hthereSelects⟩ := hthere.log
  obtain ⟨lines, hlines, hlinesAt⟩ := hqueries.log
  obtain ⟨back, hback, hbackSelects⟩ := hback.log
  refine ⟨there, lines, back, ?_, List.forall_mem_append.mpr ⟨hthereSelects, hbackSelects⟩, ?_, ?_⟩
  · rw [hback, hlines, hthere, hcapture]
    simp only [List.append_assoc]
  · rintro rfl
    rw [hlines, List.append_nil] at hlength
    exact absurd hlength (lt_irrefl _)
  · rw [← hcontext]
    exact hlinesAt

/-- An inspection takes its way back on every path. -/
theorem wp_inspecting {policy : FailurePolicy} {captures : Bool} {thread frame : Option Int}
    {queries : Option SelectionSnapshot → SessionM Debugger (OperationResult α)}
    (hqueries : ∀ selection, Inspects (queries selection)) (hreports : Reports s.gdb.answers s.gdb.selection)
    (hs : s.runtime.hasController = true) :
    wp (inspecting policy captures thread frame queries)
      (fun result s' => Restored s s' ∧ (captures = true → result.isSuccess = true →
        Inspected (s.gdb.selection.towards thread frame) s s'))
      (fun _ _ => True) s := by
  rw [inspecting, wp_bind]
  refine wp_mono (captureIf_spec captures hreports hs) (fun result s₁ ⟨h, hcaptured⟩ => ?_) fun _ _ h => h.elim
  cases result with
  | error => exact ⟨h.restored hreports, fun _ => nofun⟩
  | success selection _ =>
      have hcaptured := hcaptured _ _ rfl
      cases captures with
      | false =>
          -- nothing is selected, and the queries run where the session stands
          obtain rfl : selection = none := hcaptured
          change wp (queries none >>= concludeInspection policy none false) _ _ s₁
          rw [wp_bind]
          refine wp_mono ((hqueries none).outcome s₁ h.hasController) (fun result s₂ ⟨h₂, _⟩ => ?_)
            fun _ _ _ => trivial
          have hrestored := (h.trans h₂).restored hreports
          cases result with
          | success => exact ⟨hrestored, nofun⟩
          | error =>
              cases policy with
              | restoreAlways => exact ⟨hrestored, nofun⟩
              | restoreIfChanged => exact ⟨hrestored, nofun⟩
      | true =>
          obtain ⟨rfl, hmarked, hlog⟩ := hcaptured
          change wp (selectForInspection (some s.gdb.selection.snapshot) thread frame >>= _) _ _ s₁
          rw [wp_bind, ← h.selection]
          refine wp_mono (selectForInspection_spec thread frame h.hasController) (fun outcome s₂ h₂ => ?_)
            fun _ _ h => h.elim
          obtain ⟨⟨changed, selected⟩, hthere, hmarks, hunchanged, hcontext⟩ := outcome, h₂
          have hreports₂ : Reports s₂.gdb.answers s₁.gdb.selection := by
            rw [hthere.answers, h.answers, h.selection]
            exact hreports
          cases selected with
          | error message fatal details code =>
              refine wp_mono (selectionErrorWithRestore_spec hreports₂ hthere.hasController)
                (fun result s' ⟨herror, hreturned, hmarked⟩ => ?_) fun _ _ h => h.elim
              refine ⟨⟨hreturned.selection.trans h.selection, fun _ => hmarked⟩, fun _ hsuccess => ?_⟩
              exact absurd (herror.symm.trans hsuccess) nofun
          | success =>
              refine wp_mono (wp_queries_conclude (hqueries _) hreports₂ hthere.hasController hunchanged)
                (fun result s' ⟨hselection, hmarked', hlines⟩ => ?_) fun _ _ h => h
              refine ⟨⟨hselection.trans h.selection, fun _ => hmarked' fun hc => ?_⟩, fun _ hsuccess => ?_⟩
              · rw [Marked, hmarks, hunchanged hc]
                exact hmarked
              · obtain ⟨t, hqueried, hlength, hback⟩ := hlines hsuccess
                exact .of_steps hlog hthere (hcontext rfl) hqueried hlength hback

/-- A backtrace switches the thread only, and leaves a rejected switch at that. -/
theorem getBacktrace_restored (threadId : Option Int) (maxFrames : Int)
    (hreports : Reports s.gdb.answers s.gdb.selection) (hs : s.runtime.hasController = true) :
    wp (getBacktrace threadId maxFrames) (fun _ s' => Restored s s') (fun _ _ => True) s := by
  rw [getBacktrace, wp_bind]
  refine wp_mono (captureIf_spec threadId.isSome hreports hs) (fun result s₁ h => ?_)
    fun _ _ h => h.elim
  obtain ⟨h, hcaptured⟩ := h
  cases result with
  | error => exact h.restored hreports
  | success selection _ =>
      have hcaptured := hcaptured _ _ rfl
      cases threadId with
      | none =>
          obtain rfl : selection = none := hcaptured
          change wp (queryFrames none maxFrames >>= concludeInspection .restoreIfChanged none false) _ _ s₁
          rw [wp_bind]
          refine wp_mono ((inspects_queryFrames none maxFrames).outcome s₁ h.hasController)
            (fun result s₂ h₂ => ?_) fun _ _ _ => trivial
          obtain ⟨h₂, _⟩ := h₂
          cases result with
          | success => exact (h.trans h₂).restored hreports
          | error => exact (h.trans h₂).restored hreports
      | some threadId =>
          obtain ⟨rfl, hmarked, -⟩ := hcaptured
          change wp (selectUnlessCurrent threadSelectCommand (some s.gdb.selection.thread) (some threadId) false >>= _)
            _ _ s₁
          rw [wp_bind]
          refine wp_mono (selectUnlessCurrent_spec selects_thread _ _ _ h.hasController)
            (fun outcome s₂ h₂ => ?_) fun _ _ h => h.elim
          obtain ⟨⟨switched, selected⟩, hthere, hmarks, hunchanged, -, hrejected⟩ := outcome, h₂
          have hhome : switched = false → s₂.gdb.selection = s.gdb.selection := fun hc =>
            (hunchanged hc).2.trans h.selection
          have hkept : switched = false → s₂.Marked := fun hc => by
            rw [Marked, hmarks, (hunchanged hc).2]
            exact hmarked
          cases selected with
          | error =>
              have hc : switched = false := hrejected rfl
              exact ⟨hhome hc, fun _ => hkept hc⟩
          | success =>
              have hreports₂ : Reports s₂.gdb.answers s.gdb.selection := by
                rw [hthere.answers, h.answers]
                exact hreports
              refine wp_mono (wp_queries_conclude (inspects_queryFrames _ maxFrames) hreports₂ hthere.hasController
                hhome) (fun result s' hback => ?_) fun _ _ h => h
              obtain ⟨hselection, hmarked', _⟩ := hback
              exact ⟨hselection, fun _ => hmarked' hkept⟩

end Session

/-! ### Every inspection -/

/-- The inspections, with their arguments. -/
inductive Inspection where
  | evaluateExpression (expression : String) (threadId frame : Option Int)
  | getVariables (threadId : Option Int) (frame : Int)
  | getRegisters (threadId frame : Option Int) (filter : RegisterFilter)
  | getBacktrace (threadId : Option Int) (maxFrames : Int)
  | getFrameInfo (threadId frame : Option Int)
  | disassemble (args : DisassembleArgs)
  | getSourceContext (files : Files) (args : SourceContextArgs)

namespace Inspection

def Result : Inspection → Type
  | evaluateExpression .. => ExpressionValueInfo
  | getVariables .. => VariablesInfo
  | getRegisters .. => RegistersInfo
  | getBacktrace .. => BacktraceInfo
  | getFrameInfo .. => FrameInfo
  | disassemble _ => DisassemblyInfo
  | getSourceContext .. => SourceContextInfo

def perform {W : Type} [Gdb W] : (op : Inspection) → SessionM W (OperationResult op.Result)
  | evaluateExpression expression threadId frame => Session.evaluateExpression expression threadId frame
  | getVariables threadId frame => Session.getVariables threadId frame
  | getRegisters threadId frame filter => Session.getRegisters threadId frame filter
  | getBacktrace threadId maxFrames => Session.getBacktrace threadId maxFrames
  | getFrameInfo threadId frame => Session.getFrameInfo threadId frame
  | disassemble args => Session.disassemble args
  | getSourceContext files args => Session.getSourceContext files args

/-- The inspection is asked to run in the given thread and frame. -/
def Requests (thread frame : Int) : Inspection → Prop
  | evaluateExpression _ threadId frame' => threadId = some thread ∧ frame' = some frame
  | getVariables threadId frame' => threadId = some thread ∧ frame' = frame
  | getRegisters threadId frame' _ => threadId = some thread ∧ frame' = some frame
  | getBacktrace .. => False
  | getFrameInfo threadId frame' => threadId = some thread ∧ frame' = some frame
  | disassemble args => args.isCurrent = true ∧ args.threadId = some thread ∧ args.frame = some frame
  | getSourceContext _ args => args.isCurrent = true ∧ args.threadId = some thread ∧ args.frame = some frame

/-- Every inspection takes its way back, and asks its queries behind the selects if it is to run in a given
thread and frame. -/
theorem wp_perform (op : Inspection) {s : Session Debugger} (hreports : Reports s.gdb.answers s.gdb.selection)
    (hs : s.runtime.hasController = true) :
    wp op.perform
      (fun result s' => Session.Restored s s' ∧ ∀ thread frame, op.Requests thread frame →
        result.isSuccess = true →
          Session.Inspected (s.gdb.selection.towards (some thread) (some frame)) s s')
      (fun _ _ => True) s := by
  cases op with
  | evaluateExpression expression threadId frame =>
      refine wp_mono (Session.wp_inspecting (fun _ => Session.inspects_queryExpression expression) hreports hs)
        (fun _ _ h => ⟨h.1, ?_⟩) fun _ _ h => h
      rintro t f ⟨rfl, rfl⟩
      exact h.2 rfl
  | getVariables threadId frame =>
      refine wp_mono (Session.wp_inspecting (fun _ => Session.inspects_query_then
        (harmless_of_startswith (p := "-stack-list-variables") rfl (by decide)) fun _ => .pure _) hreports hs)
        (fun _ _ h => ⟨h.1, ?_⟩) fun _ _ h => h
      rintro t f ⟨rfl, rfl⟩
      exact h.2 rfl
  | getRegisters threadId frame filter =>
      refine wp_mono (Session.wp_inspecting (fun _ => Session.inspects_queryRegisters filter) hreports hs)
        (fun _ _ h => ⟨h.1, ?_⟩) fun _ _ h => h
      rintro t f ⟨rfl, rfl⟩
      exact h.2 rfl
  | getBacktrace threadId maxFrames =>
      exact wp_mono (Session.getBacktrace_restored threadId maxFrames hreports hs)
        (fun _ _ h => ⟨h, fun _ _ => False.elim⟩) fun _ _ h => h
  | getFrameInfo threadId frame =>
      refine wp_mono (Session.wp_inspecting (fun _ => Session.inspects_queryFrameInfo) hreports hs)
        (fun _ _ h => ⟨h.1, ?_⟩) fun _ _ h => h
      rintro t f ⟨rfl, rfl⟩
      exact h.2 rfl
  | disassemble args =>
      change wp (Session.disassemble args) _ _ s
      rw [Session.disassemble]
      cases hcurrent : args.isCurrent with
      | true =>
          refine wp_mono (Session.wp_inspecting (Session.inspects_disassembleCurrent args) hreports hs)
            (fun _ _ h => ⟨h.1, ?_⟩) fun _ _ h => h
          rintro t f ⟨-, ht, hf⟩
          rw [ht, hf] at h
          exact h.2 rfl
      | false =>
          refine wp_mono ((Session.inspects_disassembleAt args).outcome s hs)
            (fun _ _ h => ⟨h.1.restored hreports, ?_⟩) fun _ _ h => h
          rintro t f ⟨h, -⟩
          exact absurd (hcurrent.symm.trans h) nofun
  | getSourceContext files args =>
      change wp (Session.getSourceContext files args) _ _ s
      rw [Session.getSourceContext]
      cases hcurrent : args.isCurrent with
      | true =>
          refine wp_mono (Session.wp_inspecting (Session.inspects_sourceCurrent files args) hreports hs)
            (fun _ _ h => ⟨h.1, ?_⟩) fun _ _ h => h
          rintro t f ⟨-, ht, hf⟩
          rw [ht, hf] at h
          exact h.2 rfl
      | false =>
          refine wp_mono (Session.restored_of_attends (Session.attends_sourceAt files args) hreports hs)
            (fun _ _ h => ⟨h, ?_⟩) fun _ _ h => h
          rintro t f ⟨h, -⟩
          exact absurd (hcurrent.symm.trans h) nofun

end Inspection

/-- An inspection leaves the thread and the frame selected that were selected before, and the runtime in
agreement with them if it was so before. -/
theorem inspection_restores_selection (op : Inspection) {s : Session Debugger}
    (hreports : Reports s.gdb.answers s.gdb.selection) (hs : s.runtime.hasController = true) :
    wp op.perform (fun _ s' => s'.gdb.selection = s.gdb.selection ∧ (s.Marked → s'.Marked)) (fun _ _ => True) s :=
  wp_mono (op.wp_perform hreports hs) (fun _ _ h => ⟨h.1.selection, h.1.marked⟩) fun _ _ h => h

/-- A debugger that accepts every command, and reports what is selected. -/
def reportingSelection (_ : Nat) (_ : String) (selection : Selection) : Answer where
  payload := .dict [("current-thread-id", .int selection.thread),
    ("frame", .dict [("level", .int selection.frame)]), ("value", .str "42")]

/-- A session with such a debugger. -/
def reportingSession (selection : Selection) : Session Debugger where
  runtime := { transport := { controller := some {} } }
  gdb := { answers := reportingSelection, selection }

theorem reports_reportingSelection (home : Selection) : Reports reportingSelection home where
  thread _ _ := rfl
  frame _ _ := rfl
  selectThread _ _ := rfl
  selectFrame _ _ _ := rfl

theorem inspection_restores_selection_otherThread :
    wp (Inspection.evaluateExpression "total" (some 2) (some 3)).perform
      (fun _ s' => s'.gdb.selection = { thread := 1, frame := 0 } ∧
        ((reportingSession { thread := 1, frame := 0 }).Marked → s'.Marked))
      (fun _ _ => True) (reportingSession { thread := 1, frame := 0 }) :=
  inspection_restores_selection (.evaluateExpression "total" (some 2) (some 3))
    (s := reportingSession { thread := 1, frame := 0 }) (reports_reportingSelection _) rfl

end GdbMcp
