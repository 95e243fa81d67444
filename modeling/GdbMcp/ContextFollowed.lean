import GdbMcp.BaseTransition
import GdbMcp.ContextOperations
import GdbMcp.InspectionRestored

/-! The thread and the frame of a session over whole runs. Inspections go elsewhere and come back, so the selection of
the debugger is the one to which the client's own selects have led, in whatever order the requests come. -/

namespace GdbMcp

open Eff

/-- The requests about the context of a session: the inspections, and the selects that stay. -/
inductive ContextRequest where
  | inspect (op : Inspection)
  | getThreads
  | selectThread (threadId : Int)
  | selectFrame (frameNumber : Int)

/-- Serve a request; the value says whether it has succeeded. -/
def ContextRequest.perform {W : Type} [Gdb W] : ContextRequest → SessionM W Bool
  | inspect op => (·.isSuccess) <$> op.perform
  | getThreads => (·.isSuccess) <$> Session.getThreads
  | selectThread threadId => (·.isSuccess) <$> Session.selectThread threadId
  | selectFrame frameNumber => (·.isSuccess) <$> Session.selectFrame frameNumber

/-- The selection as the client knows it: its own selects move it where they have succeeded, and nothing else does.
Another thread is selected in its frame 0. -/
def Selection.follow (selection : Selection) : ContextRequest × Bool → Selection
  | (.selectThread thread, true) => { thread, frame := if thread = selection.thread then selection.frame else 0 }
  | (.selectFrame frame, true) => { selection with frame }
  | _ => selection

/-- At every selection to which it lets itself be led, the debugger reports the selection, and lets it be selected
again; the frame in its answer to the select of a thread is the one that is then selected. -/
structure Faithful (answers : Nat → String → Selection → Answer) (valid : Selection → Prop) : Prop where
  reports : ∀ home, valid home → Reports answers home
  moves : ∀ n line home, valid home → (answers n line home).accepted = true → valid (home.moved line)
  frame : ∀ n k home, valid home → (answers n (threadSelectCommand k) home).accepted = true →
    readFrameLevel ((answers n (threadSelectCommand k) home).payload.get "frame") =
      .ok (some (home.moved (threadSelectCommand k)).frame)

namespace Session

variable {s s' t : Session Debugger} {valid : Selection → Prop} {α β : Type}

/-! ### The debugger stays the same -/

/-- The session is attached still, to a debugger that answers as it did. -/
structure SameDebugger (s s' : Session Debugger) : Prop where
  answers : s'.gdb.answers = s.gdb.answers
  hasController : s'.runtime.hasController = true

theorem SameDebugger.trans (h : SameDebugger s s') (h' : SameDebugger s' t) : SameDebugger s t :=
  ⟨h'.answers.trans h.answers, h'.hasController⟩

theorem Attended.same (h : Attended s s') : SameDebugger s s' := ⟨h.answers, h.hasController⟩

theorem Switched.same (h : Switched s s') : SameDebugger s s' := ⟨h.answers, h.hasController⟩

variable {home : Selection}

/-- The queries behind a switch, and the way back. -/
theorem queries_conclude_same {policy : FailurePolicy} {changed : Bool}
    {queries : SessionM Debugger (OperationResult α)} (hqueries : Inspects queries)
    (hreports : Reports s.gdb.answers home) (hs : s.runtime.hasController = true)
    (hunchanged : changed = false → s.gdb.selection = home) :
    wp (queries >>= concludeInspection policy (some home.snapshot) changed) (fun _ s' => SameDebugger s s')
      (fun _ _ => True) s := by
  rw [wp_bind]
  refine wp_mono (hqueries.outcome s hs) (fun result t h => ?_) fun _ _ h => h
  have hreports' : Reports t.gdb.answers home := h.1.answers ▸ hreports
  refine wp_mono (concludeInspection_spec policy result hreports' h.1.hasController fun hc =>
    h.1.selection.trans (hunchanged hc)) (fun _ s' hs' => ?_) fun _ _ h => h.elim
  exact h.1.same.trans hs'.2.1.switched.same

/-- Queries where the session stands. -/
theorem queries_stay_same {policy : FailurePolicy} {queries : SessionM Debugger (OperationResult α)}
    (hqueries : Inspects queries) (hs : s.runtime.hasController = true) :
    wp (queries >>= concludeInspection policy none false) (fun _ s' => SameDebugger s s') (fun _ _ => True) s := by
  rw [wp_bind]
  refine wp_mono (hqueries.outcome s hs) (fun result t h => ?_) fun _ _ h => h
  cases result with
  | success => exact h.1.same
  | error =>
      cases policy with
      | restoreAlways => exact h.1.same
      | restoreIfChanged => exact h.1.same

theorem inspecting_same {queries : Option SelectionSnapshot → SessionM Debugger (OperationResult α)}
    (hqueries : ∀ selection, Inspects (queries selection)) (policy : FailurePolicy) (captures : Bool)
    (threadId frame : Option Int) (hreports : Reports s.gdb.answers s.gdb.selection)
    (hs : s.runtime.hasController = true) :
    wp (inspecting policy captures threadId frame queries) (fun _ s' => SameDebugger s s') (fun _ _ => True) s := by
  rw [inspecting, wp_bind]
  refine wp_mono (captureIf_spec captures hreports hs) (fun result s₁ h => ?_) fun _ _ h => h.elim
  obtain ⟨h, hcaptured⟩ := h
  cases result with
  | error => exact h.same
  | success selection _ =>
      have hcaptured := hcaptured _ _ rfl
      cases captures with
      | false =>
          obtain rfl : selection = none := hcaptured
          exact wp_mono (queries_stay_same (hqueries none) h.hasController) (fun _ _ h' => h.same.trans h') fun _ _ h => h
      | true =>
          obtain ⟨rfl, -, -⟩ := hcaptured
          change wp (selectForInspection (some s.gdb.selection.snapshot) threadId frame >>= _) _ _ s₁
          rw [wp_bind, ← h.selection]
          refine wp_mono (selectForInspection_spec threadId frame h.hasController) (fun outcome s₂ h₂ => ?_)
            fun _ _ h => h.elim
          obtain ⟨⟨changed, selected⟩, hthere, -, hunchanged, -⟩ := outcome, h₂
          have hreports₂ : Reports s₂.gdb.answers s₁.gdb.selection := by
            rw [hthere.answers, h.answers, h.selection]
            exact hreports
          have hsame := h.same.trans hthere.same
          cases selected with
          | error =>
              exact wp_mono (selectionErrorWithRestore_spec hreports₂ hthere.hasController)
                (fun _ _ h' => hsame.trans h'.2.1.switched.same) fun _ _ h => h.elim
          | success =>
              exact wp_mono (queries_conclude_same (hqueries _) hreports₂ hthere.hasController hunchanged)
                (fun _ _ h' => hsame.trans h') fun _ _ h => h

theorem getBacktrace_same (threadId : Option Int) (maxFrames : Int) (hreports : Reports s.gdb.answers s.gdb.selection)
    (hs : s.runtime.hasController = true) :
    wp (getBacktrace threadId maxFrames) (fun _ s' => SameDebugger s s') (fun _ _ => True) s := by
  rw [getBacktrace, wp_bind]
  refine wp_mono (captureIf_spec threadId.isSome hreports hs) (fun result s₁ h => ?_) fun _ _ h => h.elim
  obtain ⟨h, hcaptured⟩ := h
  cases result with
  | error => exact h.same
  | success selection _ =>
      have hcaptured := hcaptured _ _ rfl
      cases threadId with
      | none =>
          obtain rfl : selection = none := hcaptured
          exact wp_mono (queries_stay_same (inspects_queryFrames none maxFrames) h.hasController)
            (fun _ _ h' => h.same.trans h') fun _ _ h => h
      | some threadId =>
          obtain ⟨rfl, -, -⟩ := hcaptured
          change wp (selectUnlessCurrent threadSelectCommand (some s.gdb.selection.thread) (some threadId) false >>= _)
            _ _ s₁
          rw [wp_bind]
          refine wp_mono (selectUnlessCurrent_spec selects_thread _ _ _ h.hasController) (fun outcome s₂ h₂ => ?_)
            fun _ _ h => h.elim
          obtain ⟨⟨switched, selected⟩, hthere, -, hunchanged, -, -⟩ := outcome, h₂
          have hsame := h.same.trans hthere.same
          cases selected with
          | error => exact hsame
          | success =>
              have hreports₂ : Reports s₂.gdb.answers s.gdb.selection := hsame.answers ▸ hreports
              exact wp_mono (queries_conclude_same (inspects_queryFrames _ maxFrames) hreports₂ hthere.hasController
                fun hc => (hunchanged hc).2.trans h.selection) (fun _ _ h' => hsame.trans h') fun _ _ h => h

theorem perform_same (op : Inspection) (hreports : Reports s.gdb.answers s.gdb.selection)
    (hs : s.runtime.hasController = true) :
    wp op.perform (fun _ s' => SameDebugger s s') (fun _ _ => True) s := by
  cases op with
  | evaluateExpression expression threadId frame =>
      exact inspecting_same (fun _ => inspects_queryExpression expression) _ _ _ _ hreports hs
  | getVariables threadId frame =>
      exact inspecting_same (fun _ => inspects_query_then
        (harmless_of_startswith (p := "-stack-list-variables") rfl (by decide)) fun _ => .pure _) _ _ _ _ hreports hs
  | getRegisters threadId frame filter =>
      exact inspecting_same (fun _ => inspects_queryRegisters filter) _ _ _ _ hreports hs
  | getBacktrace threadId maxFrames => exact getBacktrace_same threadId maxFrames hreports hs
  | getFrameInfo threadId frame => exact inspecting_same (fun _ => inspects_queryFrameInfo) _ _ _ _ hreports hs
  | disassemble args =>
      change wp (disassemble args) _ _ s
      rw [disassemble]
      cases args.isCurrent with
      | true => exact inspecting_same (inspects_disassembleCurrent args) _ _ _ _ hreports hs
      | false => exact wp_mono ((inspects_disassembleAt args).outcome s hs) (fun _ _ h => h.1.same) fun _ _ h => h
  | getSourceContext files args =>
      change wp (getSourceContext files args) _ _ s
      rw [getSourceContext]
      cases args.isCurrent with
      | true => exact inspecting_same (inspects_sourceCurrent files args) _ _ _ _ hreports hs
      | false => exact wp_mono ((attends_sourceAt files args).outcome s) (fun _ _ h => (h hs).same) fun _ _ _ => trivial

/-! ### One request -/

/-- The session is attached to a faithful debugger, and agrees with it on the selection, which is the given one. -/
structure SelectedAt (valid : Selection → Prop) (s : Session Debugger) (selection : Selection) : Prop where
  hasController : s.runtime.hasController = true
  faithful : Faithful s.gdb.answers valid
  valid : valid selection
  selection : s.gdb.selection = selection
  marked : s.Marked

theorem SelectedAt.reports (h : SelectedAt valid s home) : Reports s.gdb.answers s.gdb.selection := by
  rw [h.selection]
  exact h.faithful.reports home h.valid

theorem SelectedAt.attended (h : SelectedAt valid s home) (hs' : Attended s s') : SelectedAt valid s' home where
  hasController := hs'.hasController
  faithful := hs'.answers ▸ h.faithful
  valid := h.valid
  selection := hs'.selection.trans h.selection
  marked := hs'.marked h.reports h.marked

theorem inspect_at (op : Inspection) (h : SelectedAt valid s home) :
    wp op.perform (fun _ s' => SelectedAt valid s' home) (fun _ _ => True) s := by
  refine wp_mono (wp_and (op.wp_perform h.reports h.hasController) (perform_same op h.reports h.hasController))
    (fun _ s' hs' => ?_) fun _ _ _ => trivial
  obtain ⟨⟨hrestored, -⟩, hsame⟩ := hs'
  exact ⟨hsame.hasController, hsame.answers ▸ h.faithful, h.valid, hrestored.selection.trans h.selection,
    hrestored.marked h.marked⟩

theorem getThreads_at (h : SelectedAt valid s home) : wp getThreads (fun _ s' => SelectedAt valid s' home) (fun _ _ => True) s := by
  have hattends : Within Attends getThreads := by
    refine attends_query_then (harmless_of_startswith (p := "-thread-info") rfl (by decide)) fun info => ?_
    split
    · exact .pure _
    · exact .pure _
  exact wp_mono (hattends.outcome s) (fun _ _ hs' => h.attended (hs' h.hasController)) fun _ _ _ => trivial

/-- The runtime takes over the frame that the answer names, and the thread that was asked for. -/
theorem selectThread_at (threadId : Int) (h : SelectedAt valid s home) :
    wp (selectThread threadId) (fun result s' => SelectedAt valid s' (home.follow (.selectThread threadId, result.isSuccess)))
      (fun _ _ => True) s := by
  rw [selectThread, wp_bind]
  refine wp_mono (query_mi h.hasController (selects_thread.mi threadId)) (fun result s₁ hs₁ => ?_) fun _ _ h => h.elim
  obtain ⟨hsent, hsuccess, hpayload⟩ := hs₁
  have hanswers : s₁.gdb.answers = s.gdb.answers := by
    rw [hsent.gdb]
    rfl
  have hfaithful : Faithful s₁.gdb.answers valid := hanswers ▸ h.faithful
  rw [answerTo, Debugger.answer, h.selection] at hsuccess hpayload
  cases result with
  | error =>
      have hkept : s₁.gdb.selection = home := by
        rw [hsent.gdb, Debugger.asked, Debugger.answer, h.selection, ← hsuccess]
        rfl
      refine ⟨hsent.hasController, hfaithful, h.valid, hkept, ?_⟩
      rw [Marked, hsent.marks, h.marked, h.selection, hkept]
  | success info warnings =>
      have haccepted := hsuccess.symm
      have hmoved : s₁.gdb.selection = home.moved (threadSelectCommand threadId) := by
        rw [hsent.gdb, Debugger.asked, Debugger.answer, h.selection, haccepted]
        rfl
      have hlevel := h.faithful.frame _ threadId home h.valid haccepted
      rw [← hpayload info warnings rfl] at hlevel
      have hdict : ((extractMiResultPayload info).get "frame").isDict = true := by
        by_contra hnot
        rw [readFrameLevel, if_neg hnot] at hlevel
        cases hlevel
      rw [readFrameLevel, if_pos hdict] at hlevel
      change wp (markSelectedFrame _ >>= _) _ _ s₁
      rw [wp_bind, markSelectedFrame, if_pos hdict, hlevel]
      have hfollow : home.follow (.selectThread threadId, true) = home.moved (threadSelectCommand threadId) :=
        (home.moved_threadSelect threadId).symm
      refine ⟨hsent.hasController, hfaithful, ?_, hmoved.trans hfollow.symm, ?_⟩
      · exact hfollow ▸ h.faithful.moves _ _ home h.valid haccepted
      · change (some threadId, some (home.moved (threadSelectCommand threadId)).frame) =
          (some s₁.gdb.selection.thread, some s₁.gdb.selection.frame)
        rw [hmoved, Selection.moved_threadSelect]

/-- What the debugger then says about the frame does not matter. -/
theorem selectFrame_at (frameNumber : Int) (h : SelectedAt valid s home) :
    wp (selectFrame frameNumber) (fun result s' => SelectedAt valid s' (home.follow (.selectFrame frameNumber, result.isSuccess)))
      (fun _ _ => True) s := by
  rw [selectFrame, wp_bind]
  refine wp_mono (query_mi h.hasController (selects_frame.mi frameNumber)) (fun result s₁ hs₁ => ?_) fun _ _ h => h.elim
  obtain ⟨hsent, hsuccess, -⟩ := hs₁
  have hanswers : s₁.gdb.answers = s.gdb.answers := by
    rw [hsent.gdb]
    rfl
  have hfaithful : Faithful s₁.gdb.answers valid := hanswers ▸ h.faithful
  rw [answerTo, Debugger.answer, h.selection] at hsuccess
  cases result with
  | error =>
      have hkept : s₁.gdb.selection = home := by
        rw [hsent.gdb, Debugger.asked, Debugger.answer, h.selection, ← hsuccess]
        rfl
      refine ⟨hsent.hasController, hfaithful, h.valid, hkept, ?_⟩
      rw [Marked, hsent.marks, h.marked, h.selection, hkept]
  | success info _ =>
      have haccepted := hsuccess.symm
      have hmoved : s₁.gdb.selection = home.moved (frameSelectCommand frameNumber) := by
        rw [hsent.gdb, Debugger.asked, Debugger.answer, h.selection, haccepted]
        rfl
      have hvalid := h.faithful.moves _ _ home h.valid haccepted
      rw [Selection.moved_frameSelect] at hmoved hvalid
      have hthread : s₁.runtime.currentThreadId = some home.thread := by
        rw [← h.selection]
        exact congrArg Prod.fst (hsent.marks.trans h.marked)
      let s₂ : Session Debugger := { s₁ with runtime := s₁.runtime.markFrameSelected (some frameNumber) }
      have hs₂ : SelectedAt valid s₂ { home with frame := frameNumber } := by
        refine ⟨hsent.hasController, hfaithful, hvalid, hmoved, ?_⟩
        change (s₁.runtime.currentThreadId, some frameNumber) =
          (some s₁.gdb.selection.thread, some s₁.gdb.selection.frame)
        rw [hthread, hmoved]
      change wp (query "-stack-info-frame" >>= _) _ _ s₂
      rw [wp_bind]
      refine wp_mono (query_attended (harmless_of_startswith (p := "-stack-info-frame") rfl (by decide)) hsent.hasController)
        (fun result s₃ hs₃ => ?_) fun _ _ h => h.elim
      have hs₃ := hs₂.attended hs₃.1
      cases result with
      | error => exact hs₃
      | success => exact hs₃

/-- A request does with the selection what the client knows of it. -/
theorem request_at (request : ContextRequest) (h : SelectedAt valid s home) :
    wp request.perform (fun ok s' => SelectedAt valid s' (home.follow (request, ok))) (fun _ _ => True) s := by
  cases request with
  | inspect op => exact (wp_map _ _).mpr (inspect_at op h)
  | getThreads => exact (wp_map _ _).mpr (getThreads_at h)
  | selectThread threadId => exact (wp_map _ _).mpr (selectThread_at threadId h)
  | selectFrame frameNumber => exact (wp_map _ _).mpr (selectFrame_at frameNumber h)

/-- A request returns, with the given success. -/
def Performs (s : Session Debugger) (request : ContextRequest × Bool) (s' : Session Debugger) : Prop :=
  request.1.perform.run s = (.ok request.2, s')

end Session

/-! ### Runs of requests -/

/-- A debugger that accepts every command, and reports what is then selected. -/
def leadingSelection (n : Nat) (line : String) (selection : Selection) : Answer :=
  reportingSelection n line (selection.moved line)

theorem faithful_leadingSelection : Faithful leadingSelection fun _ => True where
  reports home _ := by
    have hmoved : ∀ line, isSelect line = false → home.moved line = home := fun _ => home.moved_of_not_isSelect
    refine ⟨fun n _ => ?_, fun n _ => ?_, fun _ _ => rfl, fun _ _ _ => rfl⟩
    · rw [leadingSelection, hmoved _ (by decide)]
      rfl
    · rw [leadingSelection, hmoved _ (by decide)]
      rfl
  moves _ _ _ _ _ := trivial
  frame _ _ _ _ _ := rfl

/-- A session with such a debugger, in frame 0 of thread 1. -/
def leadingSession : Session Debugger where
  runtime := { transport := { controller := some {} }, currentThreadId := some 1, currentFrame := some 0 }
  gdb := { answers := leadingSelection, selection := { thread := 1, frame := 0 } }

end GdbMcp
