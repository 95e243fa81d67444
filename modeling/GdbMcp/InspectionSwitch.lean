import GdbMcp.InspectionCommands

/-! The way of an inspection to the requested context and back. The queries attend to the selection they
find; the selects before them lead to the requested context, and those behind them to the one before. -/

namespace GdbMcp

open Eff

/-- The debugger reports the selection, and lets it be selected again. -/
structure Reports (answers : Nat → String → Selection → Answer) (home : Selection) : Prop where
  thread : ∀ n, (answers n "-thread-info" home).accepted = true →
    asInt ((answers n "-thread-info" home).payload.get "current-thread-id") = .ok (some home.thread)
  frame : ∀ n, (answers n "-stack-info-frame" home).accepted = true →
    readFrameLevel ((answers n "-stack-info-frame" home).payload.get "frame") = .ok (some home.frame)
  selectThread : ∀ n selection, (answers n (threadSelectCommand home.thread) selection).accepted = true
  selectFrame : ∀ n selection, selection.thread = home.thread →
    (answers n (frameSelectCommand home.frame) selection).accepted = true

/-- The selection behind the selects of an inspection: a frame that is current already is not selected
again, not even in another thread. -/
def Selection.towards (home : Selection) (thread frame : Option Int) : Selection :=
  let inThread := thread.elim home fun t => if t = home.thread then home else { thread := t, frame := 0 }
  frame.elim inThread fun f => if f = home.frame then inThread else { inThread with frame := f }

/-- The snapshot of a selection. -/
def Selection.snapshot (home : Selection) : SelectionSnapshot where
  threadId := some home.thread
  frameNumber := some home.frame

namespace Session

variable {s s' t : Session Debugger} {α β : Type}

/-- The runtime takes the selected thread and frame for the selected ones. -/
def Marked (s : Session Debugger) : Prop :=
  s.marks = (some s.gdb.selection.thread, some s.gdb.selection.frame)

/-! ### Queries -/

/-- Queries at the selection, which they leave as it is. -/
structure Attended (s s' : Session Debugger) : Prop where
  answers : s'.gdb.answers = s.gdb.answers
  selection : s'.gdb.selection = s.gdb.selection
  log : ∃ lines, s'.gdb.log = s.gdb.log ++ lines ∧ ∀ p ∈ lines, isSelect p.1 = false ∧ p.2 = s.gdb.selection
  hasController : s'.runtime.hasController = true
  marked : Reports s.gdb.answers s.gdb.selection → s.Marked → s'.Marked

theorem Attended.refl (h : s.runtime.hasController = true) : Attended s s :=
  ⟨rfl, rfl, ⟨[], by simp⟩, h, fun _ h => h⟩

theorem Attended.trans (h : Attended s s') (h' : Attended s' t) : Attended s t := by
  obtain ⟨lines, hlog, hlines⟩ := h.log
  obtain ⟨lines', hlog', hlines'⟩ := h'.log
  refine ⟨h'.answers.trans h.answers, h'.selection.trans h.selection, ⟨lines ++ lines', ?_, ?_⟩,
    h'.hasController, fun hreports hmarked => ?_⟩
  · rw [hlog', hlog, List.append_assoc]
  · intro p hp
    rcases List.mem_append.mp hp with hp | hp
    · exact hlines p hp
    · rw [← h.selection]
      exact hlines' p hp
  · refine h'.marked ?_ (h.marked hreports hmarked)
    rw [h.answers, h.selection]
    exact hreports

/-- With a controller, queries at the selection lead from one session to the other. -/
def Attends (s s' : Session Debugger) : Prop := s.runtime.hasController = true → Attended s s'

instance : Std.Refl Attends := ⟨fun _ h => .refl h⟩

instance : IsTrans (Session Debugger) Attends :=
  ⟨fun _ _ _ h h' hs => (h hs).trans (h' (h hs).hasController)⟩

theorem Sent.attended {line : String} (h : Sent s line s') (hline : isSelect line = false) : Attended s s' := by
  have hselection : s'.gdb.selection = s.gdb.selection := by
    rw [h.gdb, Debugger.asked, Selection.moved_of_not_isSelect _ hline]
    exact ite_self _
  refine ⟨by rw [h.gdb]; rfl, hselection, ⟨[(line, s.gdb.selection)], by rw [h.gdb]; rfl, ?_⟩, h.hasController, ?_⟩
  · exact List.forall_mem_singleton.mpr ⟨hline, rfl⟩
  · intro _ hmarked
    rw [Marked, h.marks, hselection]
    exact hmarked

theorem query_attended {command : String} (hcommand : Harmless command) (hs : s.runtime.hasController = true) :
    wp (query command)
      (fun _ s' => Attended s s' ∧ s'.gdb.log.length = s.gdb.log.length + 1) (fun _ _ => False) s := by
  refine wp_mono (query_asked hs hcommand.silent) (fun _ s' h => ⟨h.1.sent.attended hcommand.noSelect, ?_⟩)
    fun _ _ h => h
  rw [h.1.gdb, Debugger.asked, List.length_append]
  rfl

theorem attends_query {command : String} (hcommand : Harmless command) : Within Attends (query command) := by
  refine ⟨fun s => ?_⟩
  by_cases hs : s.runtime.hasController = true
  · exact wp_mono (query_attended hcommand hs) (fun _ _ h _ => h.1) fun _ _ h => h.elim
  · exact wp_mono (wp_true _ s) (fun _ _ _ h => absurd h hs) fun _ _ _ h => absurd h hs

theorem attends_narrow (x : Except PyError α) : Within Attends (narrow x : SessionM Debugger α) := by
  refine ⟨fun s => ?_⟩
  rw [narrow, onRuntime, wp_zoom, wp_ofExcept]
  exact ⟨fun _ _ => refl_of Attends s, fun _ _ => refl_of Attends s⟩

/-- Queries that attend to the selection, at least one of them where they succeed. -/
structure Inspects (queries : SessionM Debugger (OperationResult α)) : Prop where
  outcome : ∀ s : Session Debugger, s.runtime.hasController = true →
    wp queries
      (fun result s' => Attended s s' ∧ (result.isSuccess = true → s.gdb.log.length < s'.gdb.log.length))
      (fun _ _ => True) s

theorem Attended.length_le (h : Attended s s') : s.gdb.log.length ≤ s'.gdb.log.length := by
  obtain ⟨lines, hlog, -⟩ := h.log
  rw [hlog, List.length_append]
  omega

theorem Inspects.query {command : String} (hcommand : Harmless command) : Inspects (Session.query command) := by
  refine ⟨fun s hs => ?_⟩
  refine wp_mono (query_attended hcommand hs) (fun _ s' ⟨h, hlength⟩ => ⟨h, fun _ => ?_⟩) fun _ _ _ => trivial
  omega

theorem Inspects.andThen {first : SessionM Debugger (OperationResult β)}
    {next : β → SessionM Debugger (OperationResult α)} (hfirst : Inspects first)
    (hnext : ∀ b, Within Attends (next b)) : Inspects (first >>= fun result => Session.orReturn result next) := by
  refine ⟨fun s hs => ?_⟩
  rw [wp_bind]
  refine wp_mono (hfirst.outcome s hs) (fun result s₁ ⟨h, hlength⟩ => ?_) fun _ _ _ => trivial
  cases result with
  | error => exact ⟨h, nofun⟩
  | success b _ =>
      refine wp_mono ((hnext b).outcome s₁) (fun _ s₂ h' => ?_) fun _ _ _ => trivial
      have h₂ := h' h.hasController
      refine ⟨h.trans h₂, fun _ => ?_⟩
      have := h₂.length_le
      have := hlength rfl
      omega

/-- Other queries come first. -/
theorem Inspects.bind {first : SessionM Debugger β} {next : β → SessionM Debugger (OperationResult α)}
    (hfirst : Within Attends first) (hnext : ∀ b, Inspects (next b)) : Inspects (first >>= next) := by
  refine ⟨fun s hs => ?_⟩
  rw [wp_bind]
  refine wp_mono (hfirst.outcome s) (fun b s₁ h => ?_) fun _ _ _ => trivial
  have h₁ := h hs
  refine wp_mono ((hnext b).outcome s₁ h₁.hasController) (fun _ s₂ ⟨h₂, hlength⟩ => ?_) fun _ _ _ => trivial
  refine ⟨h₁.trans h₂, fun hsuccess => ?_⟩
  have := h₁.length_le
  have := hlength hsuccess
  omega

theorem Inspects.failed {message : String} {fatal : Bool} {details : List (String × Value)} {code : String} :
    Inspects (pure (.error message fatal details code) : SessionM Debugger (OperationResult α)) :=
  ⟨fun _ hs => ⟨.refl hs, nofun⟩⟩

theorem Inspects.orReturn {result : OperationResult β} {next : β → SessionM Debugger (OperationResult α)}
    (hnext : ∀ b, Inspects (next b)) : Inspects (Session.orReturn result next) := by
  cases result with
  | success b _ => exact hnext b
  | error => exact .failed

/-! ### Selects -/

/-- Selects and nothing else. -/
structure Switched (s s' : Session Debugger) : Prop where
  answers : s'.gdb.answers = s.gdb.answers
  hasController : s'.runtime.hasController = true
  log : ∃ lines, s'.gdb.log = s.gdb.log ++ lines ∧ ∀ p ∈ lines, isSelect p.1 = true

theorem Switched.refl (h : s.runtime.hasController = true) : Switched s s := ⟨rfl, h, [], by simp⟩

theorem Switched.trans (h : Switched s s') (h' : Switched s' t) : Switched s t := by
  obtain ⟨lines, hlog, hlines⟩ := h.log
  obtain ⟨lines', hlog', hlines'⟩ := h'.log
  refine ⟨h'.answers.trans h.answers, h'.hasController, lines ++ lines', ?_, ?_⟩
  · rw [hlog', hlog, List.append_assoc]
  · intro p hp
    rcases List.mem_append.mp hp with hp | hp
    · exact hlines p hp
    · exact hlines' p hp

theorem Sent.switched {line : String} (h : Sent s line s') (hline : isSelect line = true) : Switched s s' :=
  ⟨by rw [h.gdb]; rfl, h.hasController, [(line, s.gdb.selection)], by rw [h.gdb]; rfl,
    List.forall_mem_singleton.mpr hline⟩

/-- A command that selects the thread or the frame with a given number. -/
structure Selects (command : Int → String) : Prop where
  mi : ∀ k, PyStr.startswith (command k) "-" = true
  selects : ∀ k, isSelect (command k) = true

theorem selects_thread : Selects threadSelectCommand where
  mi k := PyStr.startswith_trans (startswith_threadSelectCommand k) rfl
  selects k := by
    rw [isSelect, selectPrefixes, List.any_cons, startswith_threadSelectCommand]
    rfl

theorem selects_frame : Selects frameSelectCommand where
  mi k := PyStr.startswith_trans (startswith_frameSelectCommand k) rfl
  selects k := by
    rw [isSelect, selectPrefixes, List.any_cons, List.any_cons, startswith_frameSelectCommand]
    simp

/-- A select moves the selection where it is accepted, and the runtime does not see it. -/
theorem query_select {command : Int → String} (hcommand : Selects command) (k : Int)
    (hs : s.runtime.hasController = true) :
    wp (query (command k))
      (fun result s' => Switched s s' ∧ s'.marks = s.marks ∧
        result.isSuccess = (s.answerTo (command k)).accepted ∧
        s'.gdb.selection = if result.isSuccess then s.gdb.selection.moved (command k) else s.gdb.selection)
      (fun _ _ => False) s := by
  refine wp_mono (query_mi hs (hcommand.mi k)) (fun result s' ⟨hsent, hsuccess, _⟩ => ?_) fun _ _ h => h
  refine ⟨hsent.switched (hcommand.selects k), hsent.marks, hsuccess, ?_⟩
  rw [hsent.gdb, hsuccess]
  rfl

/-- What is current already is not selected, and the flag is set where a select was accepted. -/
theorem selectUnlessCurrent_spec {command : Int → String} (hcommand : Selects command) (current : Int)
    (requested : Option Int) (changed : Bool) (hs : s.runtime.hasController = true) :
    wp (selectUnlessCurrent command (some current) requested changed)
      (fun outcome s' => Switched s s' ∧ s'.marks = s.marks ∧
        (outcome.1 = false → changed = false ∧ s'.gdb.selection = s.gdb.selection) ∧
        (outcome.2.isSuccess = true → s'.gdb.selection = requested.elim s.gdb.selection fun k =>
          if k = current then s.gdb.selection else s.gdb.selection.moved (command k)) ∧
        (outcome.2.isSuccess = false → outcome.1 = changed))
      (fun _ _ => False) s := by
  cases requested with
  | none => exact ⟨.refl hs, rfl, fun h => ⟨h, rfl⟩, fun _ => rfl, nofun⟩
  | some k =>
      rw [selectUnlessCurrent]
      by_cases hk : k = current
      · subst hk
        rw [if_pos rfl]
        exact ⟨.refl hs, rfl, fun h => ⟨h, rfl⟩, fun _ => (if_pos rfl).symm, nofun⟩
      · rw [if_neg fun h => hk (Option.some.inj h).symm, wp_bind]
        refine wp_mono (query_select hcommand k hs) (fun result s' h => ?_) fun _ _ h => h
        obtain ⟨hswitched, hmarks, -, hselection⟩ := h
        cases result with
        | success info _ =>
            refine ⟨hswitched, hmarks, nofun, fun _ => ?_, nofun⟩
            rw [Option.elim_some, if_neg hk]
            exact hselection
        | error => exact ⟨hswitched, hmarks, fun h => ⟨h, hselection⟩, nofun, fun _ => rfl⟩

/-- The switch to the requested context. -/
theorem selectForInspection_spec (thread frame : Option Int) (hs : s.runtime.hasController = true) :
    wp (selectForInspection (some s.gdb.selection.snapshot) thread frame)
      (fun outcome s' => Switched s s' ∧ s'.marks = s.marks ∧
        (outcome.1 = false → s'.gdb.selection = s.gdb.selection) ∧
        (outcome.2.isSuccess = true → s'.gdb.selection = s.gdb.selection.towards thread frame))
      (fun _ _ => False) s := by
  change wp (selectUnlessCurrent threadSelectCommand (some s.gdb.selection.thread) thread false >>= fun outcome =>
    if outcome.2.isSuccess then
      selectUnlessCurrent frameSelectCommand (some s.gdb.selection.frame) frame outcome.1
    else pure (outcome.1, outcome.2)) _ _ s
  rw [wp_bind]
  refine wp_mono (selectUnlessCurrent_spec selects_thread _ _ _ hs) (fun outcome s₁ h => ?_) fun _ _ h => h
  obtain ⟨hswitched, hmarks, hunchanged, hthread, -⟩ := h
  cases hsuccess : outcome.2.isSuccess with
  | false => exact ⟨hswitched, hmarks, fun h => (hunchanged h).2, fun h => absurd (hsuccess.symm.trans h) nofun⟩
  | true =>
      refine wp_mono (selectUnlessCurrent_spec selects_frame _ _ _ hswitched.hasController)
        (fun outcome' s₂ h => ?_) fun _ _ h => h
      obtain ⟨hswitched', hmarks', hunchanged', hframe, -⟩ := h
      refine ⟨hswitched.trans hswitched', hmarks'.trans hmarks, fun h => ?_, fun h => ?_⟩
      · obtain ⟨hfirst, hsecond⟩ := hunchanged' h
        exact hsecond.trans (hunchanged hfirst).2
      · rw [hframe h, hthread hsuccess, Selection.towards]
        have hmoved : (thread.elim s.gdb.selection fun k =>
              if k = s.gdb.selection.thread then s.gdb.selection
              else s.gdb.selection.moved (threadSelectCommand k)) =
            thread.elim s.gdb.selection fun k =>
              if k = s.gdb.selection.thread then s.gdb.selection else { thread := k, frame := 0 } := by
          cases thread with
          | none => rfl
          | some k =>
              simp only [Option.elim_some, Selection.moved_threadSelect]
              split <;> rfl
        rw [hmoved]
        simp only [Selection.moved_frameSelect]

/-- The way back to what was captured, from any selection. -/
theorem restoreSelection_spec {home : Selection} (hreports : Reports s.gdb.answers home)
    (hs : s.runtime.hasController = true) :
    wp (restoreSelection home.snapshot)
      (fun result s' => result.isSuccess = true ∧ Switched s s' ∧ s'.gdb.selection = home ∧ s'.Marked)
      (fun _ _ => False) s := by
  rw [restoreSelection, wp_bind]
  change wp (query (threadSelectCommand home.thread) >>= _) _ _ s
  rw [wp_bind]
  refine wp_mono (query_select selects_thread home.thread hs) (fun result s₁ h => ?_) fun _ _ h => h
  obtain ⟨hswitched, -, hsuccess, hselection⟩ := h
  rw [show (s.answerTo (threadSelectCommand home.thread)).accepted = true from hreports.selectThread _ _]
    at hsuccess
  rw [hsuccess, if_pos rfl, Selection.moved_threadSelect] at hselection
  have hthread : s₁.gdb.selection.thread = home.thread := by rw [hselection]
  cases result with
  | error => exact nomatch hsuccess
  | success info _ =>
      change wp (query (frameSelectCommand home.frame) >>= _ >>= _) _ _ s₁
      rw [wp_bind, wp_bind]
      refine wp_mono (query_select selects_frame home.frame hswitched.hasController) (fun result s₂ h => ?_)
        fun _ _ h => h
      obtain ⟨hswitched', -, hsuccess', hselection'⟩ := h
      have haccepted : (s₁.answerTo (frameSelectCommand home.frame)).accepted = true := by
        rw [answerTo, Debugger.answer, hswitched.answers]
        exact hreports.selectFrame _ _ hthread
      rw [haccepted] at hsuccess'
      rw [hsuccess', if_pos rfl, Selection.moved_frameSelect] at hselection'
      cases result with
      | error => exact nomatch hsuccess'
      | success info' _ =>
          have hhome : s₂.gdb.selection = home := by
            rw [hselection', hthread]
          refine ⟨rfl, ?_, hhome, ?_⟩
          · exact ⟨(hswitched.trans hswitched').answers, (hswitched.trans hswitched').hasController,
              (hswitched.trans hswitched').log⟩
          · change (some home.thread, some home.frame) =
              (some s₂.gdb.selection.thread, some s₂.gdb.selection.frame)
            rw [hhome]

/-- The capture of a selection that the debugger reports. -/
theorem captureSelection_spec (hreports : Reports s.gdb.answers s.gdb.selection)
    (hs : s.runtime.hasController = true) :
    wp captureSelection
      (fun result s' => Attended s s' ∧ ∀ snapshot warnings, result = .success snapshot warnings →
        snapshot = s.gdb.selection.snapshot ∧ s'.Marked ∧
          s'.gdb.log = s.gdb.log ++ ["-thread-info", "-stack-info-frame"].map (·, s.gdb.selection))
      (fun _ _ => False) s := by
  rw [captureSelection, wp_bind]
  refine wp_mono (query_mi hs (by decide)) (fun result s₁ h => ?_) fun _ _ h => h
  obtain ⟨hsent, hsuccess, hpayload⟩ := h
  have hattended := hsent.attended (by decide)
  cases result with
  | error => exact ⟨hattended, nofun⟩
  | success info _ =>
      have hthread : asInt ((extractMiResultPayload info).get "current-thread-id") =
          .ok (some s.gdb.selection.thread) := by
        rw [hpayload _ _ rfl]
        exact hreports.thread _ hsuccess.symm
      change wp (narrow (asInt ((extractMiResultPayload info).get "current-thread-id")) >>= _) _ _ s₁
      rw [hthread, wp_bind]
      change wp (query "-stack-info-frame" >>= _) _ _ s₁
      rw [wp_bind]
      refine wp_mono (query_mi hattended.hasController (by decide)) (fun result s₂ h => ?_) fun _ _ h => h
      obtain ⟨hsent', hsuccess', hpayload'⟩ := h
      have hattended' := hattended.trans (hsent'.attended (by decide))
      cases result with
      | error => exact ⟨hattended', nofun⟩
      | success info' _ =>
          have hframe : readFrameLevel ((extractMiResultPayload info').get "frame") =
              .ok (some s.gdb.selection.frame) := by
            rw [hpayload' _ _ rfl]
            rw [answerTo, Debugger.answer, hattended.answers, hattended.selection] at hsuccess' ⊢
            exact hreports.frame _ hsuccess'.symm
          change wp (narrow (readFrameLevel ((extractMiResultPayload info').get "frame")) >>= _) _ _ s₂
          rw [hframe, wp_bind]
          have hmarked : (some s.gdb.selection.thread, some s.gdb.selection.frame) =
              (some s₂.gdb.selection.thread, some s₂.gdb.selection.frame) := by
            rw [hattended'.selection]
          refine ⟨⟨hattended'.answers, hattended'.selection, hattended'.log, hattended'.hasController,
            fun _ _ => hmarked⟩, fun snapshot warnings heq => ?_⟩
          cases heq
          refine ⟨rfl, hmarked, ?_⟩
          change s₂.gdb.log = _
          rw [hsent'.gdb, Debugger.asked, hattended.selection, hsent.gdb, Debugger.asked, List.append_assoc]
          rfl

end Session
end GdbMcp
