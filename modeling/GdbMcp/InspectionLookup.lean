import GdbMcp.InspectionRestored
import GdbMcp.InspectionWindow

/-! What a source lookup does where its file cannot be read. The file is read behind the switch to the requested context
and before the way back, and an exception there is not caught. -/

namespace GdbMcp

open Eff

/-- The file of a location is missing, or can be read as text. -/
def Files.Readable (files : Files) (location : ResolvedCodeLocation) : Prop :=
  ∀ selector, textOr location.fullname location.file = some selector → ∃ path, files.expanduser selector = .ok path ∧
    ∀ e, files.readText path ≠ some (.error e)

namespace Session

variable {s : Session Debugger} {files : Files} {a : SourceContextArgs} {location : ResolvedCodeLocation} {α β : Type}

/-- A computation returns, with a result or an error. -/
def Returns (m : SessionM Debugger α) (s : Session Debugger) : Prop := wp m (fun _ _ => True) (fun _ _ => False) s

/-- The way of an inspection to its queries. -/
def approach {W : Type} [Gdb W] (captures : Bool) (threadId frame : Option Int) :
    SessionM W (OperationResult (Option SelectionSnapshot)) := do
  orReturn (← captureIf captures) fun selection => do
    let (_, selected) ← selectForInspection selection threadId frame
    orReturn selected fun _ => return .success selection

/-- The location of a lookup, before its file is read. -/
def sourceLocation (a : SourceContextArgs) : SessionM Debugger (OperationResult ResolvedCodeLocation) :=
  if a.isCurrent then do
    orReturn (← approach (a.threadId.isSome || a.frame.isSome) a.threadId a.frame)
      (currentFrameLocation a.threadId a.frame)
  else resolveSourceLocation a

/-! ### Returns -/

theorem wp_congr {m : SessionM Debugger α} {Q Q' : α → Session Debugger → Prop} {R : PyError → Session Debugger → Prop}
    (h : ∀ x t, Q x t ↔ Q' x t) : wp m Q R s ↔ wp m Q' R s := by
  rw [funext₂ fun x t => propext (h x t)]

/-- Two continuations that agree wherever the first part can end. -/
theorem wp_congr_of {m : SessionM Debugger α} {P Q Q' : α → Session Debugger → Prop} {R R' : PyError → Session Debugger → Prop}
    (hm : wp m P (fun _ _ => False) s) (h : ∀ x t, P x t → (Q x t ↔ Q' x t)) : wp m Q R s ↔ wp m Q' R' s := by
  constructor
  · intro hq
    exact wp_mono (wp_and hm hq) (fun x t ⟨hp, hq⟩ => (h x t hp).mp hq) fun _ _ ⟨hfalse, _⟩ => hfalse.elim
  · intro hq
    exact wp_mono (wp_and hm hq) (fun x t ⟨hp, hq⟩ => (h x t hp).mpr hq) fun _ _ ⟨hfalse, _⟩ => hfalse.elim

/-- Queries behind which everything returns. -/
theorem returns_bind_iff {queries : SessionM Debugger α} {next : α → SessionM Debugger β}
    (hnext : wp queries (fun x t => Returns (next x) t) (fun _ _ => True) s) :
    Returns (queries >>= next) s ↔ Returns queries s := by
  rw [Returns, wp_bind]
  constructor
  · intro h
    exact wp_mono h (fun _ _ _ => trivial) fun _ _ h => h
  · intro h
    exact wp_mono (wp_and hnext h) (fun _ _ h => h.1) fun _ _ h => h.2

/-- An inspection returns if and only if its queries do, wherever its way there can end. -/
theorem returns_inspecting {policy : FailurePolicy} {captures : Bool} {thread frame : Option Int}
    {queries : Option SelectionSnapshot → SessionM Debugger (OperationResult α)}
    (hqueries : ∀ selection, Inspects (queries selection)) (hreports : Reports s.gdb.answers s.gdb.selection)
    (hs : s.runtime.hasController = true) :
    Returns (inspecting policy captures thread frame queries) s ↔
      wp (approach captures thread frame)
        (fun result t => ∀ selection w, result = .success selection w → Returns (queries selection) t)
        (fun _ _ => False) s := by
  rw [Returns, inspecting, approach, wp_bind, wp_bind]
  refine wp_congr_of (captureIf_spec captures hreports hs) fun result s₁ h => ?_
  obtain ⟨h, hcaptured⟩ := h
  cases result with
  | error => exact iff_of_true trivial OperationResult.forall_error
  | success selection _ =>
      have hcaptured := hcaptured _ _ rfl
      cases captures with
      | false =>
          obtain rfl : selection = none := hcaptured
          change Returns (queries none >>= concludeInspection policy none false) s₁ ↔ ∀ v w, _
          rw [OperationResult.forall_success]
          refine returns_bind_iff (wp_mono (wp_true _ s₁) (fun result t _ => ?_) fun _ _ h => h)
          cases result with
          | success => exact trivial
          | error => cases policy <;> exact trivial
      | true =>
          obtain ⟨rfl, -⟩ := hcaptured
          simp only [orReturn, wp_bind]
          rw [← h.selection]
          refine wp_congr_of (selectForInspection_spec thread frame h.hasController) fun outcome s₂ h₂ => ?_
          obtain ⟨⟨changed, selected⟩, hthere, -, hunchanged, -⟩ := outcome, h₂
          have hreports₂ : Reports s₂.gdb.answers s₁.gdb.selection := by
            rw [hthere.answers, h.answers, h.selection]
            exact hreports
          cases selected with
          | error message fatal details code =>
              refine iff_of_true ?_ OperationResult.forall_error
              exact wp_mono (selectionErrorWithRestore_spec hreports₂ hthere.hasController) (fun _ _ _ => trivial)
                fun _ _ h => h
          | success =>
              change Returns (queries _ >>= concludeInspection policy _ changed) s₂ ↔ ∀ v w, _
              rw [OperationResult.forall_success]
              refine returns_bind_iff (wp_mono ((hqueries _).outcome s₂ hthere.hasController) (fun result t ht => ?_)
                fun _ _ h => h)
              obtain ⟨ht, _⟩ := ht
              have hreports₃ : Reports t.gdb.answers s₁.gdb.selection := ht.answers ▸ hreports₂
              exact wp_mono (concludeInspection_spec policy result hreports₃ ht.hasController fun hc =>
                ht.selection.trans (hunchanged hc)) (fun _ _ _ => trivial) fun _ _ h => h

/-- The debugger behind the way to the queries. -/
theorem approach_spec {captures : Bool} {thread frame : Option Int} (hreports : Reports s.gdb.answers s.gdb.selection)
    (hs : s.runtime.hasController = true) :
    wp (approach captures thread frame) (fun _ t => t.gdb.answers = s.gdb.answers ∧ t.runtime.hasController = true)
      (fun _ _ => False) s := by
  rw [approach, wp_bind]
  refine wp_mono (captureIf_spec captures hreports hs) (fun result s₁ h => ?_) fun _ _ h => h
  obtain ⟨h, hcaptured⟩ := h
  cases result with
  | error => exact ⟨h.answers, h.hasController⟩
  | success selection _ =>
      have hcaptured := hcaptured _ _ rfl
      cases captures with
      | false =>
          obtain rfl : selection = none := hcaptured
          exact ⟨h.answers, h.hasController⟩
      | true =>
          obtain ⟨rfl, -⟩ := hcaptured
          simp only [orReturn, wp_bind]
          rw [← h.selection]
          refine wp_mono (selectForInspection_spec thread frame h.hasController) (fun outcome s₂ hthere => ?_)
            fun _ _ h => h
          obtain ⟨hthere, _⟩ := hthere
          obtain ⟨changed, selected⟩ := outcome
          cases selected <;> exact ⟨hthere.answers.trans h.answers, hthere.hasController⟩

/-! ### The file -/

theorem exists_windowLines {lines : List String} {current : Option Int} {first : Int} {count : Nat} (hpos : 1 ≤ first)
    (hcount : first + count ≤ lines.length + 1) : ∃ records, windowLines lines current first count = .ok records := by
  induction count generalizing first with
  | zero => exact ⟨[], rfl⟩
  | succ count ih =>
      obtain ⟨rest, hrest⟩ : ∃ rest, windowLines lines current (first + 1) count = .ok rest := ih (by omega) (by omega)
      have hlt : (first - 1).toNat < lines.length := by omega
      have hline : lineAt lines (first - 1) = .ok lines[(first - 1).toNat] := by
        rw [lineAt, if_pos (by omega), List.getElem?_eq_getElem hlt]
      exact ⟨_, by rw [windowLines, hline, hrest]; rfl⟩

theorem returns_narrow_bind {x : Except PyError β} {next : β → SessionM Debugger α} :
    Returns (narrow x >>= next) s ↔ ∃ b, x = .ok b ∧ Returns (next b) s := by
  rw [Returns, wp_bind, narrow, onRuntime, wp_zoom, wp_ofExcept]
  cases x with
  | error e => simp
  | ok b => simp [Returns]

theorem returns_readWindow (ha : a.Accepted) {selector path text : String} :
    Returns (readWindow files a location selector path text) s := by
  rw [readWindow]
  split
  · exact trivial
  · rename_i first wanted current hbounds
    split
    · exact trivial
    · obtain ⟨-, hpos, -⟩ := windowBounds_le ha hbounds
      let count := (min wanted (PyStr.splitlines text).length + 1 - first).toNat
      obtain ⟨records, hrecords⟩ : ∃ records, windowLines (PyStr.splitlines text) current first count = .ok records :=
        exists_windowLines hpos (by omega)
      exact returns_narrow_bind.mpr ⟨records, hrecords, trivial⟩

theorem returns_readSourceContext (ha : a.Accepted) :
    Returns (readSourceContext files a location) s ↔ files.Readable location := by
  rw [readSourceContext, Files.Readable]
  cases textOr location.fullname location.file with
  | none => exact iff_of_true trivial fun _ h => by cases h
  | some selector =>
      have hselector : ∀ {P : String → Prop}, (∀ s, some selector = some s → P s) ↔ P selector := by
        intro P
        simp
      rw [hselector]
      dsimp only
      rw [returns_narrow_bind]
      refine exists_congr fun path => and_congr_right fun _ => ?_
      cases files.readText path with
      | none => exact iff_of_true trivial fun _ h => by cases h
      | some content =>
          dsimp only
          rw [returns_narrow_bind]
          cases content with
          | error e => simp
          | ok text => exact iff_of_true ⟨text, rfl, returns_readWindow ha⟩ fun _ h => by cases h

/-! ### The lookup -/

theorem returns_querySourceContext (ha : a.Accepted) {located : SessionM Debugger (OperationResult ResolvedCodeLocation)} :
    Returns (querySourceContext files a located) s ↔
      wp located (fun result _ => ∀ location w, result = .success location w → files.Readable location) (fun _ _ => False) s := by
  rw [querySourceContext, Returns, wp_bind]
  have hresult : ∀ (result : OperationResult ResolvedCodeLocation) (t : Session Debugger),
      Returns (orReturn result fun location => do
          orReturn (← readSourceContext files a location) fun window =>
            (return .success (SourceContextInfo.mk location.scope location.threadId location.frame location.function
              location.address window.file window.fullname location.line window.startLine window.endLine window.lines) :
              SessionM Debugger (OperationResult SourceContextInfo))) t ↔
        ∀ location w, result = .success location w → files.Readable location := by
    intro result t
    cases result with
    | error => exact iff_of_true trivial OperationResult.forall_error
    | success location _ =>
        rw [OperationResult.forall_success, ← returns_readSourceContext ha (s := t)]
        refine returns_bind_iff (wp_mono (wp_true _ t) (fun read u _ => ?_) fun _ _ h => h)
        cases read with
        | error => exact trivial
        | success => exact trivial
  exact wp_congr hresult

end Session

/-- A lookup returns and leaves the selection as it was, if and only if its location is resolved without an exception,
to a file that is missing or can be read. -/
theorem sourceLookup_restores_iff {s : Session Debugger} {files : Files} {a : SourceContextArgs} (ha : a.Accepted)
    (hreports : Reports s.gdb.answers s.gdb.selection) (hs : s.runtime.hasController = true) :
    wp (Session.getSourceContext files a) (fun _ s' => s'.gdb.selection = s.gdb.selection) (fun _ _ => False) s ↔
      wp (Session.sourceLocation a)
        (fun result _ => ∀ location w, result = .success location w → files.Readable location) (fun _ _ => False) s := by
  have hkeeps := inspection_restores_selection (.getSourceContext files a) hreports hs
  have hreturns : wp (Session.getSourceContext files a) (fun _ s' => s'.gdb.selection = s.gdb.selection) (fun _ _ => False) s ↔
      Session.Returns (Session.getSourceContext files a) s := by
    constructor
    · intro h
      exact wp_mono h (fun _ _ _ => trivial) fun _ _ h => h
    · intro h
      exact wp_mono (wp_and hkeeps h) (fun _ _ h => h.1.1) fun _ _ h => h.2
  rw [hreturns, Session.getSourceContext, Session.sourceLocation]
  cases a.isCurrent with
  | false => exact Session.returns_querySourceContext ha
  | true =>
      rw [if_pos rfl, if_pos rfl, Session.returns_inspecting (Session.inspects_sourceCurrent files a) hreports hs, wp_bind]
      have hafter : ∀ (result : OperationResult (Option SelectionSnapshot)) (t : Session Debugger),
          (∀ selection w, result = .success selection w → Session.Returns (Session.querySourceContext files a
            (Session.currentFrameLocation a.threadId a.frame selection)) t) ↔
          wp (Session.orReturn result (Session.currentFrameLocation a.threadId a.frame))
            (fun result _ => ∀ location w, result = .success location w → files.Readable location) (fun _ _ => False) t := by
        intro result t
        cases result with
        | error => exact iff_of_true OperationResult.forall_error OperationResult.forall_error
        | success selection _ =>
            rw [OperationResult.forall_success]
            exact Session.returns_querySourceContext ha
      exact Session.wp_congr hafter

/-- A debugger that accepts every command, and reports what is selected and a source file. -/
def namingFile (_ : Nat) (_ : String) (selection : Selection) : Answer where
  payload := .dict [("current-thread-id", .int selection.thread),
    ("frame", .dict [("level", .int selection.frame), ("fullname", .str "/src"), ("line", .str "3")])]

/-- A session with such a debugger, in which frame 3 of thread 1 is selected. -/
def namingSession : Session Debugger where
  runtime := { transport := { controller := some {} } }
  gdb := { answers := namingFile, selection := { thread := 1, frame := 3 } }

/-- A file system of directories. -/
def directories : Files where
  expanduser := .ok
  readText _ := some (.error (.osError "Is a directory"))
  resolve := id

theorem accepted_otherThread : SourceContextArgs.Accepted { threadId := some 2 } where
  before := by decide
  after := by decide
  range := nofun

theorem reports_namingFile (home : Selection) : Reports namingFile home where
  thread _ _ := rfl
  frame _ _ := rfl
  selectThread _ _ := rfl
  selectFrame _ _ _ := rfl

theorem sourceLookup_restores_iff_missing :
    wp (Session.getSourceContext { directories with readText := fun _ => none } { threadId := some 2 })
        (fun _ s' => s'.gdb.selection = namingSession.gdb.selection) (fun _ _ => False) namingSession ↔
      wp (Session.sourceLocation { threadId := some 2 })
        (fun result _ => ∀ location w, result = .success location w →
          Files.Readable { directories with readText := fun _ => none } location) (fun _ _ => False) namingSession :=
  sourceLookup_restores_iff accepted_otherThread (reports_namingFile _) rfl

/-- The lookup in thread 2 raises at a directory, and thread 2 stays selected. -/
theorem directory_leaks_selection :
    Reports namingSession.gdb.answers namingSession.gdb.selection ∧
      ¬wp (Session.getSourceContext directories { threadId := some 2 })
        (fun _ s' => s'.gdb.selection = namingSession.gdb.selection) (fun _ _ => False) namingSession ∧
      wp (Session.getSourceContext directories { threadId := some 2 })
        (fun _ _ => False) (fun _ s' => s'.gdb.selection = { thread := 2, frame := 0 }) namingSession := by
  exact ⟨reports_namingFile _, fun h => h, rfl⟩

end GdbMcp
