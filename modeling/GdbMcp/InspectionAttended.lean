import GdbMcp.InspectionSends
import GdbMcp.InspectionSwitch

/-! The queries of every inspection attend to the selection they find. -/

namespace GdbMcp

open Eff

namespace Session

variable {α β : Type}

theorem attends_update {f : SessionRuntime → SessionRuntime}
    (hcontroller : ∀ rt, (f rt).hasController = rt.hasController)
    (hthread : ∀ rt, (f rt).currentThreadId = rt.currentThreadId)
    (hframe : ∀ rt, (f rt).currentFrame = rt.currentFrame) : Within Attends (update f : SessionM Debugger Unit) := by
  refine ⟨fun s hs => ⟨rfl, rfl, ⟨[], (List.append_nil _).symm, nofun⟩, (hcontroller _).trans hs, fun _ hmarked => ?_⟩⟩
  change ((f s.runtime).currentThreadId, (f s.runtime).currentFrame) = _
  rw [hthread, hframe]
  exact hmarked

theorem Inspects.attends {queries : SessionM Debugger (OperationResult α)} (h : Inspects queries)
    (hraise : ∀ s, wp queries (fun _ _ => True) (fun _ _ => False) s) : Within Attends queries := by
  refine ⟨fun s => ?_⟩
  by_cases hs : s.runtime.hasController = true
  · exact wp_mono (wp_and (h.outcome s hs) (hraise s)) (fun _ _ h _ => h.1.1) fun _ _ h => h.2.elim
  · exact wp_mono (wp_true _ s) (fun _ _ _ h => absurd h hs) fun _ _ _ h => absurd h hs

/-- A query and what is made of its answer. -/
theorem attends_query_then {command : String} {next : CommandExecutionInfo → SessionM Debugger (OperationResult α)}
    (hcommand : Harmless command) (hnext : ∀ info, Within Attends (next info)) :
    Within Attends (query command >>= fun result => orReturn result next) :=
  (attends_query hcommand).bind fun _ => within_orReturn hnext

theorem attends_narrow_then (x : Except PyError α) (f : α → β) :
    Within Attends (narrow x >>= fun a => (pure (.success (f a)) : SessionM Debugger (OperationResult β))) :=
  (attends_narrow x).bind fun _ => .pure _

theorem inspects_query_then {command : String} {next : CommandExecutionInfo → SessionM Debugger (OperationResult α)}
    (hcommand : Harmless command) (hnext : ∀ info, Within Attends (next info)) :
    Inspects (query command >>= fun result => orReturn result next) :=
  (Inspects.query hcommand).andThen hnext

/-! ### Expressions, variables, registers and the stack -/

theorem attends_registerQuery (command : String) (h : PyStr.startswith command "-data-list-register-" = true) :
    Within Attends (query command) := attends_query (harmless_of_startswith h (by decide))

theorem inspects_queryRegisters (a : RegisterFilter) : Inspects (queryRegisters a) := by
  refine .bind (within_resolveRegisterNumberFilters attends_registerQuery a) fun _ => .orReturn fun numbers => ?_
  have hcommand : Harmless (registerValuesCommand a.hex numbers) :=
    harmless_of_startswith (startswith_registerValuesCommand a.hex numbers) (by decide)
  refine inspects_query_then hcommand fun info => ?_
  exact (within_selectRegisters attends_narrow attends_registerQuery a _).bind fun _ => within_orReturn fun _ => .pure _

theorem inspects_queryExpression (expression : String) :
    Inspects (query (buildEvaluateExpressionCommand expression) >>= fun result => orReturn result fun info =>
      (pure (.success { expression, value := (extractMiResultPayload info).get "value" }) :
        SessionM Debugger (OperationResult ExpressionValueInfo))) :=
  inspects_query_then (harmless_append "-data-evaluate-expression" rfl (by decide)) fun _ => .pure _

theorem inspects_queryFrames (threadId : Option Int) (maxFrames : Int) :
    Inspects (queryFrames threadId maxFrames) := by
  refine inspects_query_then (harmless_append (p := "-stack-list-frames 0 ") "-stack-list-frames" rfl (by decide)) fun _ => ?_
  exact (Within.gets _).bind fun _ => .pure _

/-- The frame that the debugger reports is the one that the runtime takes over. -/
theorem inspects_queryFrameInfo : Inspects queryFrameInfo := by
  refine ⟨fun s hs => ?_⟩
  rw [queryFrameInfo, wp_bind]
  refine wp_mono (query_mi hs (by decide)) (fun result s₁ h => ?_) fun _ _ h => h.elim
  obtain ⟨hsent, hsuccess, hpayload⟩ := h
  have hattended := hsent.attended (by decide)
  cases result with
  | error => exact ⟨hattended, nofun⟩
  | success info _ =>
      change wp (narrow (readFrameLevel ((extractMiResultPayload info).get "frame")) >>= _) _ _ s₁
      rw [hpayload _ _ rfl, wp_bind, narrow, onRuntime, wp_zoom, wp_ofExcept]
      refine ⟨fun level hlevel => ?_, fun _ _ => trivial⟩
      refine ⟨⟨hattended.answers, hattended.selection, hattended.log, hattended.hasController,
        fun hreports hmarked => ?_⟩, fun _ => ?_⟩
      · obtain rfl : some s.gdb.selection.frame = level :=
          Except.ok.inj ((hreports.frame _ hsuccess.symm).symm.trans hlevel)
        have hthread : s₁.runtime.currentThreadId = some s.gdb.selection.thread :=
          congrArg Prod.fst (hsent.marks.trans hmarked)
        change (s₁.runtime.currentThreadId, some s.gdb.selection.frame) =
          (some s₁.gdb.selection.thread, some s₁.gdb.selection.frame)
        rw [hthread, hattended.selection]
      · change s.gdb.log.length < s₁.gdb.log.length
        rw [hsent.gdb, Debugger.asked, List.length_append]
        exact Nat.lt_succ_self _

/-! ### Disassembly -/

theorem attends_supportsDisassembleA : Within Attends supportsDisassembleA := by
  rw [supportsDisassembleA]
  refine (Within.gets _).bind fun cached => ?_
  cases cached with
  | some _ => exact .pure _
  | none =>
      refine (attends_query (harmless_of_startswith (p := "-list-features") rfl (by decide))).bind fun _ => ?_
      refine .bind (attends_update ?_ ?_ ?_) fun _ => .pure _
      all_goals exact fun _ => rfl

theorem attends_wholeFunctionAddressRange (target : String) :
    Within Attends (wholeFunctionAddressRange target) := by
  refine attends_query_then (harmless_of_startswith (p := "disassemble") ?_ (by decide)) fun info => ?_
  · exact PyStr.startswith_trans (PyStr.startswith_append "disassemble " target) rfl
  · split
    · exact .pure _
    · exact .pure _

/-- Queries whose result, if any, is the command of a disassembly. -/
structure Builds (queries : SessionM Debugger (OperationResult String)) : Prop where
  attends : Within Attends queries
  command : ∀ s, wp queries
    (fun result _ => ∀ command warnings, result = .success command warnings →
      PyStr.startswith command "-data-disassemble" = true) (fun _ _ => True) s

theorem Builds.success {command : String} (h : PyStr.startswith command "-data-disassemble" = true) :
    Builds (pure (.success command)) := by
  refine ⟨.pure _, fun s built warnings heq => ?_⟩
  cases heq
  exact h

theorem Builds.error {message : String} {fatal : Bool} {details : List (String × Value)} {code : String} :
    Builds (pure (.error message fatal details code)) := ⟨.pure _, fun _ => nofun⟩

theorem Builds.bind {first : SessionM Debugger α} {next : α → SessionM Debugger (OperationResult String)}
    (hfirst : Within Attends first) (hnext : ∀ a, Builds (next a)) : Builds (first >>= next) := by
  refine ⟨hfirst.bind fun a => (hnext a).attends, fun s => ?_⟩
  rw [wp_bind]
  exact wp_mono (wp_true first s) (fun a t _ => (hnext a).command t) fun _ _ h => h

theorem Builds.ite {c : Prop} [Decidable c] {m m' : SessionM Debugger (OperationResult String)} (hm : Builds m)
    (hm' : Builds m') : Builds (if c then m else m') := by
  split
  · exact hm
  · exact hm'

theorem Builds.orReturn {result : OperationResult α} {next : α → SessionM Debugger (OperationResult String)}
    (hnext : ∀ a, Builds (next a)) : Builds (Session.orReturn result next) := by
  cases result with
  | success a _ => exact hnext a
  | error => exact .error

/-- A command line that is put together behind the name of the command. -/
theorem startswith_disassemble {a b c : String} {p : String} (hp : PyStr.startswith p "-data-disassemble" = true) :
    PyStr.startswith (p ++ a ++ b ++ c) "-data-disassemble" = true :=
  PyStr.startswith_append_left (PyStr.startswith_append_left (PyStr.startswith_append_left hp a) b) c

theorem builds_wholeFunctionCommand (target modeToken : String) :
    Builds (wholeFunctionCommand target modeToken) := by
  refine .bind attends_supportsDisassembleA fun _ => .ite ?_ ?_
  · exact .success (startswith_disassemble rfl)
  · refine .bind (attends_wholeFunctionAddressRange _) fun _ => .orReturn fun (start, stop) => ?_
    exact .success (PyStr.startswith_append_left (PyStr.startswith_append_left (startswith_disassemble rfl) _) _)

theorem builds_buildDisassembleCommand (location : ResolvedCodeLocation) (instructionCount : Int) (mixed : Bool) :
    Builds (buildDisassembleCommand location instructionCount mixed) := by
  have hwhole : ∀ (target : Option String) (message modeToken : String),
      Builds (target.elim (pure (.error message)) (wholeFunctionCommand · modeToken)) := by
    intro target message modeToken
    cases target with
    | none => exact .error
    | some target => exact builds_wholeFunctionCommand _ _
  have hline : ∀ file line count modeToken : String, PyStr.startswith
      ("-data-disassemble -f " ++ file ++ " -l " ++ line ++ " -n " ++ count ++ " -- " ++ modeToken)
      "-data-disassemble" = true := fun _ _ _ _ =>
    startswith_disassemble (startswith_disassemble (PyStr.startswith_append_left rfl _))
  rw [buildDisassembleCommand]
  split
  · split
    · exact .success (hline _ _ _ _)
    · exact builds_wholeFunctionCommand _ _
    · exact .error
  · split
    · exact .success (hline _ _ _ _)
    · exact builds_wholeFunctionCommand _ _
    · exact .error
  · exact hwhole _ _ _
  · exact hwhole _ _ _
  · split
    · exact .success (PyStr.startswith_append_left (PyStr.startswith_append_left (startswith_disassemble rfl) _) _)
    · exact .error
  · exact .error

theorem inspects_queryDisassembly (a : DisassembleArgs) (location : ResolvedCodeLocation) :
    Inspects (queryDisassembly a location) := by
  have hbuild := builds_buildDisassembleCommand location a.instructionCount a.mixed
  refine ⟨fun s hs => ?_⟩
  rw [queryDisassembly, wp_bind]
  refine wp_mono (wp_and (hbuild.attends.outcome s) (hbuild.command s)) (fun result s₁ ⟨h, hcommand⟩ => ?_)
    fun _ _ _ => trivial
  have h₁ := h hs
  cases result with
  | error => exact ⟨h₁, nofun⟩
  | success command warnings =>
      have hharmless := harmless_of_startswith (hcommand _ _ rfl) (by decide)
      refine wp_mono ((inspects_query_then hharmless fun _ => attends_narrow_then _ _).outcome s₁ h₁.hasController)
        (fun _ s₂ ⟨h₂, hlength⟩ => ⟨h₁.trans h₂, fun hsuccess => ?_⟩) fun _ _ _ => trivial
      have := h₁.length_le
      have := hlength hsuccess
      omega

theorem inspects_disassembleAt (a : DisassembleArgs) : Inspects (orReturn a.location (queryDisassembly a)) :=
  .orReturn fun location => inspects_queryDisassembly a location

theorem inspects_disassembleCurrent (a : DisassembleArgs) (selection : Option SelectionSnapshot) :
    Inspects (currentLocation a selection >>= queryDisassembly a) := by
  refine .bind ?_ fun location => inspects_queryDisassembly a location
  exact (Within.gets _).bind fun _ => .pure _

/-! ### Source lines -/

theorem attends_readSourceContext (files : Files) (a : SourceContextArgs) (location : ResolvedCodeLocation) :
    Within Attends (readSourceContext files a location) := by
  have hwindow : ∀ selector path text, Within Attends (readWindow files a location selector path text) := by
    intro selector path text
    rw [readWindow]
    split
    · exact .pure _
    · exact .ite (.pure _) ((attends_narrow _).bind fun _ => .pure _)
  rw [readSourceContext]
  split
  · exact .pure _
  · refine (attends_narrow _).bind fun path => ?_
    split
    · exact .pure _
    · exact (attends_narrow _).bind fun text => hwindow _ _ text

theorem inspects_currentFrameLocation (threadId frame : Option Int) (selection : Option SelectionSnapshot) :
    Inspects (currentFrameLocation threadId frame selection) := by
  refine inspects_query_then (harmless_of_startswith (p := "-stack-info-frame") rfl (by decide)) fun info => ?_
  refine .ite (.pure _) (.ite (.pure _) ((Within.gets _).bind fun current => ?_))
  exact (attends_narrow _).bind fun level => (attends_narrow _).bind fun line => .pure _

theorem inspects_sourceCurrent (files : Files) (a : SourceContextArgs) (selection : Option SelectionSnapshot) :
    Inspects (querySourceContext files a (currentFrameLocation a.threadId a.frame selection)) :=
  (inspects_currentFrameLocation _ _ _).andThen fun location =>
    (attends_readSourceContext files a location).bind fun _ => within_orReturn fun _ => .pure _

theorem attends_sourceAt (files : Files) (a : SourceContextArgs) :
    Within Attends (querySourceContext files a (resolveSourceLocation a)) := by
  have hinfo : ∀ {command : String} {scope : CodeScope} {function address : Option String},
      PyStr.startswith command "info line " = true →
        Within Attends (resolveInfoLineLocation command scope function address) := by
    intro command scope function address hcommand
    rw [resolveInfoLineLocation]
    refine attends_query_then (harmless_of_startswith (p := "info line") ?_ (by decide)) fun info => ?_
    · exact PyStr.startswith_trans hcommand rfl
    · split
      · exact .pure _
      · exact (attends_narrow _).bind fun _ => .pure _
  have hlocated : Within Attends (resolveSourceLocation a) := by
    unfold resolveSourceLocation
    split
    · exact hinfo (PyStr.startswith_append _ _)
    · exact hinfo (PyStr.startswith_append_left rfl _)
    · exact .pure _
    · exact .pure _
    · exact .pure _
  refine hlocated.bind fun _ => within_orReturn fun location => ?_
  exact (attends_readSourceContext files a location).bind fun _ => within_orReturn fun _ => .pure _

end Session
end GdbMcp
