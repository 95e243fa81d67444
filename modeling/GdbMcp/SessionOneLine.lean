import GdbMcp.BreakpointCreated
import GdbMcp.InferiorOperations
import GdbMcp.InspectionMemory
import GdbMcp.InspectionSends
import GdbMcp.StartEnvironment

/-! Requests against lines. Every operation that puts a text of the client into a command quotes it, and a CLI command is
quoted as a whole; a command that is MI already is sent as it came. -/

namespace GdbMcp

open Eff CString Session

/-- The text has no end of a line in it. -/
def OneLine (text : String) : Prop := ∀ c ∈ text.toList, c ≠ '\r' ∧ c ≠ '\n'

instance (text : String) : Decidable (OneLine text) :=
  decidable_of_iff (text.toList.all (fun c => c != '\r' && c != '\n') = true) (by simp [OneLine])

namespace OneLine

theorem append {a b : String} (ha : OneLine a) (hb : OneLine b) : OneLine (a ++ b) := by
  intro c hc
  rw [String.toList_append] at hc
  exact (List.mem_append.mp hc).elim (ha c) (hb c)

theorem of_isLineControl {text : String} (h : ∀ c ∈ text.toList, isLineControl c = false) : OneLine text := by
  intro c hc
  have hc := h c hc
  simp only [isLineControl, Bool.or_eq_false_iff, beq_eq_false_iff_ne] at hc
  exact hc.1

theorem quoted (text : String) : OneLine (quoteMiString text) := of_isLineControl isLineControl_quoteMiString

theorem wrapped (command : String) : OneLine (wrapCliCommand command) := append (by decide) (quoted command)

theorem int (k : Int) : OneLine (toString k) := by
  have hdigits : ∀ n : Nat, ∀ c ∈ Nat.toDigits 10 n, c ≠ '\r' ∧ c ≠ '\n' := fun n c hc =>
    of_decide_eq_true (PyStr.forall_mem_toDigits (p := fun c => c ≠ '\r' ∧ c ≠ '\n') (by decide) n c hc)
  have hnat : ∀ n : Nat, OneLine (Nat.repr n) := fun n c hc => hdigits n c (Nat.toList_repr ▸ hc)
  cases k with
  | ofNat n => exact hnat n
  | negSucc n => exact append (a := "-") (by decide) (hnat (n + 1))

/-- What is sent is one line exactly if it is quoted or was one line before. -/
theorem actualCommand_iff (command : String) :
    OneLine (actualCommand command) ↔ isCliCommand command = true ∨ OneLine command := by
  cases hcli : isCliCommand command with
  | true =>
      rw [actualCommand, if_pos hcli]
      exact iff_of_true (wrapped command) (.inl rfl)
  | false =>
      rw [actualCommand, hcli, or_iff_right (by decide)]
      rfl

theorem of_command {command : String} (h : OneLine command) : OneLine (actualCommand command) :=
  (actualCommand_iff command).mpr (.inr h)

/-- A word without quotes is one line. -/
def Bare : Word → Prop
  | .bare text => OneLine text
  | .quoted _ => True

theorem words {words : List Word} (h : ∀ w ∈ words, Bare w) : OneLine (String.intercalate " " (words.map writeWord)) := by
  induction words with
  | nil => exact fun c hc => nomatch hc
  | cons w rest ih =>
      obtain ⟨hw, hrest⟩ := List.forall_mem_cons.mp h
      have hword : OneLine (writeWord w) := by
        cases w with
        | bare text => exact hw
        | quoted text => exact quoted text
      cases rest with
      | nil => exact hword
      | cons next rest =>
          rw [List.map_cons, List.map_cons, String.intercalate_cons_cons]
          exact append (append hword (by decide)) (ih hrest)

theorem breakInsert (location : String) (condition : Option String) (temporary : Bool) :
    OneLine (breakInsertCommand location condition temporary) := by
  rw [breakInsertCommand_eq]
  apply words
  simp only [breakInsertWords, List.forall_mem_append]
  refine ⟨⟨⟨⟨by simp +decide [Bare], ?_⟩, ?_⟩, ?_⟩, by simp [Bare]⟩
  · split <;> simp +decide [Bare]
  · cases condition.filter (· ≠ "") <;> simp +decide [Bare]
  · split <;> simp +decide [Bare]

theorem miOperand (argument : String) : OneLine (miOperand argument) := by
  unfold GdbMcp.miOperand
  split
  · exact append (by decide) (quoted argument)
  · exact quoted argument

theorem breakWatch (expression : String) (kind : WatchpointAccessType) : OneLine (breakWatchCommand expression kind) := by
  have hopening : ∀ opening, OneLine opening → OneLine (opening ++ GdbMcp.miOperand expression) := fun _ h =>
    append h (miOperand expression)
  cases kind with
  | read => exact hopening "-break-watch -r " (by decide)
  | write => exact hopening "-break-watch " (by decide)
  | access => exact hopening "-break-watch -a " (by decide)

theorem breakCondition (number : Int) (condition : Option String) : OneLine (breakConditionCommand number condition) := by
  have hnumber : OneLine s!"-break-condition {number}" := append (a := "-break-condition ") (by decide) (int number)
  cases condition with
  | none => exact hnumber
  | some text => exact append (append hnumber (by decide : OneLine " ")) (quoted text)

theorem readMemory (address : String) (count offset : Int) : OneLine (buildReadMemoryCommand address count offset) := by
  rw [buildReadMemoryCommand_eq]
  apply words
  simp only [readMemoryWords, List.forall_mem_append]
  refine ⟨⟨by simp +decide [Bare], ?_⟩, by simpa [Bare] using int count⟩
  split
  · exact List.forall_mem_cons.mpr ⟨(by decide : OneLine "-o"), by simpa [Bare] using int offset⟩
  · exact List.forall_mem_nil _

theorem legacyReadMemory (address : String) (count offset : Int) : OneLine (legacyReadMemoryCommand address count offset) := by
  have hoffset : OneLine (if offset ≠ 0 then s!"-o {offset} " else "") := by
    split
    · exact append (append (a := "-o ") (by decide) (int offset)) (by decide)
    · decide
  have hopening : OneLine "-data-read-memory " := by decide
  exact append (append (append (append hopening hoffset) (quoted address)) (by decide)) (int count)

end OneLine

/-! ### The requests -/

/-- The requests that put texts of the client into commands. -/
inductive Request where
  | executeCommand (command : String) (timeoutSec : Nat)
  | callFunction (functionCall : String) (timeoutSec : Nat)
  | setBreakpoint (location : String) (condition : Option String) (temporary : Bool)
  | setWatchpoint (expression : String) (kind : WatchpointAccessType)
  | updateBreakpoint (number : Int) (condition : Option String) (clearCondition : Bool)
  | setCatchpoint (kind : CatchpointType) (argument : Option String) (temporary : Bool)
  | evaluateExpression (expression : String) (threadId frame : Option Int)
  | readMemory (address : String) (count offset : Int)
  | addInferior (executable : Option String) (makeCurrent : Bool)
  | applyEnvironment (env : List (String × String))

namespace Request

variable {W : Type} [Gdb W]

/-- The operation, without what it reports. -/
def perform : Request → SessionM W Unit
  | executeCommand command timeoutSec => (fun _ => ()) <$> Session.executeCommand command timeoutSec
  | callFunction functionCall timeoutSec => (fun _ => ()) <$> Session.callFunction functionCall timeoutSec
  | setBreakpoint location condition temporary => (fun _ => ()) <$> Session.setBreakpoint location condition temporary
  | setWatchpoint expression kind => (fun _ => ()) <$> Session.setWatchpoint expression kind
  | updateBreakpoint number condition clearCondition =>
    (fun _ => ()) <$> Session.updateBreakpoint number condition clearCondition
  | setCatchpoint kind argument temporary => (fun _ => ()) <$> Session.setCatchpoint kind argument temporary
  | evaluateExpression expression threadId frame => (fun _ => ()) <$> Session.evaluateExpression expression threadId frame
  | readMemory address count offset => (fun _ => ()) <$> Session.readMemory address count offset
  | addInferior executable makeCurrent => (fun _ => ()) <$> Session.addInferior executable makeCurrent
  | applyEnvironment env => (fun _ => ()) <$> Session.applyEnvironment env []

/-- The request is not a raw MI command of several lines. -/
def IsLine : Request → Prop
  | executeCommand command _ => isCliCommand command = true ∨ OneLine command
  | _ => True

end Request

namespace Session

variable {W : Type} [Gdb W]

theorem oneLine_inventoryLine : OneLine inventoryLine := OneLine.wrapped _

theorem oneLine_query {command : String} (h : isCliCommand command = true ∨ OneLine command) :
    SendsOnly OneLine (query command : SessionM W _) :=
  sendsOnly_query oneLine_inventoryLine ((OneLine.actualCommand_iff command).mpr h)

theorem oneLine_selects : SendsSelects OneLine where
  threadInfo := .of_command (by decide)
  frameInfo := .of_command (by decide)
  thread k := .of_command (.append (by decide) (.int k))
  frame k := .of_command (.append (by decide) (.int k))

theorem oneLine_callFunction (functionCall : String) (timeoutSec : Nat) :
    SendsOnly OneLine (callFunction functionCall timeoutSec : SessionM W _) := by
  refine (sendsOnly_read _).bind fun _ => Within.ite ?_ (Within.pure _)
  refine sendsOnly_isGdbAlive.bind fun _ => Within.ite ?_ ((sendsOnly_handleDeadTransport _).bind fun _ => Within.pure _)
  refine (sendsOnly_send (OneLine.wrapped _) _).bind fun result => ?_
  cases result.error with
  | some error => exact (sendsOnly_recordTranscript _).bind fun _ => Within.pure _
  | none =>
      refine Within.ite ((sendsOnly_recordTranscript _).bind fun _ => Within.pure _) ?_
      refine (sendsOnly_updateRuntimeAfterCommand oneLine_inventoryLine _ _).bind fun _ => ?_
      exact Within.ite ((sendsOnly_recordTranscript _).bind fun _ => Within.pure _)
        ((sendsOnly_recordTranscript _).bind fun _ => Within.pure _)

theorem oneLine_listBreakpoints : SendsOnly OneLine (listBreakpoints : SessionM W _) :=
  (oneLine_query (.inr (by decide))).bind fun _ => sendsOnly_orReturn fun _ => Within.pure _

theorem oneLine_setBreakpoint (location : String) (condition : Option String) (temporary : Bool) :
    SendsOnly OneLine (setBreakpoint location condition temporary : SessionM W _) := by
  refine (oneLine_query (.inr (.breakInsert _ _ _))).bind fun result => ?_
  cases result with
  | success info warnings => exact Within.pure _
  | error message fatal details code =>
      refine (sendsOnly_narrow _).bind fun blocked => Within.ite (Within.pure _) ?_
      refine oneLine_listBreakpoints.bind fun listing => ?_
      cases listing with
      | success listing warnings => exact sendsOnly_narrow _
      | error message fatal details code => exact Within.pure _

theorem oneLine_catchpointNumbers : SendsOnly OneLine (catchpointNumbers : SessionM W _) := by
  refine oneLine_listBreakpoints.bind fun listing => ?_
  cases listing with
  | success listing warnings => exact (sendsOnly_narrow _).map _
  | error message fatal details code => exact Within.pure _

theorem oneLine_breakpointInfoForNumber (number : Int) (details : Payload) :
    SendsOnly OneLine (breakpointInfoForNumber number details : SessionM W _) := by
  refine oneLine_listBreakpoints.bind fun listing => ?_
  cases listing with
  | error message fatal details code => exact Within.pure _
  | success listing warnings =>
      refine (sendsOnly_narrow _).bind fun found => ?_
      cases found <;> exact Within.pure _

theorem oneLine_setWatchpoint (expression : String) (kind : WatchpointAccessType) :
    SendsOnly OneLine (setWatchpoint expression kind : SessionM W _) := by
  refine (oneLine_query (.inr (.breakWatch _ _))).bind fun _ => sendsOnly_orReturn fun info => ?_
  refine (sendsOnly_narrow _).bind fun number => ?_
  cases number with
  | none => exact Within.pure _
  | some number => exact oneLine_breakpointInfoForNumber _ _

theorem oneLine_updateBreakpoint (number : Int) (condition : Option String) (clearCondition : Bool) :
    SendsOnly OneLine (updateBreakpoint number condition clearCondition : SessionM W _) := by
  refine Within.ite (Within.pure _) (Within.ite (Within.pure _) ?_)
  refine (oneLine_query (.inr (.breakCondition _ _))).bind fun _ => sendsOnly_orReturn fun _ => ?_
  exact oneLine_breakpointInfoForNumber _ _

theorem oneLine_setCatchpoint (kind : CatchpointType) (argument : Option String) (temporary : Bool) :
    SendsOnly OneLine (setCatchpoint kind argument temporary : SessionM W _) := by
  refine oneLine_catchpointNumbers.bind fun previous => ?_
  refine (oneLine_query (.inl (isCliCommand_catch kind argument temporary))).bind fun _ => sendsOnly_orReturn fun info => ?_
  refine (sendsOnly_narrow _).bind fun named => Within.bind ?_ fun number => ?_
  · cases named with
    | some number => exact Within.pure _
    | none =>
        refine oneLine_catchpointNumbers.bind fun current => ?_
        cases current <;> exact Within.pure _
  · cases number with
    | none => exact Within.pure _
    | some number => exact oneLine_breakpointInfoForNumber _ _

theorem oneLine_evaluateExpression (expression : String) (threadId frame : Option Int) :
    SendsOnly OneLine (evaluateExpression expression threadId frame : SessionM W _) := by
  refine sendsOnly_inspecting oneLine_inventoryLine oneLine_selects _ _ _ _ fun _ => ?_
  exact (oneLine_query (.inr (.append (by decide) (.quoted _)))).bind fun _ => sendsOnly_orReturn fun _ => Within.pure _

theorem oneLine_readMemory (address : String) (count offset : Int) :
    SendsOnly OneLine (Session.readMemory address count offset : SessionM W _) := by
  have hwith : ∀ {command} (report), OneLine command → SendsOnly OneLine (readMemoryWith command report : SessionM W _) :=
    fun _ h => (oneLine_query (.inr h)).bind fun _ => sendsOnly_orReturn fun _ => Within.pure _
  have hsupports : SendsOnly OneLine (supportsReadMemoryBytes : SessionM W Bool) := by
    refine (sendsOnly_read _).bind fun cached => ?_
    cases cached with
    | some cached => exact Within.pure _
    | none =>
        refine (oneLine_query (.inr (by decide))).bind fun _ => Within.bind (sendsOnly_update ?_) fun _ => Within.pure _
        exact fun _ => rfl
  exact hsupports.bind fun _ => Within.ite (hwith _ (.readMemory _ _ _)) (hwith _ (.legacyReadMemory _ _ _))

/-- A CLI command is known by its first word. -/
theorem isCliCommand_of_startswith {command p : String} (h : PyStr.startswith command p = true) (hsolid : PyStr.solid p = true)
    (hp : PyStr.apart p "-" = true) : isCliCommand command = true := by
  rw [isCliCommand, PyStr.startswith_apart (PyStr.startswith_strip h hsolid) hp]
  rfl

theorem oneLine_require {command : String} (h : isCliCommand command = true ∨ OneLine command) :
    SendsOnly OneLine (require command : SessionM W _) :=
  (oneLine_query h).bind fun _ => sendsOnly_orReturn fun _ => Within.pure _

theorem oneLine_selectInferior (inferiorId : Int) : SendsOnly OneLine (require (inferiorCommand inferiorId) : SessionM W _) :=
  oneLine_require (.inr (.append (a := "inferior ") (by decide) (.int inferiorId)))

theorem oneLine_loadExecutable (inferiorId : Int) (executable : Option String) :
    SendsOnly OneLine (loadExecutable inferiorId executable : SessionM W _) := by
  cases executable with
  | none => exact Within.pure _
  | some path =>
      refine (oneLine_selectInferior inferiorId).bind fun _ => sendsOnly_orReturn fun _ => ?_
      exact oneLine_require (.inr (.append (a := "exec-file ") (by decide) (.quoted path)))

theorem oneLine_settleSelection (previous : Option Int) (inferiorId : Int) (executable : Option String) (makeCurrent : Bool) :
    SendsOnly OneLine (settleSelection previous inferiorId executable makeCurrent : SessionM W _) := by
  unfold settleSelection
  refine Within.ite (Within.ite (oneLine_selectInferior _) (Within.pure _)) ?_
  split
  · exact Within.ite (oneLine_selectInferior _) (Within.pure _)
  · exact Within.pure _

theorem oneLine_refreshInferiorInventory : SendsOnly OneLine (refreshInferiorInventory : SessionM W _) := by
  refine (oneLine_query (.inr (by decide))).bind fun _ => sendsOnly_orReturn fun info => ?_
  refine (sendsOnly_read _).bind fun current => (sendsOnly_narrow _).bind fun listing => ?_
  exact (sendsOnly_mark fun _ => .updateInferiorInventory _ _ _).bind fun _ => Within.pure _

theorem oneLine_addInferior (executable : Option String) (makeCurrent : Bool) :
    SendsOnly OneLine (Session.addInferior executable makeCurrent : SessionM W _) := by
  refine (oneLine_query (.inr (by decide))).bind fun _ => sendsOnly_orReturn fun added => ?_
  refine (sendsOnly_narrow _).bind fun number => ?_
  cases number with
  | none => exact Within.pure _
  | some k =>
      refine (sendsOnly_read _).bind fun previous => (sendsOnly_mark fun _ => .ensureInferior k).bind fun _ => ?_
      refine (oneLine_loadExecutable _ _).bind fun _ => sendsOnly_orReturn fun _ => ?_
      refine (oneLine_settleSelection _ _ _ _).bind fun _ => sendsOnly_orReturn fun _ => ?_
      exact oneLine_refreshInferiorInventory.bind fun _ => sendsOnly_orReturn fun _ => Within.pure _

theorem oneLine_applyEnvironment (env : List (String × String)) (output : List Value) :
    SendsOnly OneLine (applyEnvironment env output : SessionM W _) := by
  induction env generalizing output with
  | nil => exact Within.pure _
  | cons entry rest ih =>
      obtain ⟨name, value⟩ := entry
      rw [applyEnvironment]
      cases environmentValidationError name value with
      | some message => exact Environment.sendsOnly_failStart _ _ _ _
      | none =>
          have hcli : isCliCommand s!"set environment {name} {value}" = true := by
            refine isCliCommand_of_startswith (p := "set") ?_ (by decide) (by decide)
            iterate 3 refine PyStr.startswith_append_left ?_ _
            decide
          have hline := (OneLine.actualCommand_iff s!"set environment {name} {value}").mpr (.inl hcli)
          refine (sendsOnly_executeCommandResult oneLine_inventoryLine hline _ _).bind fun result => ?_
          cases result with
          | success info warnings => exact ih _
          | error message fatal details code => exact Environment.sendsOnly_failStart _ _ _ _

/-- What a request sends: nothing, or lines, exactly if it is no raw MI command of several lines. -/
theorem request_lines_iff (request : Request) (s : Session W) :
    ∃ sent, (request.perform.run s).2.runtime.lines = s.runtime.lines ++ sent ∧
      (sent = [] ∨ ((∀ line ∈ sent, OneLine line) ↔ request.IsLine)) := by
  have hlines : ∀ {m : SessionM W Unit}, SendsOnly OneLine m → ∃ sent, (m.run s).2.runtime.lines = s.runtime.lines ++ sent ∧
      (sent = [] ∨ ((∀ line ∈ sent, OneLine line) ↔ True)) := fun hm =>
    let ⟨later, hlater, hall⟩ := hm.run s
    ⟨later, hlater, .inr (iff_of_true hall trivial)⟩
  cases request with
  | executeCommand command timeoutSec =>
      have hstate : ((Request.executeCommand command timeoutSec).perform.run s).2 =
          ((executeCommandResult command timeoutSec).run s).2 := run_bind_pure_state _ _ s
      rw [hstate]
      rcases lines_executeCommandResult command timeoutSec false s with ⟨hsame, -⟩ | ⟨behind, hsent, hbehind⟩
      · exact ⟨[], hsame.trans (List.append_nil _).symm, .inl rfl⟩
      · refine ⟨_, hsent, .inr ?_⟩
        have hrest : ∀ line ∈ behind, OneLine line := fun line hline => hbehind line hline ▸ oneLine_inventoryLine
        rw [List.forall_mem_cons, and_iff_left hrest, OneLine.actualCommand_iff]
        rfl
  | callFunction functionCall timeoutSec => exact hlines ((oneLine_callFunction _ _).map _)
  | setBreakpoint location condition temporary => exact hlines ((oneLine_setBreakpoint _ _ _).map _)
  | setWatchpoint expression kind => exact hlines ((oneLine_setWatchpoint _ _).map _)
  | updateBreakpoint number condition clearCondition => exact hlines ((oneLine_updateBreakpoint _ _ _).map _)
  | setCatchpoint kind argument temporary => exact hlines ((oneLine_setCatchpoint _ _ _).map _)
  | evaluateExpression expression threadId frame => exact hlines ((oneLine_evaluateExpression _ _ _).map _)
  | readMemory address count offset => exact hlines ((oneLine_readMemory _ _ _).map _)
  | addInferior executable makeCurrent => exact hlines ((oneLine_addInferior _ _).map _)
  | applyEnvironment env => exact hlines ((oneLine_applyEnvironment _ _).map _)

/-- A raw MI command with a newline in it is sent as it is. -/
theorem raw_command_sends_two_lines :
    ((Request.executeCommand "-gdb-version\n-exec-run" 30).perform.run
      (⟨{ transport := { controller := some {} } }, Script.accepting.play⟩ : Session Scripted)).2.runtime.lines =
        ["-gdb-version\n-exec-run"] ∧ ¬OneLine "-gdb-version\n-exec-run" :=
  ⟨by decide +kernel, by decide⟩

end Session

end GdbMcp
