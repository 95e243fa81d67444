import GdbMcp.InspectionDebugger
import GdbMcp.SessionCommand

/-! The commands of an inspection at the debugger: a select moves the selection, any other query leaves it
and the runtime as they are. -/

namespace GdbMcp

open Eff Session

/-! ### Command lines -/

def selectPrefixes : List String := ["-thread-select ", "-stack-select-frame "]

/-- Whether a command line selects a thread or a frame. -/
def isSelect (line : String) : Bool := selectPrefixes.any (PyStr.startswith line)

theorem operandOf_of_not_startswith {p line : String} (h : PyStr.startswith line p = false) :
    operandOf p line = none := by
  rw [operandOf, h]
  rfl

theorem operandOf_append {p : String} (k : Int) : operandOf p (p ++ toString k) = some k := by
  rw [operandOf, if_pos (PyStr.startswith_append p _), String.toList_append, List.drop_left,
    PyStr.readInt_toString]

theorem threadSelectCommand_eq (k : Int) : threadSelectCommand k = "-thread-select " ++ toString k := rfl

theorem frameSelectCommand_eq (k : Int) : frameSelectCommand k = "-stack-select-frame " ++ toString k := rfl

theorem startswith_threadSelectCommand (k : Int) :
    PyStr.startswith (threadSelectCommand k) "-thread-select " = true := by
  rw [threadSelectCommand_eq]
  exact PyStr.startswith_append _ _

theorem startswith_frameSelectCommand (k : Int) :
    PyStr.startswith (frameSelectCommand k) "-stack-select-frame " = true := by
  rw [frameSelectCommand_eq]
  exact PyStr.startswith_append _ _

namespace Selection

variable (selection : Selection)

theorem moved_threadSelect (k : Int) : selection.moved (threadSelectCommand k) =
    { thread := k, frame := if k = selection.thread then selection.frame else 0 } := by
  rw [moved, threadSelectCommand_eq, operandOf_append]

theorem moved_frameSelect (k : Int) : selection.moved (frameSelectCommand k) = { selection with frame := k } := by
  have hthread : operandOf "-thread-select " (frameSelectCommand k) = none :=
    operandOf_of_not_startswith (PyStr.startswith_apart (startswith_frameSelectCommand k) (by decide))
  rw [moved, hthread, frameSelectCommand_eq, operandOf_append]

theorem moved_of_not_isSelect {line : String} (h : isSelect line = false) : selection.moved line = selection := by
  rw [isSelect, List.any_eq_false] at h
  simp only [selectPrefixes, List.forall_mem_cons, Bool.not_eq_true] at h
  rw [moved, operandOf_of_not_startswith h.1, operandOf_of_not_startswith h.2.1]

end Selection

theorem not_isSelect_of_startswith {line p : String} (hline : PyStr.startswith line p = true)
    (hp : ∀ q ∈ selectPrefixes, PyStr.apart p q = true) : isSelect line = false :=
  PyStr.any_startswith_apart hline hp

/-- A command that changes nothing in the runtime by its text, and that is sent as no select. -/
structure Harmless (command : String) : Prop where
  silent : Session.Silent command
  noSelect : isSelect (actualCommand command) = false

/-- The start of a harmless command. -/
def harmlessPrefix (p : String) : Bool := inertPrefix p && selectPrefixes.all (PyStr.apart p)

theorem harmless_of_startswith {command p : String} (h : PyStr.startswith command p = true)
    (hp : harmlessPrefix p = true) : Harmless command := by
  rw [harmlessPrefix, Bool.and_eq_true, List.all_eq_true] at hp
  refine ⟨applyCommandText_inert h hp.1, ?_⟩
  rw [actualCommand]
  split
  · exact not_isSelect_of_startswith (PyStr.startswith_append "-interpreter-exec console " _) (by decide)
  · exact not_isSelect_of_startswith h hp.2

theorem harmless_append {p t : String} (q : String) (hpq : PyStr.startswith p q = true)
    (hq : harmlessPrefix q = true) : Harmless (p ++ t) :=
  harmless_of_startswith (PyStr.startswith_append_left hpq t) hq

/-! ### A query and its answer -/

namespace Session

variable {s : Session Debugger} {command : String}

/-- The thread and the frame that the runtime takes for the selected ones. -/
def marks (s : Session Debugger) : Option Int × Option Int :=
  (s.runtime.currentThreadId, s.runtime.currentFrame)

/-- What a command to the debugger leaves behind. -/
structure Sent (s : Session Debugger) (line : String) (s' : Session Debugger) : Prop where
  gdb : s'.gdb = s.gdb.asked line
  marks : s'.marks = s.marks
  hasController : s'.runtime.hasController = true

theorem Asked.sent {line : String} {s' : Session Debugger} (h : Asked s line s') : Sent s line s' := by
  obtain ⟨client, entry, hruntime⟩ := h.runtime
  refine ⟨h.gdb, ?_, h.hasController⟩
  rw [Session.marks, Session.marks, hruntime]
  rfl

/-- An MI query succeeds where it is accepted, and its payload is that of the answer. -/
theorem query_mi (hs : s.runtime.hasController = true) (hcommand : PyStr.startswith command "-" = true) :
    wp (query command)
      (fun result s' => Sent s command s' ∧ result.isSuccess = (s.answerTo command).accepted ∧
        ∀ info warnings, result = .success info warnings →
          extractMiResultPayload info = (s.answerTo command).payload)
      (fun _ _ => False) s := by
  have hline := actualCommand_of_dash hcommand
  refine wp_mono (query_asked hs fun parsed => applyCommandText_mi hcommand parsed) (fun result s' h => ?_)
    fun _ _ h => h
  rw [hline] at h
  obtain ⟨hasked, hresult⟩ := h
  refine ⟨hasked.sent, ?_⟩
  cases haccepted : (s.answerTo command).accepted with
  | false =>
      rw [haccepted] at hresult
      refine ⟨hresult, fun info warnings heq => ?_⟩
      subst heq
      exact nomatch hresult
  | true =>
      rw [haccepted] at hresult
      obtain ⟨parsed, rfl, hpayload⟩ := hresult
      refine ⟨rfl, fun info warnings heq => ?_⟩
      have hinfo := (OperationResult.success.inj heq).1
      have hmi : isCliCommand command = false := by
        rw [isCliCommand, PyStr.startswith_strip hcommand (by decide)]
        rfl
      rw [← hinfo, commandInfo, hmi, ← hpayload]
      rfl

/-- The debugger accepts a command and answers it with a payload of some kind. -/
def AnswersWith (s : Session Debugger) (command : String) (P : Value → Prop) : Prop :=
  ∀ n selection, (s.gdb.answers n command selection).accepted = true ∧ P (s.gdb.answers n command selection).payload

theorem query_answered {P : Value → Prop} (hs : s.runtime.hasController = true)
    (hcommand : PyStr.startswith command "-" = true) (hanswers : AnswersWith s command P) :
    wp (query command)
      (fun result s' => Sent s command s' ∧
        ∃ info warnings, result = .success info warnings ∧ P (extractMiResultPayload info))
      (fun _ _ => False) s := by
  refine wp_mono (query_mi hs hcommand) (fun result s' ⟨hsent, hsuccess, hpayload⟩ => ⟨hsent, ?_⟩) fun _ _ h => h
  obtain ⟨haccepted, hprinted⟩ := hanswers s.gdb.log.length s.gdb.selection
  cases result with
  | error => exact absurd (hsuccess.trans haccepted) nofun
  | success info warnings =>
      refine ⟨info, warnings, rfl, ?_⟩
      rw [hpayload _ _ rfl]
      exact hprinted

end Session
end GdbMcp
