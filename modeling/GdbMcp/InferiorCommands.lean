import GdbMcp.InferiorDebugger

/-! The commands to a debugger with inferiors: which of them select an inferior, and what they answer. -/

namespace GdbMcp

open Eff Session SessionRuntime

/-! ### The text of `inferior N` -/

theorem parseDigits_natural {text : String} {k : Int} (h : parseDigits text = .ok (some k)) : ∃ n : Nat, k = n := by
  rw [parseDigits] at h
  split at h
  · rename_i hdigits
    cases hint : PyStr.int 10 text with
    | error e =>
        rw [hint] at h
        cases h
    | ok j =>
        rw [hint] at h
        obtain rfl : j = k := Option.some.inj (Except.ok.inj h)
        exact Int.eq_ofNat_of_zero_le (PyStr.int_nonneg hdigits hint)
  · cases Except.ok.inj h

/-- A thread group is numbered by a natural number. -/
theorem parseInferiorIdFromThreadGroup_natural {value : Value} {k : Int}
    (h : parseInferiorIdFromThreadGroup value = .ok (some k)) : ∃ n : Nat, k = n := by
  rw [parseInferiorIdFromThreadGroup] at h
  split at h
  · exact nomatch Except.ok.inj h
  · exact parseDigits_natural h

theorem inferiorCommand_eq (k : Int) : inferiorCommand k = "inferior " ++ toString k := rfl

theorem normalizeCommand_inferior (n : Nat) : normalizeCommand (inferiorCommand n) = inferiorCommand n := by
  rw [normalizeCommand, inferiorCommand_eq, PyStr.strip_of_solid (PyStr.solid_append_natCast (by decide) n), PyStr.lower,
    String.toList_append, PyStr.toList_toString_natCast, List.flatMap_append, PyStr.flatMap_toDigits (by decide),
    String.ofList_append, ← PyStr.toList_toString_natCast, String.ofList_toList]
  rfl

theorem splitOnce_inferior (n : Nat) : PyStr.splitOnce (inferiorCommand n) = ["inferior", toString (n : Int)] := by
  have hdigits : (toString (n : Int)).toList.dropWhile PyStr.isSpace = (toString (n : Int)).toList :=
    PyStr.dropWhile_eq_self_of_head (Bool.and_eq_true_iff.mp (PyStr.solid_natCast n)).1
  rw [PyStr.splitOnce, inferiorCommand_eq, String.toList_append]
  change (if ((toString (n : Int)).toList.dropWhile PyStr.isSpace).isEmpty then ["inferior"]
    else ["inferior", String.ofList ((toString (n : Int)).toList.dropWhile PyStr.isSpace)]) = _
  rw [hdigits, PyStr.toList_toString_natCast, if_neg (by simp), ← PyStr.toList_toString_natCast, String.ofList_toList]

theorem parseInferiorId_inferior {n : Nat} {r : Option Int} (h : parseInferiorId (normalizeCommand (inferiorCommand n)) = .ok r) :
    r = some (n : Int) := by
  rw [normalizeCommand_inferior, parseInferiorId, parseCommandNumber, splitOnce_inferior] at h
  simp only [PyStr.strip_of_solid (PyStr.solid_natCast n)] at h
  exact parseDigits_natCast h

/-- A text behind a start that needs no escapes, in quotes. -/
theorem toList_append_quote (opening : String) {p : String} (hp : p.toList.flatMap escapeMiChar = p.toList) (t : String) :
    (opening ++ quoteMiString (p ++ t)).toList =
      opening.toList ++ '"' :: p.toList ++ (t.toList.flatMap escapeMiChar ++ ['"']) := by
  rw [quoteMiString, escapeMiString, String.toList_append, String.toList_append, String.toList_append, String.toList_ofList,
    String.toList_append, List.flatMap_append, hp]
  simp

/-- The line for a command with such a start. -/
theorem toList_wrapCliCommand {p : String} (hp : p.toList.flatMap escapeMiChar = p.toList) {opening : String}
    (hopening : opening.toList = "-interpreter-exec console ".toList ++ '"' :: p.toList) (t : String) :
    (wrapCliCommand (p ++ t)).toList = opening.toList ++ (t.toList.flatMap escapeMiChar ++ ['"']) := by
  rw [hopening]
  exact toList_append_quote "-interpreter-exec console " hp t

theorem selectedBy_execFile (executable : String) : selectedBy (actualCommand (execFileCommand executable)) = none := by
  have hchars := @toList_wrapCliCommand "exec-file " (by rfl) "-interpreter-exec console \"exec-file " (by rfl)
    (quoteMiString executable)
  have hstart : PyStr.startswith (wrapCliCommand (execFileCommand executable)) "-interpreter-exec console \"exec-file " = true :=
    PyStr.startswith_iff.mpr ⟨_, hchars⟩
  have hcli : actualCommand (execFileCommand executable) = wrapCliCommand (execFileCommand executable) :=
    @actualCommand_cli _ "exec-file" (@PyStr.startswith_append_left "exec-file " _ (by decide) _) (by decide) (by decide)
  rw [hcli, selectedBy, PyStr.startswith_apart hstart (by decide)]
  rfl

theorem selectedBy_inferior (n : Nat) : selectedBy (actualCommand (inferiorCommand n)) = some (n : Int) := by
  have hchars := @toList_wrapCliCommand "inferior " (by rfl) "-interpreter-exec console \"inferior " (by rfl)
    (toString (n : Int))
  rw [PyStr.toList_toString_natCast, PyStr.flatMap_toDigits (by decide)] at hchars
  have hstart : PyStr.startswith (wrapCliCommand (inferiorCommand n)) "-interpreter-exec console \"inferior " = true :=
    PyStr.startswith_iff.mpr ⟨_, hchars⟩
  have hcli : actualCommand (inferiorCommand n) = wrapCliCommand (inferiorCommand n) :=
    @actualCommand_cli _ "inferior" (@PyStr.startswith_append_left "inferior " _ (by decide) _) (by decide) (by decide)
  have hread := PyStr.readInt_toString n
  rw [PyStr.toList_toString_natCast] at hread
  rw [hcli, selectedBy, hstart, if_pos rfl, inferiorCommand_eq, hchars, List.drop_left, List.dropLast_concat, hread]

/-! ### Commands and the inferior that they select -/

/-- A command that selects an inferior where it is accepted, in the debugger and in the session; or none. -/
structure SelectsInferior (command : String) (target : Option Int) : Prop where
  line : selectedBy (actualCommand command) = target
  text : ∀ {parsed : ParsedMiResponse} {rt rt' : SessionRuntime}, parsed.isErrorResult = false →
    (applyCommandText command parsed).run rt = (.ok (), rt') →
      rt'.currentInferiorId = (target <|> rt.currentInferiorId) ∧ rt'.transport = rt.transport

theorem selectsInferior_none {command : String} (hline : selectedBy (actualCommand command) = none)
    (htext : ∀ parsed, applyCommandText command parsed = pure ()) : SelectsInferior command none where
  line := hline
  text := by
    intro parsed rt rt' _ hrun
    rw [htext parsed] at hrun
    obtain ⟨-, rfl⟩ := Prod.mk.inj hrun
    exact ⟨by cases rt.currentInferiorId <;> rfl, rfl⟩

theorem selectsInferior_add : SelectsInferior "-add-inferior" none :=
  selectsInferior_none (by decide) (applyCommandText_mi (by decide))

theorem selectsInferior_info : SelectsInferior "info inferiors" none :=
  selectsInferior_none (by decide) fun parsed => @applyCommandText_inert _ "info inferiors" (by decide) (by decide) parsed

theorem selectsInferior_execFile (executable : String) : SelectsInferior (execFileCommand executable) none := by
  have hstart : PyStr.startswith (execFileCommand executable) "exec-file" = true :=
    @PyStr.startswith_append_left "exec-file " _ (by decide) _
  exact selectsInferior_none (selectedBy_execFile executable) (applyCommandText_inert hstart (by decide))

theorem startswith_inferiorCommand (n : Nat) : PyStr.startswith (inferiorCommand n) "inferior " = true := by
  rw [inferiorCommand_eq]
  exact PyStr.startswith_append _ _

theorem inferiorCommand_apart (n : Nat) {q : String} (hq : PyStr.apart "inferior " q = true) :
    PyStr.startswith (inferiorCommand n) q = false :=
  PyStr.startswith_apart (startswith_inferiorCommand n) hq

theorem inferiorCommand_ne (n : Nat) {q : String} (hq : PyStr.startswith q "inferior " = false) :
    (inferiorCommand n == q) = false := by
  refine beq_eq_false_iff_ne.mpr fun heq => ?_
  rw [← heq, startswith_inferiorCommand] at hq
  exact nomatch hq

theorem applyCommandText_inferior (n : Nat) {parsed : ParsedMiResponse} (haccepted : parsed.isErrorResult = false) :
    applyCommandText (inferiorCommand n) parsed = (do
      let inferiorId ← Eff.ofExcept (parseInferiorId (normalizeCommand (inferiorCommand n)))
      Eff.modify fun rt => inferiorId.elim rt fun k => rt.markInferiorSelected (some k)) := by
  have hfile := @inferiorCommand_apart n "file " (by decide)
  have hcore := @inferiorCommand_apart n "core-file " (by decide)
  have hattach := @inferiorCommand_apart n "attach " (by decide)
  have hdetach := @inferiorCommand_ne n "detach" (by decide)
  unfold applyCommandText
  simp only [normalizeCommand_inferior, loadsTarget, hfile, hcore, hattach, hdetach, startswith_inferiorCommand, haccepted,
    Bool.or_self, Bool.false_and, Bool.not_false, Bool.and_self, Bool.false_eq_true, if_true, if_false]

theorem selectsInferior_inferior (n : Nat) : SelectsInferior (inferiorCommand n) (some n) where
  line := selectedBy_inferior n
  text := by
    intro parsed rt rt' haccepted hrun
    rw [applyCommandText_inferior n haccepted] at hrun
    obtain ⟨r, rt₁, hparse, hmark⟩ := ok_of_run_bind hrun
    obtain ⟨hr, rfl⟩ := Prod.mk.inj hparse
    rw [parseInferiorId_inferior hr] at hmark
    obtain ⟨-, rfl⟩ := Prod.mk.inj hmark
    exact ⟨congrArg Prod.fst (selection_markInferiorSelected rt _),
      congrArg (fun frame => frame.2.2.1) (frame_markInferiorSelected rt _)⟩

/-! ### One command to the debugger -/

namespace Session

variable {s s' : Session InferiorDebugger} {command : String} {target : Option Int} {c : Int}

/-- The answer to the next command. -/
def inferiorAnswer (s : Session InferiorDebugger) (command : String) : InferiorAnswer := s.gdb.answer (actualCommand command)

theorem answeredWith (hs : s.runtime.hasController = true) (command : String) :
    s.AnsweredWith command (s.inferiorAnswer command).others
      ((s.inferiorAnswer command).result s.runtime.transport.commandToken) (s.gdb.asked (actualCommand command)) where
  hasController := hs
  liveness := rfl
  exchange := ⟨_, rfl, rfl⟩
  notFatal r hr := ((s.inferiorAnswer command).calm r hr).notFatal
  notResult r hr := ((s.inferiorAnswer command).calm r hr).notResult
  stream r hr := ((s.inferiorAnswer command).calm r hr).stream
  own := by simp [InferiorAnswer.result, MiRecord.isResultOf]
  notRunning := by
    rw [InferiorAnswer.result]
    cases (s.inferiorAnswer command).accepted <;> simp

/-- What a command leaves behind: the debugger has answered it, and where it is accepted its inferior is the current
one. -/
structure Followed (s : Session InferiorDebugger) (command : String) (target : Option Int) (c : Int)
    (result : OperationResult CommandExecutionInfo) (s' : Session InferiorDebugger) : Prop where
  gdb : s'.gdb = s.gdb.asked (actualCommand command)
  hasController : s'.runtime.hasController = true
  isSuccess : result.isSuccess = (s.inferiorAnswer command).accepted
  current : s'.runtime.currentInferiorId = some (if (s.inferiorAnswer command).accepted then target.getD c else c)
  value : ∀ info warnings, result = .success info warnings → ∃ parsed, info = commandInfo command parsed ∧
    ReadsAs (s.inferiorAnswer command).others ((s.inferiorAnswer command).result s.runtime.transport.commandToken) parsed

/-- The update behind an accepted command. -/
theorem update_followed {parsed : ParsedMiResponse} (hcommand : SelectsInferior command target)
    (hclass : parsed.resultClass = some "done") (hcalm : ∀ n ∈ parsed.notify, n.isCalm = true)
    (hc : s.runtime.currentInferiorId = some c)
    (hrun : (updateRuntimeAfterCommand command parsed).run s = (.ok (), s')) :
    s'.gdb = s.gdb ∧ s'.runtime.transport = s.runtime.transport ∧
      s'.runtime.currentInferiorId = some (target.getD c) := by
  have haccepted : parsed.isErrorResult = false := by
    rw [ParsedMiResponse.isErrorResult, hclass]
    rfl
  rw [updateRuntimeAfterCommand] at hrun
  obtain ⟨scan, s₁, hscanned, hrest⟩ := ok_of_run_bind hrun
  obtain ⟨hstop, hcurrent, htransport⟩ := wp_ok (scanNotifies_calm hcalm rfl hc) (ok_of_onRuntime hscanned)
  obtain ⟨_, s₂, happly, htext⟩ := ok_of_run_bind hrest
  rw [applyScan, hstop, hclass] at happly
  obtain ⟨-, rfl⟩ := Prod.mk.inj happly
  obtain ⟨hselected, htransport'⟩ := hcommand.text haccepted (ok_of_onRuntime htext)
  refine ⟨(gdb_of_onRuntime htext).trans (gdb_of_onRuntime hscanned), htransport'.trans htransport, hselected.trans ?_⟩
  rw [hcurrent]
  cases target <;> rfl

theorem query_followed (hcommand : SelectsInferior command target) (hs : s.runtime.hasController = true)
    (hc : s.runtime.currentInferiorId = some c) {result : OperationResult CommandExecutionInfo}
    (hrun : (query command).run s = (.ok result, s')) : Followed s command target c result s' := by
  obtain ⟨client, parsed, hclient, hreads, hsettles⟩ := run_query_answered (answeredWith hs command)
  have hcalm : ∀ n ∈ parsed.notify, n.isCalm = true := by
    intro n hn
    obtain ⟨r, hr, hnotify⟩ := hreads.notify n hn
    exact ((s.inferiorAnswer command).calm r hr).calm n hnotify
  have hcontroller : client.controller.isSome = true := by
    rw [hclient]
    exact hs
  have hclass := hreads.resultClass
  rw [hsettles, settleAnswer] at hrun
  cases haccepted : (s.inferiorAnswer command).accepted with
  | true =>
      have hdone : parsed.resultClass = some "done" := by
        rw [hclass, InferiorAnswer.result, haccepted]
        rfl
      rw [if_neg (by rw [ParsedMiResponse.isErrorResult, hdone]; decide)] at hrun
      obtain ⟨_, s₁, hupdate, hrest⟩ := ok_of_run_bind hrun
      let s₀ : Session InferiorDebugger :=
        { runtime := s.runtime.withTransport client, gdb := s.gdb.asked (actualCommand command) }
      obtain ⟨hgdb, htransport, hcurrent⟩ := update_followed (s := s₀) hcommand hdone hcalm hc hupdate
      obtain ⟨_, s₂, hrecord, hpure⟩ := ok_of_run_bind hrest
      obtain ⟨-, rfl⟩ := Prod.mk.inj hrecord
      obtain ⟨hresult, rfl⟩ := Prod.mk.inj hpure
      obtain rfl := Except.ok.inj hresult
      refine ⟨hgdb, ?_, haccepted.symm, ?_, ?_⟩
      · exact (congrArg (fun m => m.controller.isSome) htransport).trans hcontroller
      · rw [haccepted]
        exact hcurrent
      · intro info warnings heq
        obtain ⟨rfl, -⟩ := OperationResult.success.inj heq
        exact ⟨parsed, rfl, hreads⟩
  | false =>
      have herror : parsed.isErrorResult = true := by
        rw [ParsedMiResponse.isErrorResult, hclass, InferiorAnswer.result, haccepted]
        rfl
      rw [if_pos herror] at hrun
      obtain ⟨_, s₁, hrecord, hpure⟩ := ok_of_run_bind hrun
      obtain ⟨-, rfl⟩ := Prod.mk.inj hrecord
      obtain ⟨hresult, rfl⟩ := Prod.mk.inj hpure
      obtain rfl := Except.ok.inj hresult
      refine ⟨rfl, hcontroller, haccepted.symm, ?_, nofun⟩
      rw [haccepted]
      exact hc

end Session
end GdbMcp
