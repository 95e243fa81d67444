import GdbMcp.BasePosix
import GdbMcp.MiOperands
import GdbMcp.RunnerCommand

/-! The arguments of a program on their way through GDB, which hands the operand text of `-exec-arguments` to a shell.
The text is escaped for GDB, and the shell reads it by its own rules. -/

namespace GdbMcp

/-- The operand text of a command, behind its name and a space. -/
def rawOperands (name command : String) : String := PyStr.dropPrefix command (name.toList.length + 1)

/-- What the shell sees of a character in the encoded arguments. -/
def shellView (c : Char) : Option (List Char) :=
  if Posix.isExpansion c then none
  else if c = '\n' then some ['\\', 'n']
  else if c = '\r' then some ['\\', 'r']
  else if c = '\t' then some ['\\', 't']
  else some [c]

/-- A character that the shell reads back from the encoded arguments. -/
def survivesShell (c : Char) : Bool := !(Posix.isExpansion c || isLineControl c)

theorem views_escapeMiChar : Posix.Views escapeMiChar shellView := by
  intro token c rest
  unfold escapeMiChar
  split
  · rfl
  · rfl
  · rfl
  · rfl
  · rfl
  · rename_i hslash hquote hnewline hreturn htab
    have hview : shellView c = if Posix.isExpansion c then none else some [c] := by
      simp only [shellView, if_neg (show ¬c = '\n' from hnewline), if_neg (show ¬c = '\r' from hreturn),
        if_neg (show ¬c = '\t' from htab)]
    rw [List.singleton_append, Posix.scan, if_neg (by exact hquote), if_neg (by exact hslash), hview]
    split <;> rfl

theorem lengthens_shellView : Posix.Lengthens shellView := by
  intro c cs h
  unfold shellView at h
  split_ifs at h
  · exact .inr (Option.some.inj h ▸ by decide)
  · exact .inr (Option.some.inj h ▸ by decide)
  · exact .inr (Option.some.inj h ▸ by decide)
  · exact .inl (Option.some.inj h).symm

theorem shellView_eq_self_iff (c : Char) : shellView c = some [c] ↔ survivesShell c = true := by
  unfold shellView survivesShell isLineControl
  split_ifs <;> simp_all

theorem rawOperands_execArguments (args : List String) :
    (rawOperands "-exec-arguments" (buildExecArgumentsCommand args)).toList =
      [' '].intercalate (args.map fun arg => Posix.quote escapeMiChar arg.toList) := by
  have hquote : args.map (String.toList ∘ quoteMiString) = args.map fun arg => Posix.quote escapeMiChar arg.toList :=
    List.map_congr_left fun arg _ => by simp [quoteMiString, escapeMiString, Posix.quote]
  rw [rawOperands, PyStr.dropPrefix, String.toList_ofList, buildExecArgumentsCommand_eq, ← hquote]
  cases args with
  | nil => rfl
  | cons arg rest =>
      have hwords : (CString.Word.bare "-exec-arguments" :: (arg :: rest).map .quoted).map writeWord =
          "-exec-arguments" :: (arg :: rest).map quoteMiString := by
        rw [List.map_cons, List.map_map]
        rfl
      have hlength : "-exec-arguments".toList.length + 1 = ("-exec-arguments" ++ " ").toList.length := by decide
      rw [hwords, String.intercalate_cons_of_ne_nil (by simp), String.toList_append, ← List.map_map, hlength,
        List.drop_left, String.toList_intercalate]
      rfl

/-- The arguments of a run are sent as they are built, and the shell reads them back, with no expansion, if and only if
none of them holds a dollar sign, a backquote, a line break or a tab. -/
theorem exec_arguments_survive_iff (args : List String) :
    Session.actualCommand (buildExecArgumentsCommand args) = buildExecArgumentsCommand args ∧
      (Posix.split (rawOperands "-exec-arguments" (buildExecArgumentsCommand args)) = some args ↔
        ∀ arg ∈ args, ∀ c ∈ arg.toList, survivesShell c = true) := by
  constructor
  · have hstart : PyStr.startswith (buildExecArgumentsCommand args) "-" = true := by
      unfold buildExecArgumentsCommand
      extract_lets encodedArgs
      split
      · decide
      · exact PyStr.startswith_append_left (by decide) _
    have hcli : isCliCommand (buildExecArgumentsCommand args) = false := by
      rw [isCliCommand, PyStr.startswith_strip hstart (by decide)]
      rfl
    rw [Session.actualCommand, hcli]
    rfl
  · rw [Posix.split, rawOperands_execArguments, Posix.scan_line_eq_iff views_escapeMiChar lengthens_shellView]
    simp only [shellView_eq_self_iff]

/-- The program is started with the expansion of its argument, or with a backslash and an `n` for a line break. -/
theorem dollar_expanded :
    Posix.split (rawOperands "-exec-arguments" (buildExecArgumentsCommand ["$HOME"])) = none ∧
      Posix.split (rawOperands "-exec-arguments" (buildExecArgumentsCommand ["a\nb"])) = some ["a\\nb"] := by
  decide +kernel

end GdbMcp
