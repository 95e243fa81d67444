import GdbMcp.BaseCString
import GdbMcp.BaseTextFacts
import GdbMcp.BreakpointOperations

/-! What GDB reads in the commands that are built for it: the words of a line, of which those in quotes are the strings
that they were built from. -/

namespace GdbMcp

open CString

theorem escapes_escapeMiChar : Escapes escapeMiChar := by
  intro text c rest
  unfold escapeMiChar
  split
  · rfl
  · rfl
  · rfl
  · rfl
  · rfl
  · rename_i hslash hquote _ _ _
    rw [List.singleton_append, CString.scan, if_neg (by exact hquote), if_neg (by exact hslash)]

/-- A word of a command. -/
def writeWord : Word → String
  | .bare text => text
  | .quoted text => quoteMiString text

theorem toList_writeWord (w : Word) : (writeWord w).toList = render escapeMiChar w := by
  cases w with
  | bare text => rfl
  | quoted text => simp [writeWord, render, quoteMiString, escapeMiString]

/-- The line of some words is split into these words. -/
theorem split_line {words : List Word} (hne : words ≠ []) (hfits : ∀ w ∈ words, w.Fits) :
    CString.split (String.intercalate " " (words.map writeWord)) = some words := by
  rw [CString.split, String.toList_intercalate, List.map_map]
  have htexts : words.map (String.toList ∘ writeWord) = words.map (render escapeMiChar) :=
    List.map_congr_left fun w _ => toList_writeWord w
  rw [htexts]
  exact scan_line escapes_escapeMiChar hne hfits

/-! ### The words of the commands -/

theorem fits_int (k : Int) : (Word.bare (toString k)).Fits := by
  have hdigits : ∀ n : Nat, Nat.toDigits 10 n ≠ [] ∧ ' ' ∉ Nat.toDigits 10 n ∧ (Nat.toDigits 10 n).head? ≠ some '"' := by
    intro n
    have hplain := PyStr.forall_mem_toDigits (p := fun c => c != ' ' && c != '"') (by decide) n
    refine ⟨PyStr.toDigits_ne_nil n, fun hspace => ?_, fun hhead => ?_⟩
    · exact absurd (hplain _ hspace) (by decide)
    · exact absurd (hplain _ (List.mem_of_mem_head? hhead)) (by decide)
  cases k with
  | ofNat n =>
      have hchars : (toString (Int.ofNat n)).toList = Nat.toDigits 10 n := Nat.toList_repr
      rw [Word.Fits, hchars]
      exact hdigits n
  | negSucc n =>
      have hchars : (toString (Int.negSucc n)).toList = '-' :: Nat.toDigits 10 (n + 1) := by
        change ("-" ++ Nat.repr (n + 1)).toList = _
        rw [String.toList_append, Nat.toList_repr]
        rfl
      rw [Word.Fits, hchars]
      exact ⟨List.cons_ne_nil _ _, by simpa using (hdigits (n + 1)).2.1, by simp⟩

theorem fits_quoted (texts : List String) : ∀ w ∈ texts.map Word.quoted, w.Fits := by
  intro w hw
  obtain ⟨text, -, rfl⟩ := List.mem_map.mp hw
  trivial

theorem buildExecArgumentsCommand_eq (args : List String) : buildExecArgumentsCommand args =
    String.intercalate " " ((.bare "-exec-arguments" :: args.map .quoted).map writeWord) := by
  have hargs : (args.map Word.quoted).map writeWord = args.map quoteMiString := List.map_map
  rw [List.map_cons, hargs, buildExecArgumentsCommand]
  cases args with
  | nil => rfl
  | cons arg rest =>
      have hquoted : ∀ behind, quoteMiString arg ++ behind ≠ "" := by
        intro behind hempty
        have hchars := congrArg String.toList hempty
        rw [quoteMiString, String.append_assoc, String.append_assoc, String.toList_append] at hchars
        exact nomatch hchars
      have hne : String.intercalate " " ((arg :: rest).map quoteMiString) ≠ "" := by
        cases rest with
        | nil => simpa using hquoted ""
        | cons arg' rest =>
            rw [List.map_cons, List.map_cons, String.intercalate_cons_cons, String.append_assoc]
            exact hquoted _
      rw [if_neg hne, String.intercalate_cons_of_ne_nil (by simp)]
      rfl

theorem split_execArguments (args : List String) : CString.split (buildExecArgumentsCommand args) =
    some (.bare "-exec-arguments" :: args.map .quoted) := by
  rw [buildExecArgumentsCommand_eq]
  refine split_line (List.cons_ne_nil _ _) (List.forall_mem_cons.mpr ⟨?_, fits_quoted args⟩)
  exact ⟨by decide, by decide, by decide⟩

theorem split_evaluate (expression : String) : CString.split (buildEvaluateExpressionCommand expression) =
    some [.bare "-data-evaluate-expression", .quoted expression] := by
  refine @split_line [.bare "-data-evaluate-expression", .quoted expression] (List.cons_ne_nil _ _) ?_
  simp [Word.Fits]

theorem split_wrapCli (command : String) : CString.split (wrapCliCommand command) =
    some [.bare "-interpreter-exec", .bare "console", .quoted command] := by
  refine @split_line [.bare "-interpreter-exec", .bare "console", .quoted command] (List.cons_ne_nil _ _) ?_
  simp [Word.Fits]

theorem wrapCliCommand_injective : Function.Injective wrapCliCommand := by
  intro a b h
  have hsplit := split_wrapCli a
  rw [h, split_wrapCli] at hsplit
  simpa using hsplit.symm

/-- The words of the command that reads memory. -/
def readMemoryWords (address : String) (count offset : Int) : List Word :=
  [.bare "-data-read-memory-bytes"] ++ (if offset ≠ 0 then [.bare "-o", .bare (toString offset)] else []) ++
    [.quoted address, .bare (toString count)]

theorem buildReadMemoryCommand_eq (address : String) (count offset : Int) :
    buildReadMemoryCommand address count offset =
      String.intercalate " " ((readMemoryWords address count offset).map writeWord) := by
  unfold buildReadMemoryCommand readMemoryWords
  by_cases hzero : offset = 0
  · simp [hzero, writeWord, String.append_assoc]
    rfl
  · simp only [hzero, ne_eq, not_false_eq_true, if_true, writeWord, List.map_cons, List.map_nil,
      List.cons_append, List.nil_append, String.intercalate_cons_cons, String.intercalate_singleton]
    change "-data-read-memory-bytes " ++ ("-o " ++ toString offset ++ " ") ++ quoteMiString address ++ " " ++ toString count = _
    simp only [String.append_assoc]
    rfl

theorem split_readMemory (address : String) (count offset : Int) :
    CString.split (buildReadMemoryCommand address count offset) = some (readMemoryWords address count offset) := by
  rw [buildReadMemoryCommand_eq]
  refine split_line (by simp [readMemoryWords]) ?_
  simp only [readMemoryWords, List.forall_mem_append]
  refine ⟨⟨by simp [Word.Fits], ?_⟩, ?_⟩
  · split
    · simpa [Word.Fits] using fits_int offset
    · exact List.forall_mem_nil _
  · simpa [Word.Fits] using fits_int count

/-- The words of the command that sets a breakpoint. -/
def breakInsertWords (location : String) (condition : Option String) (temporary : Bool) : List Word :=
  [.bare "-break-insert"] ++ (if temporary then [.bare "-t"] else []) ++
    (condition.filter (· ≠ "")).elim [] (fun text => [.bare "-c", .quoted text]) ++
    (if PyStr.startswith location "-" then [.bare "--"] else []) ++ [.quoted location]

theorem breakInsertCommand_eq (location : String) (condition : Option String) (temporary : Bool) :
    breakInsertCommand location condition temporary =
      String.intercalate " " ((breakInsertWords location condition temporary).map writeWord) := by
  unfold breakInsertCommand breakInsertWords miOperand
  by_cases hdash : PyStr.startswith location "-" = true
  · cases temporary <;> cases condition.filter (· ≠ "") <;> simp [hdash, writeWord, String.append_assoc]
  · cases temporary <;> cases condition.filter (· ≠ "") <;> simp [hdash, writeWord, String.append_assoc]

theorem split_breakInsert (location : String) (condition : Option String) (temporary : Bool) :
    CString.split (breakInsertCommand location condition temporary) =
      some (breakInsertWords location condition temporary) := by
  rw [breakInsertCommand_eq]
  refine split_line (by simp [breakInsertWords]) ?_
  simp only [breakInsertWords, List.forall_mem_append]
  refine ⟨⟨⟨⟨by simp [Word.Fits], ?_⟩, ?_⟩, ?_⟩, by simp [Word.Fits]⟩
  · split <;> simp [Word.Fits]
  · cases condition.filter (· ≠ "") <;> simp [Word.Fits]
  · split <;> simp [Word.Fits]

/-! ### Control characters -/

/-- A character that would end the line or move in it. -/
def isLineControl (c : Char) : Bool := c == '\r' || c == '\n' || c == '\t'

theorem isLineControl_escapeMiChar {c d : Char} (h : d ∈ escapeMiChar c) : isLineControl d = false := by
  unfold escapeMiChar at h
  split at h
  all_goals simp only [List.mem_cons, List.not_mem_nil, or_false] at h
  · rcases h with rfl | rfl <;> rfl
  · rcases h with rfl | rfl <;> rfl
  · rcases h with rfl | rfl <;> rfl
  · rcases h with rfl | rfl <;> rfl
  · rcases h with rfl | rfl <;> rfl
  · subst h
    simp_all [isLineControl]

/-- A string in quotes has no raw control characters. -/
theorem isLineControl_quoteMiString {s : String} : ∀ c ∈ (quoteMiString s).toList, isLineControl c = false := by
  intro c hc
  simp only [quoteMiString, escapeMiString, String.toList_append, String.toList_ofList, List.mem_append,
    List.mem_flatMap] at hc
  rcases hc with (hc | ⟨d, -, hd⟩) | hc
  · obtain rfl := List.mem_singleton.mp hc
    rfl
  · exact isLineControl_escapeMiChar hd
  · obtain rfl := List.mem_singleton.mp hc
    rfl

theorem isLineControl_intercalate {parts : List String} (h : ∀ part ∈ parts, ∀ c ∈ part.toList, isLineControl c = false) :
    ∀ c ∈ (String.intercalate " " parts).toList, isLineControl c = false := by
  induction parts with
  | nil => simp
  | cons part rest ih =>
      obtain ⟨hpart, hrest⟩ := List.forall_mem_cons.mp h
      cases rest with
      | nil => simpa using hpart
      | cons part' rest =>
          rw [String.intercalate_cons_cons, String.toList_append, String.toList_append]
          refine List.forall_mem_append.mpr ⟨List.forall_mem_append.mpr ⟨hpart, ?_⟩, ih hrest⟩
          exact List.forall_mem_singleton.mpr rfl

theorem isLineControl_execArguments (args : List String) :
    ∀ c ∈ (buildExecArgumentsCommand args).toList, isLineControl c = false := by
  rw [buildExecArgumentsCommand_eq]
  apply isLineControl_intercalate
  rw [List.map_cons, List.forall_mem_cons]
  refine ⟨by simpa [writeWord] using (by decide : "-exec-arguments".toList.all (fun c => !isLineControl c) = true), ?_⟩
  intro part hpart
  obtain ⟨w, hw, rfl⟩ := List.mem_map.mp hpart
  obtain ⟨arg, -, rfl⟩ := List.mem_map.mp hw
  exact isLineControl_quoteMiString

/-- The encoding of strings for GDB loses nothing and stays on its line: the words of the commands built from them, as
GDB reads them, are the strings themselves. -/
theorem mi_strings_decode :
    (∀ args, (∀ c ∈ (buildExecArgumentsCommand args).toList, c ≠ '\r' ∧ c ≠ '\n' ∧ c ≠ '\t') ∧
      CString.split (buildExecArgumentsCommand args) = some (.bare "-exec-arguments" :: args.map .quoted)) ∧
    Function.Injective buildExecArgumentsCommand ∧
    (∀ s, CString.split (quoteMiString s) = some [.quoted s]) ∧
    (∀ s, CString.split (buildEvaluateExpressionCommand s) = some [.bare "-data-evaluate-expression", .quoted s]) ∧
    (∀ s count offset, CString.split (buildReadMemoryCommand s count offset) = some (readMemoryWords s count offset)) ∧
    (∀ s condition temporary, CString.split (breakInsertCommand s condition temporary) =
      some (breakInsertWords s condition temporary)) ∧
    ∀ s, CString.split (wrapCliCommand s) = some [.bare "-interpreter-exec", .bare "console", .quoted s] := by
  refine ⟨fun args => ⟨fun c hc => ?_, split_execArguments args⟩, ?_, fun s => ?_, split_evaluate, split_readMemory,
    split_breakInsert, split_wrapCli⟩
  · have hplain := isLineControl_execArguments args c hc
    simpa [isLineControl, and_assoc] using hplain
  · intro args args' heq
    have hwords := (split_execArguments args).symm.trans ((congrArg CString.split heq).trans (split_execArguments args'))
    have htexts : args.map Word.quoted = args'.map Word.quoted := (List.cons.inj (Option.some.inj hwords)).2
    exact List.map_injective_iff.mpr (fun _ _ => Word.quoted.inj) htexts
  · have hline := @split_line [.quoted s] (List.cons_ne_nil _ _) (List.forall_mem_singleton.mpr trivial)
    simpa [writeWord] using hline

end GdbMcp
