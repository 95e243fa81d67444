import GdbMcp.MiOperands
import GdbMcp.SessionSends
import Mathlib.Data.List.DropRight

/-! The environment of a start, on its way to GDB. Each variable is set by a command whose text GDB splits by its own
rules: blanks at the end of the line and around the separator are dropped, and an equals sign may stand for it. -/

namespace GdbMcp

open Eff Session

namespace Environment

/-! ### What GDB reads -/

def isBlank (c : Char) : Bool := c == ' ' || c == '\t'

/-- The characters that end a name. -/
def endsName (c : Char) : Bool := isBlank c || c == '='

/-- The value behind the name, from which the blanks at the end of the line are gone. -/
def readValue (text : List Char) : List Char :=
  match text.dropWhile isBlank with
  | '=' :: value => value.dropWhile isBlank
  | value => value

/-- The name and the value in the operand of `set environment`. -/
def readSetting (operand : List Char) : List Char × List Char :=
  let line := operand.rdropWhile isBlank
  (line.takeWhile (!endsName ·), readValue (line.dropWhile (!endsName ·)))

def settingPrefix : String := "set environment "

/-- The variable that a line sets, and the value that it is set to. -/
def settingOf (line : String) : Option (String × String) :=
  match CString.split line with
  | some [command, interpreter, .quoted text] =>
    if command = .bare "-interpreter-exec" ∧ interpreter = .bare "console" ∧ PyStr.startswith text settingPrefix = true then
      let (name, value) := readSetting (text.toList.drop settingPrefix.toList.length)
      some (String.ofList name, String.ofList value)
    else none
  | _ => none

/-- The value neither begins with a blank or an equals sign nor ends in a blank. -/
def arrivesAsIs (value : String) : Bool :=
  value.toList.head?.all (!endsName ·) && value.toList.getLast?.all (!isBlank ·)

/-! ### The values that arrive -/

/-- What arrives of a value that is sent behind a name and a space. -/
def received (value : List Char) : List Char := readValue (value.rdropWhile isBlank)

theorem readValue_suffix (text : List Char) : readValue text <:+ text := by
  have hblanks := text.dropWhile_suffix isBlank
  unfold readValue
  split
  · rename_i value heq
    rw [heq] at hblanks
    exact (value.dropWhile_suffix isBlank).trans ((List.suffix_cons '=' value).trans hblanks)
  · exact hblanks

theorem readValue_eq_self_iff (text : List Char) : readValue text = text ↔ text.head?.all (!endsName ·) = true := by
  cases text with
  | nil => exact iff_of_true rfl rfl
  | cons c rest =>
      rw [List.head?_cons, Option.all_some]
      cases hblank : isBlank c with
      | true =>
          refine iff_of_false (fun h => ?_) (by simp [endsName, hblank])
          have hread : readValue (c :: rest) = readValue rest := by
            rw [readValue, List.dropWhile_cons_of_pos hblank, readValue]
          rw [hread] at h
          have hlength := (readValue_suffix rest).length_le
          rw [h, List.length_cons] at hlength
          omega
      | false =>
          have hkept : (c :: rest).dropWhile isBlank = c :: rest := List.dropWhile_cons_of_neg (by simp [hblank])
          rw [readValue, hkept]
          by_cases hequals : c = '='
          · subst hequals
            refine iff_of_false (fun h => ?_) (by decide)
            have hlength := (rest.dropWhile_suffix isBlank).length_le
            rw [show rest.dropWhile isBlank = '=' :: rest from h, List.length_cons] at hlength
            omega
          · refine iff_of_true ?_ (by simp [endsName, hblank, hequals])
            split
            · rename_i value heq
              exact absurd (List.cons.inj heq).1 hequals
            · rfl

theorem received_eq_self_iff (value : List Char) : received value = value ↔
    value.head?.all (!endsName ·) = true ∧ value.getLast?.all (!isBlank ·) = true := by
  have hlast : value.rdropWhile isBlank = value ↔ value.getLast?.all (!isBlank ·) = true := by
    rw [List.rdropWhile_eq_self_iff]
    cases value.eq_nil_or_concat with
    | inl hnil => simp [hnil]
    | inr hconcat =>
        obtain ⟨front, last, rfl⟩ := hconcat
        simp
  constructor
  · intro h
    have hprefix := value.rdropWhile_prefix isBlank
    have hlength : (value.rdropWhile isBlank).length = value.length := by
      refine Nat.le_antisymm hprefix.length_le ?_
      have hread := (readValue_suffix (value.rdropWhile isBlank)).length_le
      rwa [show readValue (value.rdropWhile isBlank) = value from h] at hread
    have hwhole := hprefix.eq_of_length hlength
    rw [received, hwhole] at h
    exact ⟨(readValue_eq_self_iff value).mp h, hlast.mp hwhole⟩
  · rintro ⟨hhead, hend⟩
    rw [received, hlast.mpr hend]
    exact (readValue_eq_self_iff value).mpr hhead

/-! ### The command of a variable -/

def commandOf (entry : String × String) : String := s!"set environment {entry.1} {entry.2}"

/-- The line that is sent for an entry. -/
def lineOf (entry : String × String) : String := actualCommand (commandOf entry)

abbrev IsValid (entry : String × String) : Prop := environmentValidationError entry.1 entry.2 = none

theorem isEnvName_of_isValid {entry : String × String} (h : IsValid entry) : isEnvName entry.1 = true := by
  unfold IsValid environmentValidationError at h
  cases hname : isEnvName entry.1 with
  | true => rfl
  | false => simp [hname] at h

theorem name_of_isEnvName {name : String} (h : isEnvName name = true) :
    name.toList ≠ [] ∧ ∀ c ∈ name.toList, endsName c = false := by
  have hplain : ∀ c : Char, (isEnvNameStart c || c.isDigit) = true → endsName c = false := by
    intro c hc
    rw [endsName, isBlank, Bool.or_eq_false_iff, Bool.or_eq_false_iff, beq_eq_false_iff_ne, beq_eq_false_iff_ne,
      beq_eq_false_iff_ne]
    refine ⟨⟨?_, ?_⟩, ?_⟩ <;> rintro rfl <;> exact absurd hc (by decide)
  unfold isEnvName at h
  split at h
  · exact nomatch h
  · rename_i c rest heq
    rw [heq]
    obtain ⟨hc, hrest⟩ := (Bool.and_eq_true _ _).mp h
    refine ⟨List.cons_ne_nil _ _, fun d hd => hplain d ?_⟩
    rcases List.mem_cons.mp hd with rfl | hd
    · rw [hc, Bool.true_or]
    · exact List.all_eq_true.mp hrest d hd

theorem rdropWhile_append (p : Char → Bool) (xs ys : List Char) : (xs ++ ys).rdropWhile p =
    if (ys.rdropWhile p).isEmpty then xs.rdropWhile p else xs ++ ys.rdropWhile p := by
  rw [List.rdropWhile, List.reverse_append, List.dropWhile_append, List.rdropWhile, List.rdropWhile, List.isEmpty_reverse]
  split
  · rfl
  · rw [List.reverse_append, List.reverse_reverse]

theorem readValue_space (text : List Char) : readValue (' ' :: text) = readValue text := by
  rw [readValue, List.dropWhile_cons_of_pos (by decide), readValue]

/-- The space that the command puts behind the name is the separator. -/
theorem readSetting_eq {name : List Char} (hname : ∀ c ∈ name, endsName c = false) (value : List Char) :
    readSetting (name ++ ' ' :: value) = (name, received value) := by
  have hplain : ∀ c ∈ name, (!endsName c) = true := fun c hc => by rw [hname c hc]; rfl
  have hsolid : name.rdropWhile isBlank = name := by
    rw [List.rdropWhile_eq_self_iff]
    intro hne
    have hlast := hname _ (List.getLast_mem hne)
    rw [endsName, Bool.or_eq_false_iff] at hlast
    exact Bool.eq_false_iff.mp hlast.1
  have hline : (name ++ ' ' :: value).rdropWhile isBlank =
      if (value.rdropWhile isBlank).isEmpty then name else name ++ ' ' :: value.rdropWhile isBlank := by
    rw [rdropWhile_append, ← List.singleton_append, rdropWhile_append]
    cases (value.rdropWhile isBlank).isEmpty with
    | true => exact hsolid
    | false => rfl
  unfold readSetting received
  extract_lets line
  rw [show line = _ from hline]
  split
  · rename_i hempty
    rw [List.isEmpty_iff.mp hempty, List.takeWhile_eq_self_iff.mpr hplain, List.dropWhile_eq_nil_iff.mpr hplain]
  · rw [List.takeWhile_append_of_pos hplain, List.dropWhile_append_of_pos hplain,
      List.takeWhile_cons_of_neg (by decide), List.dropWhile_cons_of_neg (by decide), List.append_nil, readValue_space]

/-- What GDB reads of the line that is sent for an entry. -/
theorem settingOf_lineOf {entry : String × String} (h : IsValid entry) :
    settingOf (lineOf entry) = some (entry.1, String.ofList (received entry.2.toList)) := by
  obtain ⟨name, value⟩ := entry
  obtain ⟨_, hname⟩ := name_of_isEnvName (isEnvName_of_isValid h)
  have htext : (commandOf (name, value)).toList = settingPrefix.toList ++ (name.toList ++ ' ' :: value.toList) := by
    show (s!"set environment {name} {value}").toList = _
    simp only [String.toList_append, List.append_assoc]
    rfl
  have hstart : PyStr.startswith (commandOf (name, value)) settingPrefix = true :=
    PyStr.startswith_iff.mpr ⟨_, htext⟩
  have hset : PyStr.startswith (commandOf (name, value)) "set" = true := PyStr.startswith_trans hstart (by decide +kernel)
  rw [lineOf, actualCommand_cli hset (by decide) (by decide), settingOf, split_wrapCli]
  simp only [hstart, and_self, if_true, htext, List.drop_left, readSetting_eq hname, String.ofList_toList]

theorem settingOf_lineOf_iff {entry : String × String} (h : IsValid entry) :
    settingOf (lineOf entry) = some entry ↔ arrivesAsIs entry.2 = true := by
  obtain ⟨name, value⟩ := entry
  rw [settingOf_lineOf h, arrivesAsIs, Bool.and_eq_true, ← received_eq_self_iff, Option.some_inj, Prod.mk.injEq]
  refine ⟨fun hentry => ?_, fun hvalue => ⟨rfl, by rw [hvalue, String.ofList_toList]⟩⟩
  have hvalue := congrArg String.toList hentry.2
  rwa [String.toList_ofList] at hvalue

theorem lineOf_ne_inventoryLine {entry : String × String} (h : IsValid entry) : lineOf entry ≠ inventoryLine := by
  intro heq
  have hnone : settingOf inventoryLine = none := by
    rw [inventoryLine, settingOf, split_wrapCli]
    decide
  rw [← heq, settingOf_lineOf h] at hnone
  exact nomatch hnone

/-! ### The commands of a start -/

section Runs

variable {W : Type} [Gdb W] {s s' s₁ : Session W} {P : String → Prop}

/-- These entries have been sent in this order, with no other lines but queries of the inferiors. -/
def Sent (entries : List (String × String)) (s s' : Session W) : Prop :=
  ∃ later, s'.runtime.lines = s.runtime.lines ++ later ∧ later.filter (· ≠ inventoryLine) = entries.map lineOf

omit [Gdb W] in
theorem Sent.trans {entries entries' : List (String × String)} (h : Sent entries s s₁) (h' : Sent entries' s₁ s') :
    Sent (entries ++ entries') s s' := by
  obtain ⟨later, hlater, hentries⟩ := h
  obtain ⟨later', hlater', hentries'⟩ := h'
  refine ⟨later ++ later', by rw [hlater', hlater, List.append_assoc], ?_⟩
  rw [List.filter_append, hentries, hentries', List.map_append]

omit [Gdb W] in
theorem Sent.of_same (h : s'.runtime.lines = s.runtime.lines) : Sent [] s s' :=
  ⟨[], h.trans (List.append_nil _).symm, rfl⟩

theorem sendsOnly_exitQuietly : SendsOnly P (exitQuietly : SessionM W Unit) := by
  refine (sendsOnly_read _).bind fun _ => Within.ite ?_ (Within.pure _)
  exact (sendsOnly_onChannel within_exit).attempt fun _ => Within.pure _

theorem sendsOnly_failStart {α : Type} (failure message : String) (fatal : Bool) (details : List (String × Value)) :
    SendsOnly P (failStart failure message fatal details : SessionM W (OperationResult α)) := by
  refine Within.bind (sendsOnly_exitQuietly.bind fun _ => ?_) fun _ => Within.pure _
  exact sendsOnly_mutate (fun _ => .markFailed failure) fun _ => rfl

theorem sent_failStart {α : Type} (failure message : String) (fatal : Bool) (details : List (String × Value)) :
    Sent [] s ((failStart failure message fatal details : SessionM W (OperationResult α)).run s).2 :=
  .of_same ((sendsOnly_failStart failure message fatal details).run s).same

theorem failStart_fails {α : Type} {failure message : String} {fatal : Bool} {details : List (String × Value)}
    {value : α} {warnings : List String}
    (hrun : (failStart failure message fatal details : SessionM W _).run s = (.ok (.success value warnings), s')) : False := by
  obtain ⟨_, t, -, hpure⟩ := ok_of_run_bind hrun
  exact nomatch Except.ok.inj (Prod.mk.inj hpure).1

/-- What the entries of an environment do in a run: those up to one that is refused or that fails are sent. -/
structure AppliedBy (env applied : List (String × String)) (outcome : Except PyError (OperationResult (List Value)))
    (s s' : Session W) : Prop where
  leading : applied <+: env
  valid : ∀ entry ∈ applied, IsValid entry
  sent : Sent applied s s'
  complete : ∀ output warnings, outcome = .ok (.success output warnings) → applied = env

theorem applyEnvironment_cons {entry : String × String} (hentry : IsValid entry) (rest : List (String × String))
    (output : List Value) : (applyEnvironment (entry :: rest) output : SessionM W _) =
      executeCommandResult (commandOf entry) defaultTimeoutSec >>= fun result =>
        match result with
        | .success .. => applyEnvironment rest (output ++ [result.toMapping])
        | .error message fatal _ _ =>
          failStart s!"Failed to set environment variable {entry.1}: {message}"
            s!"Failed to set environment variable {entry.1}: {message}" fatal
            [("env_output", .list (output ++ [result.toMapping]))] := by
  rw [applyEnvironment, show environmentValidationError entry.1 entry.2 = none from hentry]
  rfl

/-- The command of an entry is sent, unless it fails before that. -/
theorem sent_executeCommandResult {entry : String × String} (hentry : IsValid entry) (timeoutSec : Nat) (s : Session W) :
    let outcome := (executeCommandResult (commandOf entry) timeoutSec).run s
    ∃ applied, applied <+: [entry] ∧ Sent applied s outcome.2 ∧
      ∀ info warnings, outcome.1 = .ok (.success info warnings) → applied = [entry] := by
  intro outcome
  rcases lines_executeCommandResult (commandOf entry) timeoutSec false s with
    ⟨hsame, hfails⟩ | ⟨behind, hlines, hquery⟩
  · exact ⟨[], List.nil_prefix, .of_same hsame, fun info warnings h => absurd h (hfails info warnings)⟩
  · have hline : actualCommand (commandOf entry) = lineOf entry := rfl
    rw [hline] at hlines
    refine ⟨[entry], List.prefix_rfl, ⟨_, hlines, ?_⟩, fun _ _ _ => rfl⟩
    have hsent : decide (lineOf entry ≠ inventoryLine) = true := decide_eq_true (lineOf_ne_inventoryLine hentry)
    have hbehind : behind.filter (· ≠ inventoryLine) = [] :=
      List.filter_eq_nil_iff.mpr fun line hline => by simp [hquery line hline]
    rw [List.filter_cons, if_pos hsent, hbehind]
    rfl

theorem applyEnvironment_applied (env : List (String × String)) (output : List Value) (s : Session W) :
    ∃ applied, AppliedBy env applied ((applyEnvironment env output).run s).1 s ((applyEnvironment env output).run s).2 := by
  induction env generalizing output s with
  | nil => exact ⟨[], List.prefix_rfl, (fun _ h => nomatch h), .of_same rfl, fun _ _ _ => rfl⟩
  | cons entry rest ih =>
      cases hvalid : environmentValidationError entry.1 entry.2 with
      | some message =>
          rw [applyEnvironment, hvalid]
          refine ⟨[], List.nil_prefix, (fun _ h => nomatch h), sent_failStart _ _ _ _, fun _ _ h => ?_⟩
          exact (failStart_fails (Prod.ext h rfl)).elim
      | none =>
          obtain ⟨applied, hleading, hsent, hdone⟩ := sent_executeCommandResult hvalid defaultTimeoutSec s
          have hleading' : applied <+: entry :: rest := hleading.trans ⟨rest, rfl⟩
          have hvalid' : ∀ e ∈ applied, IsValid e := fun e he => by
            rw [List.mem_singleton.mp (hleading.mem he)]
            exact hvalid
          rw [applyEnvironment_cons hvalid]
          rcases hrun : (executeCommandResult (commandOf entry) defaultTimeoutSec).run s with ⟨e | result, t⟩
          · rw [hrun] at hsent
            rw [run_bind_error hrun]
            exact ⟨applied, hleading', hvalid', hsent, fun _ _ h => nomatch h⟩
          · rw [hrun] at hsent hdone
            rw [run_bind_ok hrun]
            cases result with
            | error message fatal details code =>
                refine ⟨applied, hleading', hvalid', ?_, fun _ _ h => (failStart_fails (Prod.ext h rfl)).elim⟩
                rw [← List.append_nil applied]
                exact hsent.trans (sent_failStart _ _ _ _)
            | success info warnings =>
                obtain rfl := hdone info warnings rfl
                obtain ⟨applied', h⟩ := ih (output ++ [(OperationResult.success info warnings).toMapping]) t
                refine ⟨entry :: applied', List.prefix_cons_inj _ |>.mpr h.leading, ?_, hsent.trans h.sent, fun _ _ hok => ?_⟩
                · exact List.forall_mem_cons.mpr ⟨hvalid, h.valid⟩
                · rw [h.complete _ _ hok]

theorem configureSession_valid {a : StartArgs} {startup : ParsedMiResponse} {notes : List String} {info : SessionStartInfo}
    {warnings : List String} (hrun : (configureSession a startup notes).run s = (.ok (.success info warnings), s')) :
    ∀ entry ∈ a.env, IsValid entry := by
  obtain ⟨_, s₁, -, hrun⟩ := ok_of_run_bind hrun
  obtain ⟨_, s₂, -, hrun⟩ := ok_of_run_bind hrun
  obtain ⟨environment, s₃, happly, hrun⟩ := ok_of_run_bind hrun
  cases environment with
  | error message fatal details code => exact nomatch Except.ok.inj (Prod.mk.inj hrun).1
  | success output warnings =>
      obtain ⟨applied, h⟩ := applyEnvironment_applied a.env [] s₂
      rw [happly] at h
      exact h.complete output warnings rfl ▸ h.valid

/-- A start that succeeds has an environment without an invalid entry. -/
theorem start_valid {a : StartArgs} {info : SessionStartInfo} {warnings : List String}
    (hrun : (start a).run s = (.ok (.success info warnings), s')) : ∀ entry ∈ a.env, IsValid entry := by
  have hfails : ∀ {e} {t t' : Session W}, (failStartException e).run t ≠ (.ok (.success info warnings), t') := by
    intro e t t' h
    cases e <;> exact failStart_fails h
  obtain ⟨running, s₁, -, hrun⟩ := ok_of_run_bind hrun
  cases running with
  | true => exact nomatch Except.ok.inj (Prod.mk.inj hrun).1
  | false =>
      obtain ⟨gdbPath, s₂, -, hrun⟩ := ok_of_run_bind hrun
      obtain ⟨_, s₃, -, hrun⟩ := ok_of_run_bind hrun
      have henv : a.withoutIgnoredProgram.env = a.env := by
        unfold StartArgs.withoutIgnoredProgram
        split <;> rfl
      rw [← henv]
      rcases hchecked : (startChecked a.withoutIgnoredProgram gdbPath
        (if a.ignoresProgram then [a.ignoredProgramWarning] else [])).run s₃ with ⟨e | result, s₄⟩
      · rw [run_attempt_error hchecked] at hrun
        exact absurd hrun hfails
      · rw [run_attempt_ok hchecked] at hrun
        obtain ⟨hresult, rfl⟩ := Prod.mk.inj hrun
        obtain rfl := Except.ok.inj hresult
        unfold startChecked at hchecked
        split at hchecked
        · obtain ⟨_, t, -, hpure⟩ := ok_of_run_bind hchecked
          exact nomatch Except.ok.inj (Prod.mk.inj hpure).1
        · obtain ⟨found, t, -, hchecked⟩ := ok_of_run_bind hchecked
          cases found with
          | false =>
              obtain ⟨_, u, -, hpure⟩ := ok_of_run_bind hchecked
              exact nomatch Except.ok.inj (Prod.mk.inj hpure).1
          | true =>
              obtain ⟨_, t₁, -, hchecked⟩ := ok_of_run_bind hchecked
              obtain ⟨initial, t₂, -, hchecked⟩ := ok_of_run_bind hchecked
              obtain ⟨ready, t₃, -, hchecked⟩ := ok_of_run_bind hchecked
              split at hchecked
              · exact (failStart_fails hchecked).elim
              · exact configureSession_valid hchecked

/-- The command of an entry sets exactly its value if and only if that neither begins with a blank or an equals sign nor
ends in a blank. Entries are sent in their order, and none behind an invalid one, with which no start succeeds. -/
theorem environment_arrives_iff (a : StartArgs) (output : List Value) (s : Session W) :
    (∀ entry, IsValid entry → (settingOf (lineOf entry) = some entry ↔ arrivesAsIs entry.2 = true)) ∧
      (∃ applied, AppliedBy a.env applied ((applyEnvironment a.env output).run s).1 s
        ((applyEnvironment a.env output).run s).2) ∧
      ∀ info warnings s', (start a).run s = (.ok (.success info warnings), s') → ∀ entry ∈ a.env, IsValid entry :=
  ⟨fun _ h => settingOf_lineOf_iff h, applyEnvironment_applied a.env output s, fun _ _ _ h => start_valid h⟩

end Runs

/-- An equals sign at the front of a value is taken for the separator, and a blank at its end is lost. -/
theorem equals_sign_lost :
    ¬(∀ entry, IsValid entry → settingOf (lineOf entry) = some entry) ∧
      settingOf (lineOf ("FLAGS", "=debug")) = some ("FLAGS", "debug") ∧
      settingOf (lineOf ("PROMPT", "gdb ")) = some ("PROMPT", "gdb") := by
  have hread : settingOf (lineOf ("FLAGS", "=debug")) = some ("FLAGS", "debug") := by decide +kernel
  refine ⟨fun h => ?_, hread, by decide +kernel⟩
  exact absurd ((h ("FLAGS", "=debug") (by decide +kernel)).symm.trans hread) (by decide)

end Environment

end GdbMcp
