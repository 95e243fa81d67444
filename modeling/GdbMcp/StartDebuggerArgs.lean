import GdbMcp.BaseScan
import GdbMcp.BaseTextFacts
import GdbMcp.CampaignRequest

/-! The options that a caller hands to the debugger, and how the debugger reads its command line: an option of the value
kind takes the next entry, whatever that looks like, and may itself be the operand of the option in front of it. -/

namespace GdbMcp

open PyStr

/-! ### What the debugger reads -/

/-- What an entry of the command line is to the debugger. A positional argument is a program, a core file or a process. -/
inductive ArgumentRole where
  | option
  | operand
  | positional
  deriving DecidableEq, Repr

def takesOperand (entry : String) : Bool := gdbArgValueOptions.contains entry

def roleOf (entry : String) (taken : Bool) : ArgumentRole :=
  if taken then .operand else if startswith entry "-" then .option else .positional

/-- The entries of a command line, each with its role. -/
def readArguments (entries : List String) : List (String × ArgumentRole) :=
  (scan takesOperand false entries).map fun (entry, taken) => (entry, roleOf entry taken)

/-- One of the options that fight the wiring of the server, by itself or with its operand behind an equals sign. -/
def fightsWiring (entry : String) : Bool :=
  gdbArgConflictingOptions.any fun (option, _) => entry == option || startswith entry (option ++ "=")

/-- No entry is a positional argument, and no option fights the wiring. -/
def ReadsSafely (entries : List String) : Prop :=
  ∀ read ∈ readArguments entries, read.2 ≠ .positional ∧ (read.2 = .option → fightsWiring read.1 = false)

instance (entries : List String) : Decidable (ReadsSafely entries) :=
  inferInstanceAs (Decidable (∀ read ∈ readArguments entries, _))

/-- The entries of a caller are read as they are by themselves, also in the command line of the start. -/
theorem readArguments_startCommand {a : StartArgs} (hreplay : given a.rrReplay = false) (gdbPath rrPath : String) :
    ∃ rest, readArguments (a.buildStartCommand gdbPath rrPath).tail =
      [("--quiet", .option), ("--interpreter=mi", .option)] ++ readArguments a.gdbArgs ++ rest := by
  obtain ⟨target, hcommand⟩ : ∃ target, a.buildStartCommand gdbPath rrPath =
      gdbPath :: (["--quiet", "--interpreter=mi"] ++ (a.gdbArgs ++ target)) := by
    simp only [StartArgs.buildStartCommand, hreplay, Bool.false_eq_true, if_false, List.cons_append, List.nil_append]
    exact ⟨_, rfl⟩
  have hfront : takenBehind takesOperand false ["--quiet", "--interpreter=mi"] = false := by decide
  rw [hcommand, List.tail_cons, readArguments, scan_append, hfront, scan_append, List.map_append, List.map_append,
    ← List.append_assoc]
  exact ⟨_, rfl⟩

/-! ### What the check lets through -/

/-- The forms with an equals sign that the check does not know. -/
def uncheckedForms : List String := ["-i=", "--args=", "-c=", "-p=", "--attach="]

/-- An entry that is harmless as an operand only. -/
def needsOption (entry : String) : Bool := !startswith entry "-" || uncheckedForms.any (startswith entry)

/-- The options of the value kind that stand directly in front of an entry. -/
def optionsBefore (entries : List String) (i : Nat) : List String := (entries.take i).rtakeWhile takesOperand

theorem entry_of_noProblem {index : Nat} {previous entry : String} (h : gdbArgProblem index previous entry = none) :
    gdbArgConflictingOptions.lookup entry = none ∧
      gdbArgConflictingPrefixes.any (startswith entry) = false := by
  rw [gdbArgProblem] at h
  split at h
  · cases h
  · split at h
    · cases h
    · split at h
      · cases h
      · exact ⟨‹_›, Bool.not_eq_true _ ▸ ‹_›⟩

theorem entries_of_noProblems {index : Nat} {previous : String} {values : List String}
    (h : gdbArgsProblemsFrom index previous values = []) {raw : String} (hraw : raw ∈ values) :
    gdbArgConflictingOptions.lookup (strip raw) = none ∧
      gdbArgConflictingPrefixes.any (startswith (strip raw)) = false := by
  induction values generalizing index previous with
  | nil => cases hraw
  | cons value values ih =>
      rw [gdbArgsProblemsFrom, List.append_eq_nil_iff, Option.toList_eq_nil_iff] at h
      rcases List.mem_cons.mp hraw with heq | hmem
      · exact heq ▸ entry_of_noProblem h.1
      · exact ih h.2 hmem

/-- With an equals sign, each option that fights the wiring is rejected or one of the unchecked forms. -/
theorem form_cases : ∀ x ∈ gdbArgConflictingOptions, solid x.1 = true ∧ (solid (x.1 ++ "=") = true ∧
    x.1 ++ "=" ∈ gdbArgConflictingPrefixes ∨ x.1 ++ "=" ∈ uncheckedForms) := by decide

theorem uncheckedForm_fights : ∀ form ∈ uncheckedForms, ∃ x ∈ gdbArgConflictingOptions, form = x.1 ++ "=" := by decide

/-- Of the options that fight the wiring only the unchecked forms are let through. -/
theorem fightsWiring_iff {values : List String} (h : gdbArgsProblems values = []) {raw : String} (hraw : raw ∈ values) :
    fightsWiring raw = true ↔ uncheckedForms.any (startswith raw) = true := by
  obtain ⟨hoption, hstarting⟩ := entries_of_noProblems h hraw
  rw [List.lookup_eq_none_iff] at hoption
  rw [List.any_eq_false] at hstarting
  constructor
  · intro hfights
    obtain ⟨x, hmem, hcase⟩ := List.any_eq_true.mp hfights
    obtain ⟨hsolid, hforms⟩ := form_cases x hmem
    rw [Bool.or_eq_true, beq_iff_eq] at hcase
    rcases hcase with heq | hstarts
    · -- the option by itself is among the rejected ones
      refine absurd (hoption x hmem) ?_
      rw [heq, strip_of_solid hsolid]
      simp
    · rcases hforms with ⟨hsolid', hlisted⟩ | hunchecked
      · exact absurd (startswith_strip hstarts hsolid') (hstarting _ hlisted)
      · exact List.any_eq_true.mpr ⟨_, hunchecked, hstarts⟩
  · intro hunchecked
    obtain ⟨form, hform, hstarts⟩ := List.any_eq_true.mp hunchecked
    obtain ⟨x, hmem, heq⟩ := uncheckedForm_fights form hform
    refine List.any_eq_true.mpr ⟨x, hmem, ?_⟩
    rw [Bool.or_eq_true, ← heq]
    exact .inr hstarts

/-- The reading of a list that the check accepts is safe when every entry that needs an option in front of it stands
behind an odd number of options of the value kind in a row, so that the last of these is no operand itself. -/
theorem readsSafely_iff {values : List String} (h : gdbArgsProblems values = []) :
    ReadsSafely values ↔
      ∀ i, ∀ hi : i < values.length, needsOption values[i] = true → Odd (optionsBefore values i).length := by
  constructor
  · intro hsafe i hi hneeds
    rw [optionsBefore, ← takenBehind_iff_odd]
    by_contra hfree
    rw [Bool.not_eq_true] at hfree
    have hread : (values[i], roleOf values[i] false) ∈ readArguments values :=
      List.mem_map.mpr ⟨(values[i], false), mem_scan_iff.mpr ⟨i, hi, rfl, hfree⟩, rfl⟩
    obtain ⟨hpositional, hfights⟩ := hsafe _ hread
    rw [needsOption, Bool.or_eq_true, Bool.not_eq_true', ← fightsWiring_iff h (List.getElem_mem hi)] at hneeds
    by_cases hdash : startswith values[i] "-" = true
    · rcases hneeds with hbare | hform
      · exact absurd hdash (Bool.not_eq_true _ ▸ hbare)
      · exact absurd (hfights (by simp [roleOf, hdash])) (by rw [hform]; decide)
    · exact hpositional (by simp [roleOf, hdash])
  · rintro hodd ⟨entry, role⟩ hread
    obtain ⟨⟨_, taken⟩, hscan, heq⟩ := List.mem_map.mp hread
    obtain ⟨i, hi, hentry, htaken⟩ := mem_scan_iff.mp hscan
    obtain ⟨rfl, rfl⟩ := Prod.mk.inj heq
    subst hentry
    cases taken with
    | true => exact ⟨by simp [roleOf], fun hoption => absurd hoption (by simp [roleOf])⟩
    | false =>
        have hharmless : ¬needsOption values[i] = true := by
          intro hneeds
          have := takenBehind_iff_odd _ |>.mpr (hodd i hi hneeds)
          rw [htaken] at this
          cases this
        rw [needsOption, Bool.or_eq_true, Bool.not_eq_true', ← fightsWiring_iff h (List.getElem_mem hi), not_or,
          Bool.not_eq_false, Bool.not_eq_true] at hharmless
        exact ⟨by simp [roleOf, hharmless.1], fun _ => hharmless.2⟩

theorem readsSafely_iff_operand :
    gdbArgsProblems ["-iex", "--args=quit", "-ex", "run", "--quiet"] = [] ∧
      ReadsSafely ["-iex", "--args=quit", "-ex", "run", "--quiet"] :=
  ⟨by decide, (readsSafely_iff (by decide)).mpr (by decide)⟩

/-- The second option is the operand of the first one, and the program is positional. -/
theorem operand_reads_unsafely :
    gdbArgsProblems ["-ex", "-ex", "prog"] = [] ∧ ¬ReadsSafely ["-ex", "-ex", "prog"] := by decide

end GdbMcp
