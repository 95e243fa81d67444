import GdbMcp.InspectionQueries
import GdbMcp.InspectionSource
import GdbMcp.SessionSends

/-! What the inspections send: the commands around the switch of the selection, and those of the queries themselves. -/

namespace GdbMcp

open Eff

namespace Session

variable {W : Type} [Gdb W] {α β : Type} {P : String → Prop}

/-! ### What the inspections keep -/

/-- A relation along which the commands of a kind lead, and what is made of their answers. -/
structure Carries (R : Session W → Session W → Prop) (C : String → Prop) : Prop where
  narrow : ∀ {α : Type} (x : Except PyError α), Within R (narrow x : SessionM W α)
  mark : ∀ f : SessionRuntime → Mutator, Within R (update fun rt => rt.apply (f rt) : SessionM W Unit)
  query : ∀ {command : String}, C command → Within R (query command : SessionM W _)

/-- The commands that find out and change the selection are of the kind. -/
structure CoversSelects (C : String → Prop) : Prop where
  threadInfo : C "-thread-info"
  frameInfo : C "-stack-info-frame"
  thread : ∀ k, C (threadSelectCommand k)
  frame : ∀ k, C (frameSelectCommand k)

section Kept

variable {R : Session W → Session W → Prop} [Std.Refl R] {C : String → Prop}

omit [Gdb W] in
theorem within_orReturn {result : OperationResult β} {next : β → SessionM W (OperationResult α)}
    (hnext : ∀ value, Within R (next value)) : Within R (orReturn result next) := by
  cases result with
  | success value warnings => exact hnext value
  | error message fatal details code => exact Within.pure _

variable [IsTrans (Session W) R]

/-- A command, and what is made of its answer. -/
theorem Carries.queryThen (hR : Carries R C) {command : String} (hcommand : C command)
    {next : CommandExecutionInfo → SessionM W (OperationResult α)} (hnext : ∀ info, Within R (next info)) :
    Within R (Session.query command >>= fun result => orReturn result next) :=
  (hR.query hcommand).bind fun _ => within_orReturn hnext

theorem Carries.reselect (hR : Carries R C) (what : String) {command : Option String} (hcommand : ∀ c, command = some c → C c) :
    Within R (reselect what command : SessionM W _) := by
  cases command with
  | none => exact Within.pure _
  | some command =>
      refine (hR.query (hcommand command rfl)).bind fun result => ?_
      cases result <;> exact Within.pure _

theorem Carries.selectUnlessCurrent (hR : Carries R C) {command : Int → String} (hcommand : ∀ k, C (command k))
    (current requested : Option Int) (changed : Bool) :
    Within R (selectUnlessCurrent command current requested changed : SessionM W _) := by
  cases requested with
  | none => exact Within.pure _
  | some k =>
      refine Within.ite (Within.pure _) ((hR.query (hcommand k)).bind fun result => ?_)
      cases result <;> exact Within.pure _

theorem Carries.captureSelection (hR : Carries R C) (hC : CoversSelects C) :
    Within R (captureSelection : SessionM W _) := by
  refine hR.queryThen hC.threadInfo fun thread => (hR.narrow _).bind fun _ => ?_
  refine hR.queryThen hC.frameInfo fun frame => ?_
  refine (hR.narrow _).bind fun current => (hR.mark fun _ => .markThreadSelected _).bind fun _ => ?_
  exact (hR.mark fun _ => .markFrameSelected current).bind fun _ => Within.pure _

theorem Carries.captureIf (hR : Carries R C) (hC : CoversSelects C) (captures : Bool) :
    Within R (captureIf captures : SessionM W _) := by
  refine Within.ite ((hR.captureSelection hC).bind fun _ => ?_) (Within.pure _)
  exact within_orReturn fun _ => Within.pure _

theorem Carries.restoreSelection (hR : Carries R C) (hC : CoversSelects C) (selection : SelectionSnapshot) :
    Within R (restoreSelection selection : SessionM W _) := by
  have hthread : ∀ c, selection.threadId.map threadSelectCommand = some c → C c := by
    intro c hc
    obtain ⟨k, -, rfl⟩ := Option.map_eq_some_iff.mp hc
    exact hC.thread k
  have hframe : ∀ c, selection.frameNumber.map frameSelectCommand = some c → C c := by
    intro c hc
    obtain ⟨k, -, rfl⟩ := Option.map_eq_some_iff.mp hc
    exact hC.frame k
  refine (hR.reselect _ hthread).bind fun _ => within_orReturn fun _ => ?_
  refine (hR.reselect _ hframe).bind fun _ => within_orReturn fun _ => ?_
  refine (hR.mark fun _ => .markThreadSelected _).bind fun _ => ?_
  exact (hR.mark fun _ => .markFrameSelected _).bind fun _ => Within.pure _

theorem Carries.selectForInspection (hR : Carries R C) (hC : CoversSelects C) (selection : Option SelectionSnapshot)
    (threadId frame : Option Int) : Within R (selectForInspection selection threadId frame : SessionM W _) := by
  cases selection with
  | none => exact Within.pure _
  | some captured =>
      refine (hR.selectUnlessCurrent hC.thread _ _ _).bind fun selected => ?_
      exact Within.ite (hR.selectUnlessCurrent hC.frame _ _ _) (Within.pure _)

theorem Carries.restoreSelectionIfChanged (hR : Carries R C) (hC : CoversSelects C) (selection : Option SelectionSnapshot)
    (changed : Bool) : Within R (restoreSelectionIfChanged selection changed : SessionM W _) := by
  cases selection with
  | none => exact Within.pure _
  | some captured => exact Within.ite (hR.restoreSelection hC captured) (Within.pure _)

theorem Carries.selectionErrorWithRestore (hR : Carries R C) (hC : CoversSelects C) (selection : Option SelectionSnapshot)
    (message : String) (fatal : Bool) (details : List (String × Value)) (code : String) :
    Within R (selectionErrorWithRestore selection message fatal details code : SessionM W (OperationResult α)) := by
  cases selection with
  | none => exact Within.pure _
  | some captured =>
      refine (hR.restoreSelection hC captured).bind fun result => ?_
      cases result <;> exact Within.pure _

theorem Carries.concludeInspection (hR : Carries R C) (hC : CoversSelects C) (policy : FailurePolicy)
    (selection : Option SelectionSnapshot) (changed : Bool) (result : OperationResult α) :
    Within R (concludeInspection policy selection changed result : SessionM W _) := by
  cases result with
  | success value warnings =>
      refine (hR.restoreSelectionIfChanged hC _ _).bind fun _ => ?_
      exact within_orReturn fun _ => Within.pure _
  | error message fatal details code =>
      cases policy with
      | restoreAlways => exact hR.selectionErrorWithRestore hC _ _ _ _ _
      | restoreIfChanged =>
          refine (hR.restoreSelectionIfChanged hC _ _).bind fun _ => ?_
          exact within_orReturn fun _ => Within.pure _

theorem Carries.inspecting (hR : Carries R C) (hC : CoversSelects C) (policy : FailurePolicy) (captures : Bool)
    (threadId frame : Option Int) {queries : Option SelectionSnapshot → SessionM W (OperationResult α)}
    (hqueries : ∀ selection, Within R (queries selection)) :
    Within R (inspecting policy captures threadId frame queries) := by
  refine (hR.captureIf hC captures).bind fun _ => within_orReturn fun selection => ?_
  refine (hR.selectForInspection hC selection threadId frame).bind fun selected => ?_
  obtain ⟨changed, result⟩ := selected
  cases result with
  | success value warnings =>
      exact (hqueries selection).bind fun result => hR.concludeInspection hC policy selection changed result
  | error message fatal details code => exact hR.selectionErrorWithRestore hC _ _ _ _ _

end Kept

/-! ### The queries for the registers -/

theorem startswith_registerValuesCommand (hex : Bool) (numbers : List Int) :
    PyStr.startswith (registerValuesCommand hex numbers) "-data-list-register-values" = true := by
  rw [registerValuesCommand]
  split
  · exact PyStr.startswith_append_left rfl _
  · exact PyStr.startswith_append_left (PyStr.startswith_append_left (PyStr.startswith_append_left rfl _) _) _

section Registers

variable {R : Session W → Session W → Prop} [Std.Refl R] [IsTrans (Session W) R]
  (hnarrow : ∀ {α : Type} (x : Except PyError α), Within R (narrow x : SessionM W α))
  (hquery : ∀ command, PyStr.startswith command "-data-list-register-" = true → Within R (query command : SessionM W _))

include hquery in
theorem within_resolveRegisterNumberFilters (a : RegisterFilter) :
    Within R (resolveRegisterNumberFilters a : SessionM W _) := by
  have hindex : Within R (registerNameToNumberIndex : SessionM W _) :=
    (hquery _ rfl).bind fun _ => within_orReturn fun _ => within_orReturn fun _ => Within.pure _
  refine Within.ite (Within.pure _) (hindex.bind fun _ => within_orReturn fun index => ?_)
  exact Within.ite (Within.pure _) (Within.pure _)

include hnarrow hquery

theorem within_selectRegisters (a : RegisterFilter) (registers : List Value) :
    Within R (selectRegisters a registers : SessionM W _) := by
  have hload : Within R (loadRegisterNameMap registers : SessionM W _) := by
    refine (hnarrow _).bind fun numbers => Within.ite (Within.pure _) ?_
    refine (hquery _ (PyStr.startswith_append_left rfl _)).bind fun _ => within_orReturn fun _ => ?_
    exact within_orReturn fun _ => Within.pure _
  rw [selectRegisters]
  refine Within.ite (Within.pure _) (hload.bind fun _ => within_orReturn fun _ => ?_)
  exact (hnarrow _).bind fun _ => Within.pure _

theorem within_queryRegisters (a : RegisterFilter) : Within R (queryRegisters a : SessionM W _) := by
  refine (within_resolveRegisterNumberFilters hquery a).bind fun _ => within_orReturn fun numbers => ?_
  refine (hquery _ (PyStr.startswith_trans (startswith_registerValuesCommand a.hex numbers) rfl)).bind fun _ => within_orReturn fun info => ?_
  exact (within_selectRegisters hnarrow hquery a _).bind fun _ => within_orReturn fun _ => Within.pure _

end Registers

/-! ### What the inspections send -/

omit [Gdb W] in
theorem sendsOnly_narrow (x : Except PyError α) : SendsOnly P (narrow x : SessionM W α) :=
  sendsOnly_onRuntime (Within.ofExcept x)

omit [Gdb W] in
theorem sendsOnly_orReturn {result : OperationResult β} {next : β → SessionM W (OperationResult α)}
    (hnext : ∀ value, SendsOnly P (next value)) : SendsOnly P (orReturn result next) := within_orReturn hnext

omit [Gdb W] in
/-- An operation of which the first part returns only some of the values. -/
theorem sendsOnly_orReturn_bind {m : SessionM W (OperationResult β)} {next : β → SessionM W (OperationResult α)}
    (hm : SendsOnly P m)
    (hnext : ∀ value, (∃ s s' warnings, m.run s = (.ok (.success value warnings), s')) → SendsOnly P (next value)) :
    SendsOnly P (m >>= fun result => orReturn result next) := by
  refine hm.bind_returned fun result s s' hrun => ?_
  cases result with
  | success value warnings => exact hnext value ⟨s, s', warnings, hrun⟩
  | error message fatal details code => exact Within.pure _

omit [Gdb W] in
theorem sendsOnly_mark (f : SessionRuntime → Mutator) : SendsOnly P (update fun rt => rt.apply (f rt) : SessionM W Unit) :=
  sendsOnly_mutate f fun _ => rfl

/-- The commands that find out and change the selection are among the lines. -/
abbrev SendsSelects (P : String → Prop) : Prop := CoversSelects fun command => P (actualCommand command)

section Queries

variable (hquery : P inventoryLine)
include hquery

theorem sendsOnly_query {command : String} (hcommand : P (actualCommand command)) :
    SendsOnly P (query command : SessionM W _) :=
  sendsOnly_executeCommandResult hquery hcommand _ _

theorem carries_sentOnly : Carries (SentOnly P : Session W → Session W → Prop) fun command => P (actualCommand command) where
  narrow := sendsOnly_narrow
  mark := sendsOnly_mark
  query := sendsOnly_query hquery

theorem sendsOnly_inspecting (hselects : SendsSelects P) (policy : FailurePolicy) (captures : Bool)
    (threadId frame : Option Int) {queries : Option SelectionSnapshot → SessionM W (OperationResult α)}
    (hqueries : ∀ selection, SendsOnly P (queries selection)) :
    SendsOnly P (inspecting policy captures threadId frame queries) :=
  (carries_sentOnly hquery).inspecting hselects policy captures threadId frame hqueries

end Queries

/-! ### The commands of a disassembly and of a source lookup -/

omit [Gdb W] in
theorem ok_of_orReturn_bind {m : SessionM W (OperationResult β)} {next : β → SessionM W (OperationResult α)} {value : α}
    {warnings : List String} {s s' : Session W}
    (hrun : (m >>= fun result => orReturn result next).run s = (.ok (.success value warnings), s')) :
    ∃ first others s₁, m.run s = (.ok (.success first others), s₁) ∧
      (next first).run s₁ = (.ok (.success value warnings), s') := by
  obtain ⟨result, s₁, hfirst, hrest⟩ := ok_of_run_bind hrun
  rcases ok_of_orReturn hrest with ⟨-, hfails, -⟩ | ⟨first, others, rfl, hnext⟩
  · exact nomatch hfails
  · exact ⟨first, others, s₁, hfirst, hnext⟩

/-- The commands that disassemble a whole function. -/
inductive WholeFunction (target modeToken : String) : String → Prop
  | direct : WholeFunction target modeToken s!"-data-disassemble -a {quoteMiString target} -- {modeToken}"
  | found (start stop : String) : WholeFunction target modeToken s!"-data-disassemble -s {start} -e {stop} -- {modeToken}"

theorem ok_of_wholeFunctionCommand {target modeToken command : String} {warnings : List String} {s s' : Session W}
    (hrun : (wholeFunctionCommand target modeToken).run s = (.ok (.success command warnings), s')) :
    WholeFunction target modeToken command := by
  obtain ⟨supported, s₁, -, hrest⟩ := ok_of_run_bind hrun
  cases supported with
  | true =>
      obtain ⟨hresult, -⟩ := Prod.mk.inj hrest
      obtain ⟨rfl, -⟩ := OperationResult.success.inj (Except.ok.inj hresult)
      exact .direct
  | false =>
      obtain ⟨range, _, _, -, hpure⟩ := ok_of_orReturn_bind hrest
      obtain ⟨hresult, -⟩ := Prod.mk.inj hpure
      obtain ⟨rfl, -⟩ := OperationResult.success.inj (Except.ok.inj hresult)
      exact .found _ _

section Commands

variable (hquery : P inventoryLine)
include hquery

theorem sendsOnly_wholeFunctionCommand {target : String} (hfeatures : P (actualCommand "-list-features"))
    (htext : P (actualCommand ("disassemble " ++ target))) (modeToken : String) :
    SendsOnly P (wholeFunctionCommand target modeToken : SessionM W _) := by
  have hsupports : SendsOnly P (supportsDisassembleA : SessionM W Bool) := by
    refine (sendsOnly_read _).bind fun cached => ?_
    cases cached with
    | some cached => exact Within.pure _
    | none =>
        refine (sendsOnly_query hquery hfeatures).bind fun _ => Within.bind (sendsOnly_update ?_) fun _ => Within.pure _
        exact fun _ => rfl
  refine hsupports.bind fun _ => Within.ite (Within.pure _) (Within.bind ?_ fun _ => sendsOnly_orReturn fun _ => Within.pure _)
  refine (sendsOnly_query hquery htext).bind fun _ => sendsOnly_orReturn fun info => ?_
  split <;> exact Within.pure _

theorem sendsOnly_queryDisassembly {a : DisassembleArgs} {location : ResolvedCodeLocation}
    (hbuild : SendsOnly P (buildDisassembleCommand location a.instructionCount a.mixed : SessionM W _))
    (hcommand : ∀ command (s s' : Session W) warnings,
      (buildDisassembleCommand location a.instructionCount a.mixed).run s = (.ok (.success command warnings), s') →
      P (actualCommand command)) :
    SendsOnly P (queryDisassembly a location : SessionM W _) := by
  refine sendsOnly_orReturn_bind hbuild fun command ⟨s, s', warnings, hrun⟩ => ?_
  refine (sendsOnly_query hquery (hcommand command s s' warnings hrun)).bind fun _ => sendsOnly_orReturn fun info => ?_
  exact (sendsOnly_narrow _).bind fun _ => Within.pure _

theorem sendsOnly_resolveInfoLineLocation {command : String} (hcommand : P (actualCommand command)) (scope : CodeScope)
    (function address : Option String) :
    SendsOnly P (resolveInfoLineLocation command scope function address : SessionM W _) := by
  refine (sendsOnly_query hquery hcommand).bind fun _ => sendsOnly_orReturn fun info => ?_
  split
  · exact Within.pure _
  · exact (sendsOnly_narrow _).bind fun _ => Within.pure _

theorem sendsOnly_currentFrameLocation (hframe : P (actualCommand "-stack-info-frame")) (threadId frame : Option Int)
    (selection : Option SelectionSnapshot) :
    SendsOnly P (currentFrameLocation threadId frame selection : SessionM W _) := by
  refine (sendsOnly_query hquery hframe).bind fun _ => sendsOnly_orReturn fun info => ?_
  refine Within.ite (Within.pure _) (Within.ite (Within.pure _) ?_)
  refine (sendsOnly_read _).bind fun _ => (sendsOnly_narrow _).bind fun _ => ?_
  exact (sendsOnly_narrow _).bind fun _ => Within.pure _

omit hquery [Gdb W] in
theorem sendsOnly_readSourceContext (files : Files) (a : SourceContextArgs) (location : ResolvedCodeLocation) :
    SendsOnly P (readSourceContext files a location : SessionM W _) := by
  unfold readSourceContext
  split
  · exact Within.pure _
  · refine (sendsOnly_narrow _).bind fun path => ?_
    split
    · exact Within.pure _
    · refine (sendsOnly_narrow _).bind fun text => ?_
      unfold readWindow
      extract_lets sourceLines
      split
      · exact Within.pure _
      · exact Within.ite (Within.pure _) ((sendsOnly_narrow _).bind fun _ => Within.pure _)

omit hquery [Gdb W] in
theorem sendsOnly_querySourceContext (files : Files) (a : SourceContextArgs)
    {located : SessionM W (OperationResult ResolvedCodeLocation)} (hlocated : SendsOnly P located) :
    SendsOnly P (querySourceContext files a located) := by
  refine hlocated.bind fun _ => sendsOnly_orReturn fun location => ?_
  exact (sendsOnly_readSourceContext files a location).bind fun _ => sendsOnly_orReturn fun _ => Within.pure _

end Commands

end Session
end GdbMcp
