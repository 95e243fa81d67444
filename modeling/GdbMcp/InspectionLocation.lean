import GdbMcp.InspectionSends
import GdbMcp.InspectionWindow

/-! The location of an inspection on its way through the handler. The union of locations is flattened into optional
arguments, of which each operation receives its own part, and the operation finds the kind again from those that are
missing. -/

namespace GdbMcp

open Eff Session

/-- The location union of an inspection query. -/
inductive Location where
  | current
  | function (function : String)
  | address (address : String)
  | addressRange (startAddress endAddress : String)
  | fileLine (file : String) (line : Int)
  | fileRange (file : String) (startLine endLine : Int)
  deriving DecidableEq, Repr

namespace Location

/-- A text as the validators leave it. -/
def isText (text : String) : Bool := text ≠ "" && PyStr.strip text == text

/-- The locations that the schema lets through. -/
def Accepted : Location → Prop
  | current => True
  | function f => isText f = true
  | address a => isText a = true
  | addressRange start stop => isText start = true ∧ isText stop = true
  | fileLine file line => isText file = true ∧ 0 < line
  | fileRange file start stop => isText file = true ∧ 0 < start ∧ 0 < stop ∧ start ≤ stop

/-- The scope of responses that a location asks for. -/
def scope : Location → CodeScope
  | current => .currentContext
  | function _ => .function
  | address _ => .address
  | addressRange .. => .addressRange
  | fileLine .. => .fileLine
  | fileRange .. => .fileRange

end Location

/-- Typed inspection location resolved from one schema-discriminated selector. -/
structure LocationSelection where
  function : Option String := none
  address : Option String := none
  startAddress : Option String := none
  endAddress : Option String := none
  file : Option String := none
  line : Option Int := none
  startLine : Option Int := none
  endLine : Option Int := none

/-- Translate a location union payload into inspection keyword arguments. -/
def locationSelection : Location → LocationSelection
  | .current => {}
  | .function f => { function := some f }
  | .address a => { address := some a }
  | .addressRange start stop => { startAddress := some start, endAddress := some stop }
  | .fileLine file line => { file := some file, line := some line }
  | .fileRange file start stop => { file := some file, startLine := some start, endLine := some stop }

/-- Optional thread/frame inspection context override. -/
structure ThreadFrameContext where
  threadId : Option Int := none
  frame : Option Int := none

/-- Extract optional thread/frame selectors from one typed context payload. -/
def contextSelector (context : Option ThreadFrameContext) : Option Int × Option Int :=
  match context with
  | none => (none, none)
  | some context => (context.threadId, context.frame)

structure InspectDisassemblyQuery where
  context : Option ThreadFrameContext := none
  location : Location
  instructionCount : Int := 32
  mixed : Bool := true

structure InspectSourceQuery where
  context : Option ThreadFrameContext := none
  location : Location
  contextBefore : Int := 5
  contextAfter : Int := 5

/-- The arguments that a disassembly receives. -/
def InspectDisassemblyQuery.arguments (q : InspectDisassemblyQuery) : DisassembleArgs :=
  let (threadId, frame) := contextSelector q.context
  let location := locationSelection q.location
  { threadId, frame, function := location.function, address := location.address, startAddress := location.startAddress
    endAddress := location.endAddress, file := location.file, line := location.line
    instructionCount := q.instructionCount, mixed := q.mixed }

/-- The arguments that a source lookup receives. -/
def InspectSourceQuery.arguments (q : InspectSourceQuery) : SourceContextArgs :=
  let (threadId, frame) := contextSelector q.context
  let location := locationSelection q.location
  { threadId, frame, function := location.function, address := location.address, file := location.file
    line := location.line, startLine := location.startLine, endLine := location.endLine
    contextBefore := q.contextBefore, contextAfter := q.contextAfter }

/-- The disassembly action of an inspection query. -/
def handleInspectDisassembly (W : Type) [Gdb W] (q : InspectDisassemblyQuery) : SessionM W (OperationResult DisassemblyInfo) :=
  disassemble q.arguments

/-- The source action of an inspection query. -/
def handleInspectSource (files : Files) (W : Type) [Gdb W] (q : InspectSourceQuery) :
    SessionM W (OperationResult SourceContextInfo) :=
  getSourceContext files q.arguments

/-! ### What it is to act on a location -/

namespace Location

/-- The text that a location of one place has for it. -/
def target : Location → Option String
  | function f => some f
  | address a => some a
  | _ => none

/-- The commands made of the fields of a location, with those that ask what GDB can do and where a function lies. -/
inductive Asks : Location → String → Prop
  | current (command : String) : Asks current command
  | infoFunction (f : String) : Asks (function f) ("info line " ++ f)
  | infoAddress (a : String) : Asks (address a) ("info line *" ++ a)
  | features {location : Location} (h : location.target.isSome = true) : Asks location "-list-features"
  | wholeFunction {location : Location} {text : String} (h : location.target = some text) (modeToken : String) :
      Asks location s!"-data-disassemble -a {quoteMiString text} -- {modeToken}"
  | wholeText {location : Location} {text : String} (h : location.target = some text) : Asks location ("disassemble " ++ text)
  | found {location : Location} (h : location.target.isSome = true) (start stop modeToken : String) :
      Asks location s!"-data-disassemble -s {start} -e {stop} -- {modeToken}"
  | addressRange (start stop modeToken : String) : Asks (addressRange start stop)
      s!"-data-disassemble -s {quoteMiString start} -e {quoteMiString stop} -- {modeToken}"
  | fileLine (file : String) (line count : Int) (modeToken : String) : Asks (fileLine file line)
      s!"-data-disassemble -f {quoteMiString file} -l {line} -n {count} -- {modeToken}"

/-- The lines that may be sent for a location. -/
def MaySend (location : Location) (line : String) : Prop :=
  line = inventoryLine ∨ ∃ command, location.Asks command ∧ line = actualCommand command

/-- The lines that ask for the selected thread or frame, or change it. -/
def usesSelection (line : String) : Bool := ["-thread-", "-stack-"].any (PyStr.startswith line)

def combinationMessages : List String :=
  ["Invalid disassembly selector combination", "Invalid source context selector combination"]

/-- The disassembly is of the location's own fields. -/
def DisassembledBy : Location → DisassemblyInfo → Prop
  | current, _ => True
  | function f, info => info.function = some f
  | address _, _ => True
  | addressRange start stop, info => info.startAddress = some start ∧ info.endAddress = some stop
  | fileLine file line, info => info.file = some file ∧ info.line = some line
  | fileRange file _ _, info => info.file = some file

/-- The source lines are those of the location's own fields. -/
def ShownBy (before after : Int) : Location → SourceContextInfo → Prop
  | current, _ => True
  | function f, info => info.function = some f
  | address a, info => info.address = some a
  | addressRange .., _ => True
  | fileLine file line, info => info.file = file ∧ info.line = some line ∧ info.startLine = max 1 (line - before) ∧
      info.endLine ≤ line + after
  | fileRange file start stop, info => info.file = file ∧ info.startLine = start ∧ info.endLine ≤ stop

end Location

/-- An operation acts on a location, whatever the debugger does. -/
structure ActsOn {α : Type} (location : Location) (scopeOf : α → CodeScope) (own : α → Prop)
    (operation : ∀ (W : Type) [Gdb W], SessionM W (OperationResult α)) : Prop where
  scope : ∀ (W : Type) [Gdb W] (s s' : Session W) (value : α) (warnings : List String),
    (operation W).run s = (.ok (.success value warnings), s') → scopeOf value = location.scope
  own : ∀ (W : Type) [Gdb W] (s s' : Session W) (value : α) (warnings : List String),
    (operation W).run s = (.ok (.success value warnings), s') → own value
  commands : ∀ (W : Type) [Gdb W], SendsOnly location.MaySend (operation W)
  frame : location ≠ .current → ∀ (W : Type) [Gdb W], SendsOnly (Location.usesSelection · = false) (operation W)
  /-- The arguments are not refused; with no debugger to ask, an error that GDB could report is none. -/
  accepted : ∀ (W : Type) [Gdb W] (s : Session W), s.runtime.hasController = false → ∀ message fatal details code,
    ((operation W).run s).1 = .ok (.error message fatal details code) → message ∉ Location.combinationMessages

/-! ### The commands -/

section Commands

theorem usesSelection_of_startswith {line p : String} (h : PyStr.startswith line p = true)
    (hp : ["-thread-", "-stack-"].all (PyStr.apart p) = true) : Location.usesSelection line = false := by
  rw [List.all_eq_true] at hp
  exact PyStr.any_startswith_apart h hp

theorem usesSelection_wrapCliCommand (command : String) : Location.usesSelection (wrapCliCommand command) = false :=
  usesSelection_of_startswith (PyStr.startswith_append "-interpreter-exec console " _) (by decide)

theorem usesSelection_cli {command p : String} (h : PyStr.startswith command p = true) (hp : PyStr.solid p = true)
    (hdash : PyStr.apart p "-" = true) : Location.usesSelection (actualCommand command) = false := by
  rw [actualCommand_cli h hp hdash]
  exact usesSelection_wrapCliCommand _

theorem usesSelection_dash {command p : String} (h : PyStr.startswith command p = true)
    (hdash : PyStr.startswith p "-" = true) (hp : ["-thread-", "-stack-"].all (PyStr.apart p) = true) :
    Location.usesSelection (actualCommand command) = false := by
  rw [actualCommand_of_dash (PyStr.startswith_trans h hdash)]
  exact usesSelection_of_startswith h hp

/-- Only the current location asks for the selection. -/
theorem Location.Asks.usesSelection {location : Location} {command : String} (h : location.Asks command)
    (hne : location ≠ .current) : Location.usesSelection (actualCommand command) = false := by
  cases h with
  | current => exact absurd rfl hne
  | infoFunction f => exact @usesSelection_cli _ "info" (PyStr.startswith_append_left (by decide) _) (by decide) (by decide)
  | infoAddress a => exact @usesSelection_cli _ "info" (PyStr.startswith_append_left (by decide) _) (by decide) (by decide)
  | wholeText h =>
      exact @usesSelection_cli _ "disassemble" (PyStr.startswith_append_left (by decide) _) (by decide) (by decide)
  | features h => exact @usesSelection_dash _ "-list-features" (by decide) (by decide) (by decide)
  | wholeFunction h modeToken =>
      refine @usesSelection_dash _ "-data-disassemble" ?_ (by decide) (by decide)
      exact PyStr.startswith_append_left (PyStr.startswith_append_left (PyStr.startswith_append_left (by decide) _) _) _
  | found h start stop modeToken =>
      refine @usesSelection_dash _ "-data-disassemble" ?_ (by decide) (by decide)
      iterate 5 refine PyStr.startswith_append_left ?_ _
      decide
  | addressRange start stop modeToken =>
      refine @usesSelection_dash _ "-data-disassemble" ?_ (by decide) (by decide)
      iterate 5 refine PyStr.startswith_append_left ?_ _
      decide
  | fileLine file line count modeToken =>
      refine @usesSelection_dash _ "-data-disassemble" ?_ (by decide) (by decide)
      iterate 7 refine PyStr.startswith_append_left ?_ _
      decide

theorem Location.MaySend.usesSelection {location : Location} {line : String} (h : location.MaySend line)
    (hne : location ≠ .current) : Location.usesSelection line = false := by
  rcases h with rfl | ⟨command, hasks, rfl⟩
  · exact usesSelection_wrapCliCommand _
  · exact hasks.usesSelection hne

theorem Location.Asks.maySend {location : Location} {command : String} (h : location.Asks command) :
    location.MaySend (actualCommand command) :=
  .inr ⟨command, h, rfl⟩

end Commands

/-- The code location of the fields of a location. -/
def Location.resolved : Location → ResolvedCodeLocation
  | .current => { scope := .currentContext, address := some "$pc" }
  | .function f => { scope := .function, function := some f }
  | .address a => { scope := .address, address := some a }
  | .addressRange start stop => { scope := .addressRange, startAddress := some start, endAddress := some stop }
  | .fileLine file line => { scope := .fileLine, file := some file, fullname := some file, line := some line }
  | .fileRange file _ _ => { scope := .fileRange, file := some file, fullname := some file }

/-! ### Without a debugger -/

section Detached

variable {W : Type} [Gdb W] {α β : Type} {s : Session W}

/-- The computation reports that there is no debugger. -/
def Unanswered (m : SessionM W (OperationResult α)) (s : Session W) : Prop :=
  ∃ s', m.run s = (.ok (.error "No active GDB session"), s')

theorem query_detached (hs : s.runtime.hasController = false) (command : String) :
    (query command).run s = (.ok (.error "No active GDB session"), s) :=
  executeCommandResult_detached hs command _ _

omit [Gdb W] in
theorem Unanswered.orReturn {m : SessionM W (OperationResult β)} (h : Unanswered m s)
    (next : β → SessionM W (OperationResult α)) : Unanswered (m >>= fun result => orReturn result next) s := by
  obtain ⟨s', hrun⟩ := h
  exact ⟨s', by rw [run_bind_ok hrun]; rfl⟩

theorem unanswered_query (hs : s.runtime.hasController = false) (command : String) : Unanswered (query command) s :=
  ⟨s, query_detached hs command⟩

theorem unanswered_wholeFunction (hs : s.runtime.hasController = false) (target modeToken : String)
    (next : CommandExecutionInfo → SessionM W (OperationResult α)) :
    Unanswered (wholeFunctionCommand target modeToken >>= fun result =>
      orReturn result fun command => query command >>= fun answer => orReturn answer next) s := by
  have hrange : ∀ t : Session W, t.runtime.hasController = false → Unanswered (wholeFunctionAddressRange target) t :=
    fun t ht => (unanswered_query ht _).orReturn _
  have hsupported : (read SessionRuntime.disassembleASupported : SessionM W _).run s =
      (.ok s.runtime.disassembleASupported, s) := rfl
  have hnone : ∀ t : Session W, t.runtime.hasController = false → (supportsDisassembleA : SessionM W Bool).run s = (.ok false, t) →
      Unanswered (wholeFunctionCommand target modeToken) s := by
    intro t ht hsupports
    obtain ⟨u, hu⟩ := (hrange t ht).orReturn fun (range : String × String) =>
      (pure (.success s!"-data-disassemble -s {range.1} -e {range.2} -- {modeToken}") : SessionM W (OperationResult String))
    exact ⟨u, by rw [wholeFunctionCommand, run_bind_ok hsupports]; exact hu⟩
  cases hcached : s.runtime.disassembleASupported with
  | some cached =>
      have hsupports : (supportsDisassembleA : SessionM W Bool).run s = (.ok cached, s) := by
        rw [supportsDisassembleA, run_bind_ok hsupported, hcached]
        rfl
      cases cached with
      | false => exact (hnone s hs hsupports).orReturn _
      | true =>
          have hdirect : (wholeFunctionCommand target modeToken).run s =
              (.ok (.success s!"-data-disassemble -a {quoteMiString target} -- {modeToken}"), s) := by
            rw [wholeFunctionCommand, run_bind_ok hsupports]
            rfl
          obtain ⟨s', hrun⟩ := (unanswered_query hs s!"-data-disassemble -a {quoteMiString target} -- {modeToken}").orReturn next
          exact ⟨s', by rw [run_bind_ok hdirect]; exact hrun⟩
  | none =>
      refine (hnone { s with runtime := { s.runtime with disassembleASupported := some false } } hs ?_).orReturn _
      rw [supportsDisassembleA, run_bind_ok hsupported, hcached]
      show (query "-list-features" >>= _).run s = _
      rw [run_bind_ok (query_detached hs _)]
      rfl

theorem unanswered_capture (hs : s.runtime.hasController = false) (policy : FailurePolicy) (threadId frame : Option Int)
    (queries : Option SelectionSnapshot → SessionM W (OperationResult α)) :
    Unanswered (inspecting policy true threadId frame queries) s := by
  have hcapture : Unanswered (captureSelection : SessionM W _) s := (unanswered_query hs _).orReturn _
  exact (hcapture.orReturn _).orReturn _

/-- An inspection that captures nothing runs its queries and does not switch. -/
theorem inspecting_uncaptured (policy : FailurePolicy) (threadId frame : Option Int)
    (queries : Option SelectionSnapshot → SessionM W (OperationResult α)) : inspecting policy false threadId frame queries =
      queries none >>= fun result => concludeInspection policy none false result := rfl

theorem unanswered_queries {policy : FailurePolicy} {threadId frame : Option Int}
    {queries : Option SelectionSnapshot → SessionM W (OperationResult α)} (h : Unanswered (queries none) s) :
    Unanswered (inspecting policy false threadId frame queries) s := by
  obtain ⟨s', hrun⟩ := h
  refine ⟨s', ?_⟩
  rw [inspecting_uncaptured, run_bind_ok hrun]
  cases policy <;> rfl

end Detached

/-! ### The results -/

section Results

variable {W : Type} [Gdb W] {α β : Type} {s s' : Session W} {warnings : List String}

theorem selectionErrorWithRestore_fails {selection : Option SelectionSnapshot} {message : String} {fatal : Bool}
    {details : List (String × Value)} {code : String} {value : α} :
    (selectionErrorWithRestore selection message fatal details code).run s ≠ (.ok (.success value warnings), s') := by
  intro hrun
  cases selection with
  | none => exact nomatch Except.ok.inj (Prod.mk.inj hrun).1
  | some captured =>
      obtain ⟨restored, s₁, -, hpure⟩ := ok_of_run_bind hrun
      cases restored <;> exact nomatch Except.ok.inj (Prod.mk.inj hpure).1

/-- The value of an inspection is that of its queries. -/
theorem ok_of_inspecting {policy : FailurePolicy} {captures : Bool} {threadId frame : Option Int}
    {queries : Option SelectionSnapshot → SessionM W (OperationResult α)} {value : α}
    (hrun : (inspecting policy captures threadId frame queries).run s = (.ok (.success value warnings), s')) :
    ∃ selection s₁ s₂ others, (queries selection).run s₁ = (.ok (.success value others), s₂) := by
  obtain ⟨selection, _, t, -, hrun⟩ := ok_of_orReturn_bind hrun
  obtain ⟨⟨changed, selected⟩, s₁, -, hrun⟩ := ok_of_run_bind hrun
  cases selected with
  | error message fatal details code => exact absurd hrun selectionErrorWithRestore_fails
  | success _ _ =>
      obtain ⟨result, s₂, hqueries, hrun⟩ := ok_of_run_bind hrun
      cases result with
      | success found others =>
          obtain ⟨_, _, _, -, hpure⟩ := ok_of_orReturn_bind hrun
          obtain ⟨rfl, -⟩ := OperationResult.success.inj (Except.ok.inj (Prod.mk.inj hpure).1)
          exact ⟨selection, s₁, s₂, others, hqueries⟩
      | error message fatal details code =>
          cases policy with
          | restoreAlways => exact absurd hrun selectionErrorWithRestore_fails
          | restoreIfChanged =>
              obtain ⟨_, _, _, -, hpure⟩ := ok_of_orReturn_bind hrun
              exact nomatch Except.ok.inj (Prod.mk.inj hpure).1

theorem ok_of_queryDisassembly {a : DisassembleArgs} {location : ResolvedCodeLocation} {info : DisassemblyInfo}
    (hrun : (queryDisassembly a location).run s = (.ok (.success info warnings), s')) :
    ∃ instructions, info = disassemblyInfo location a.mixed instructions := by
  obtain ⟨command, _, _, -, hrun⟩ := ok_of_orReturn_bind hrun
  obtain ⟨answer, _, _, -, hrun⟩ := ok_of_orReturn_bind hrun
  obtain ⟨instructions, _, -, hpure⟩ := ok_of_run_bind hrun
  obtain ⟨rfl, -⟩ := OperationResult.success.inj (Except.ok.inj (Prod.mk.inj hpure).1)
  exact ⟨_, rfl⟩

omit [Gdb W] in
/-- The response of a source lookup tells of the location, and shows the window that was read. -/
theorem ok_of_querySourceContext {files : Files} {a : SourceContextArgs}
    {located : SessionM W (OperationResult ResolvedCodeLocation)} {info : SourceContextInfo}
    (hrun : (querySourceContext files a located).run s = (.ok (.success info warnings), s')) :
    ∃ location others s₁ selector path text window, located.run s = (.ok (.success location others), s₁) ∧
      ReadsWindow files a location selector path text window ∧ info.scope = location.scope ∧
      info.function = location.function ∧ info.address = location.address ∧ info.line = location.line ∧
      info.file = window.file ∧ info.startLine = window.startLine ∧ info.endLine = window.endLine := by
  obtain ⟨location, others, s₁, hlocated, hrun⟩ := ok_of_orReturn_bind hrun
  obtain ⟨window, _, _, hread, hpure⟩ := ok_of_orReturn_bind hrun
  obtain ⟨selector, path, text, hwindow⟩ := ok_of_readSourceContext hread
  obtain ⟨rfl, -⟩ := OperationResult.success.inj (Except.ok.inj (Prod.mk.inj hpure).1)
  exact ⟨location, others, s₁, selector, path, text, window, hlocated, hwindow, rfl, rfl, rfl, rfl, rfl, rfl, rfl⟩

theorem ok_of_resolveInfoLineLocation {command : String} {scope : CodeScope} {function address : Option String}
    {location : ResolvedCodeLocation}
    (hrun : (resolveInfoLineLocation command scope function address).run s = (.ok (.success location warnings), s')) :
    location.scope = scope ∧ location.function = function ∧ location.address = address := by
  obtain ⟨info, _, _, -, hrun⟩ := ok_of_orReturn_bind hrun
  split at hrun
  · exact nomatch Except.ok.inj (Prod.mk.inj hrun).1
  · obtain ⟨line, _, -, hpure⟩ := ok_of_run_bind hrun
    obtain ⟨rfl, -⟩ := OperationResult.success.inj (Except.ok.inj (Prod.mk.inj hpure).1)
    exact ⟨rfl, rfl, rfl⟩

theorem ok_of_currentFrameLocation {threadId frame : Option Int} {selection : Option SelectionSnapshot}
    {location : ResolvedCodeLocation}
    (hrun : (currentFrameLocation threadId frame selection).run s = (.ok (.success location warnings), s')) :
    location.scope = .currentContext := by
  obtain ⟨info, _, t, -, hrun⟩ := ok_of_orReturn_bind hrun
  extract_lets payload details at hrun
  by_cases hpayload : (!payload.isDict) = true
  · rw [if_pos hpayload] at hrun
    exact nomatch Except.ok.inj (Prod.mk.inj hrun).1
  by_cases hdetails : (!details.isDict) = true
  · rw [if_neg hpayload, if_pos hdetails] at hrun
    exact nomatch Except.ok.inj (Prod.mk.inj hrun).1
  rw [if_neg hpayload, if_neg hdetails] at hrun
  obtain ⟨_, _, -, hrun⟩ := ok_of_run_bind hrun
  obtain ⟨_, _, -, hrun⟩ := ok_of_run_bind hrun
  obtain ⟨_, _, -, hpure⟩ := ok_of_run_bind hrun
  obtain ⟨rfl, -⟩ := OperationResult.success.inj (Except.ok.inj (Prod.mk.inj hpure).1)
  rfl

end Results

/-! ### The operations -/

theorem textOr_text {text : String} (h : Location.isText text = true) (other : Option String) :
    textOr (some text) other = some text := by
  rw [Location.isText, Bool.and_eq_true, decide_eq_true_eq] at h
  simp [textOr, h.1]

theorem not_combination {message p : String} (h : PyStr.startswith message p = true) (hp : PyStr.apart p "Invalid" = true) :
    message ∉ Location.combinationMessages := by
  have hapart := PyStr.startswith_apart h hp
  intro hmem
  rw [Location.combinationMessages, List.mem_cons, List.mem_singleton] at hmem
  rcases hmem with rfl | rfl <;> exact absurd hapart (by decide)

theorem Unanswered.not_combination {W : Type} {α : Type} {m : SessionM W (OperationResult α)} {s : Session W}
    (h : Unanswered m s) (message : String) (fatal : Bool) (details : List (String × Value)) (code : String)
    (hrun : (m.run s).1 = .ok (.error message fatal details code)) : message ∉ Location.combinationMessages := by
  obtain ⟨s', hs'⟩ := h
  rw [hs'] at hrun
  obtain ⟨rfl, -⟩ := OperationResult.error.inj (Except.ok.inj hrun)
  decide

theorem Location.maySend_inventory (location : Location) : location.MaySend inventoryLine := .inl rfl

/-- An operation that asks for no selection where its location is not the current one. -/
theorem ActsOn.of_commands {α : Type} {location : Location} {scopeOf : α → CodeScope} {own : α → Prop}
    {operation : ∀ (W : Type) [Gdb W], SessionM W (OperationResult α)}
    (hvalue : ∀ (W : Type) [Gdb W] (s s' : Session W) (value : α) (warnings : List String),
      (operation W).run s = (.ok (.success value warnings), s') → scopeOf value = location.scope ∧ own value)
    (hcommands : ∀ (W : Type) [Gdb W], SendsOnly location.MaySend (operation W))
    (haccepted : ∀ (W : Type) [Gdb W] (s : Session W), s.runtime.hasController = false → ∀ message fatal details code,
      ((operation W).run s).1 = .ok (.error message fatal details code) → message ∉ Location.combinationMessages) :
    ActsOn location scopeOf own operation where
  scope W _ s s' value warnings hrun := (hvalue W s s' value warnings hrun).1
  own W _ s s' value warnings hrun := (hvalue W s s' value warnings hrun).2
  commands := hcommands
  frame hne W _ := SendsOnly.mono (hcommands W) fun _ h => h.usesSelection hne
  accepted := haccepted

theorem ActsOn.congr {α : Type} {location : Location} {scopeOf : α → CodeScope} {own : α → Prop}
    {operation operation' : ∀ (W : Type) [Gdb W], SessionM W (OperationResult α)}
    (heq : ∀ (W : Type) [Gdb W], operation W = operation' W) (h : ActsOn location scopeOf own operation') :
    ActsOn location scopeOf own operation := by
  have hsame : @operation = @operation' := by
    funext W gdb
    exact heq W
  exact hsame ▸ h

section Disassembly

variable {W : Type} [Gdb W] {location : Location} {place : ResolvedCodeLocation} {a : DisassembleArgs} {target command : String}

/-- The disassembly of a whole function. -/
theorem sendsOnly_disassembleFunction (htarget : location.target = some target ∨ location = .current)
    (hbuild : buildDisassembleCommand place a.instructionCount a.mixed =
      (wholeFunctionCommand target (if a.mixed then "1" else "0") : SessionM W _)) :
    SendsOnly location.MaySend (queryDisassembly a place : SessionM W _) := by
  have hasks : ∀ command, command = "-list-features" ∨ command = "disassemble " ++ target ∨
      WholeFunction target (if a.mixed then "1" else "0") command → location.Asks command := by
    intro command hcommand
    rcases htarget with htarget | rfl
    · have hsome : location.target.isSome = true := by rw [htarget]; rfl
      rcases hcommand with rfl | rfl | hwhole
      · exact .features hsome
      · exact .wholeText htarget
      · cases hwhole with
        | direct => exact .wholeFunction htarget _
        | found start stop => exact .found hsome _ _ _
    · exact .current command
  refine sendsOnly_queryDisassembly location.maySend_inventory ?_ fun command s s' warnings hrun => ?_
  · rw [hbuild]
    exact sendsOnly_wholeFunctionCommand location.maySend_inventory (hasks _ (.inl rfl)).maySend
      (hasks _ (.inr (.inl rfl))).maySend _
  · rw [hbuild] at hrun
    exact (hasks _ (.inr (.inr (ok_of_wholeFunctionCommand hrun)))).maySend

theorem unanswered_disassembleFunction {s : Session W} (hs : s.runtime.hasController = false)
    (hbuild : buildDisassembleCommand place a.instructionCount a.mixed =
      (wholeFunctionCommand target (if a.mixed then "1" else "0") : SessionM W _)) :
    Unanswered (queryDisassembly a place : SessionM W _) s := by
  rw [queryDisassembly, hbuild]
  exact unanswered_wholeFunction hs _ _ _

/-- The disassembly of a range or around a line, whose command needs no query. -/
theorem sendsOnly_disassembleRange (hasks : location.Asks command)
    (hbuild : buildDisassembleCommand place a.instructionCount a.mixed = (pure (.success command) : SessionM W _)) :
    SendsOnly location.MaySend (queryDisassembly a place : SessionM W _) := by
  refine sendsOnly_queryDisassembly location.maySend_inventory ?_ fun command s s' warnings hrun => ?_
  · rw [hbuild]
    exact Within.pure _
  · rw [hbuild] at hrun
    obtain ⟨rfl, -⟩ := OperationResult.success.inj (Except.ok.inj (Prod.mk.inj hrun).1)
    exact hasks.maySend

theorem unanswered_disassembleRange {s : Session W} (hs : s.runtime.hasController = false)
    (hbuild : buildDisassembleCommand place a.instructionCount a.mixed = (pure (.success command) : SessionM W _)) :
    Unanswered (queryDisassembly a place : SessionM W _) s := by
  rw [queryDisassembly, hbuild]
  exact (unanswered_query hs command).orReturn _

theorem disassembledBy_info (hlocation : location.Accepted) (mixed : Bool) (instructions : List DisassemblyInstruction) :
    (disassemblyInfo location.resolved mixed instructions).scope = location.scope ∧
      location.DisassembledBy (disassemblyInfo location.resolved mixed instructions) := by
  cases location with
  | current => exact ⟨rfl, trivial⟩
  | function f => exact ⟨rfl, textOr_text hlocation _⟩
  | address a => exact ⟨rfl, trivial⟩
  | addressRange start stop => exact ⟨rfl, textOr_text hlocation.1 _, textOr_text hlocation.2 _⟩
  | fileLine file line =>
      have hline : (some line).filter (· ≠ 0) = some line := by
        have hpos : 0 < line := hlocation.2
        simp [show line ≠ 0 by omega]
      exact ⟨rfl, textOr_text hlocation.1 _, congrArg (· <|> _) hline⟩
  | fileRange file start stop => exact ⟨rfl, textOr_text hlocation.1 _⟩

end Disassembly

theorem actsOn_queryDisassembly {location : Location} {a : DisassembleArgs} (hlocation : location.Accepted)
    (hsends : ∀ (W : Type) [Gdb W], SendsOnly location.MaySend (queryDisassembly a location.resolved : SessionM W _))
    (hdetached : ∀ (W : Type) [Gdb W] (s : Session W), s.runtime.hasController = false →
      Unanswered (queryDisassembly a location.resolved) s) :
    ActsOn location DisassemblyInfo.scope location.DisassembledBy fun W => queryDisassembly (W := W) a location.resolved := by
  refine .of_commands (fun W _ s s' info warnings hrun => ?_) hsends fun W _ s hs => (hdetached W s hs).not_combination
  obtain ⟨instructions, rfl⟩ := ok_of_queryDisassembly hrun
  exact disassembledBy_info hlocation _ _

/-- The disassembly of the current context. -/
theorem actsOn_disassembleCurrent {a : DisassembleArgs} (ha : a.isCurrent = true) :
    ActsOn .current DisassemblyInfo.scope (Location.DisassembledBy .current) fun W => disassemble (W := W) a := by
  have hmay : ∀ command, Location.MaySend .current (actualCommand command) := fun command =>
    (Location.Asks.current command).maySend
  have hlocated : ∀ (W : Type) [Gdb W] (selection : Option SelectionSnapshot) (s s' : Session W) (place : ResolvedCodeLocation),
      (currentLocation a selection).run s = (.ok place, s') → s' = s ∧ place.scope = .currentContext ∧
        buildDisassembleCommand place a.instructionCount a.mixed =
          (wholeFunctionCommand "$pc" (if a.mixed then "1" else "0") : SessionM W _) := by
    intro W _ selection s s' place hrun
    obtain ⟨hplace, rfl⟩ := Prod.mk.inj hrun
    obtain rfl := Except.ok.inj hplace
    exact ⟨rfl, rfl, rfl⟩
  refine .of_commands (fun W _ s s' info warnings hrun => ?_) (fun W _ => ?_) fun W _ s hs => ?_
  · rw [disassemble, if_pos ha] at hrun
    obtain ⟨selection, s₁, s₂, others, hqueries⟩ := ok_of_inspecting hrun
    obtain ⟨place, s₃, hplace, hquery⟩ := ok_of_run_bind hqueries
    obtain ⟨instructions, rfl⟩ := ok_of_queryDisassembly hquery
    exact ⟨(hlocated W selection s₁ s₃ place hplace).2.1, trivial⟩
  · rw [disassemble, if_pos ha]
    refine sendsOnly_inspecting (Location.maySend_inventory _) ⟨hmay _, hmay _, fun _ => hmay _, fun _ => hmay _⟩ _ _ _ _ ?_
    intro selection
    refine Within.bind_returned ((sendsOnly_read id).bind fun _ => Within.pure _) fun place s s' hplace => ?_
    exact sendsOnly_disassembleFunction (.inr rfl) (hlocated W selection s s' place hplace).2.2
  · rw [disassemble, if_pos ha]
    refine Unanswered.not_combination ?_
    cases a.threadId.isSome || a.frame.isSome with
    | true => exact unanswered_capture hs _ _ _ _
    | false =>
        refine unanswered_queries ?_
        obtain ⟨place, hplace⟩ : ∃ place, (currentLocation a none).run s = (.ok place, s) := ⟨_, rfl⟩
        obtain ⟨s', hrun⟩ := unanswered_disassembleFunction hs (hlocated W none s s place hplace).2.2
        exact ⟨s', by rw [run_bind_ok hplace]; exact hrun⟩

/-- The disassembly acts on every location but a range of lines. -/
theorem disassembly_actsOn {q : InspectDisassemblyQuery} (hq : q.location.Accepted)
    (hkind : q.location.scope ≠ .fileRange) :
    ActsOn q.location DisassemblyInfo.scope q.location.DisassembledBy fun W => handleInspectDisassembly W q := by
  obtain ⟨context, location, count, mixed⟩ := q
  cases location with
  | current => exact actsOn_disassembleCurrent rfl
  | function f =>
      refine @actsOn_queryDisassembly (.function f) _ hq (fun W _ => ?_) fun W _ s hs => ?_
      · exact @sendsOnly_disassembleFunction W _ _ _ _ f (.inl rfl) rfl
      · exact @unanswered_disassembleFunction W _ _ _ f s hs rfl
  | address a =>
      refine @actsOn_queryDisassembly (.address a) _ hq (fun W _ => ?_) fun W _ s hs => ?_
      · exact @sendsOnly_disassembleFunction W _ _ _ _ a (.inl rfl) rfl
      · exact @unanswered_disassembleFunction W _ _ _ a s hs rfl
  | addressRange start stop =>
      refine @actsOn_queryDisassembly (.addressRange start stop) _ hq (fun W _ => ?_) fun W _ s hs => ?_
      · exact sendsOnly_disassembleRange (.addressRange start stop _) rfl
      · exact unanswered_disassembleRange hs rfl
  | fileLine file line =>
      let modeToken := if mixed then "1" else "0"
      have hbuild : ∀ (W : Type) [Gdb W], buildDisassembleCommand (Location.fileLine file line).resolved count mixed =
          (pure (.success s!"-data-disassemble -f {quoteMiString file} -l {line} -n {count} -- {modeToken}") : SessionM W _) := by
        intro W _
        have hfile := textOr_text hq.1 (some file)
        simp only [buildDisassembleCommand, Location.resolved, hfile, modeToken]
      refine @actsOn_queryDisassembly (.fileLine file line) _ hq (fun W _ => ?_) fun W _ s hs => ?_
      · exact sendsOnly_disassembleRange (.fileLine file line count _) (hbuild W)
      · exact unanswered_disassembleRange hs (hbuild W)
  | fileRange file start stop => exact absurd rfl hkind

/-! ### Source lookups -/

section Source

variable {W : Type} [Gdb W] {files : Files} {a : SourceContextArgs} {place : ResolvedCodeLocation} {s s' : Session W}

omit [Gdb W] in
theorem readSourceContext_error {message : String} {fatal : Bool} {details : List (String × Value)} {code : String}
    (hrun : (readSourceContext files a place).run s = (.ok (.error message fatal details code), s')) :
    message ∉ Location.combinationMessages := by
  have hsource : ∀ {m : String}, PyStr.startswith m "Source" = true → m ∉ Location.combinationMessages :=
    fun h => not_combination h (by decide)
  have hresolved : ∀ {m : String}, PyStr.startswith m "Resolved" = true → m ∉ Location.combinationMessages :=
    fun h => not_combination h (by decide)
  unfold readSourceContext at hrun
  split at hrun
  · obtain ⟨rfl, -⟩ := OperationResult.error.inj (Except.ok.inj (Prod.mk.inj hrun).1)
    exact hresolved (by decide)
  · rename_i selector hselector
    obtain ⟨path, t, -, hrun⟩ := ok_of_run_bind hrun
    split at hrun
    · obtain ⟨rfl, -⟩ := OperationResult.error.inj (Except.ok.inj (Prod.mk.inj hrun).1)
      exact hsource (PyStr.startswith_append_left (by decide) _)
    · obtain ⟨text, t', -, hwindow⟩ := ok_of_run_bind hrun
      unfold readWindow at hwindow
      extract_lets sourceLines at hwindow
      split at hwindow
      · obtain ⟨rfl, -⟩ := OperationResult.error.inj (Except.ok.inj (Prod.mk.inj hwindow).1)
        exact hresolved (by decide)
      · split at hwindow
        · obtain ⟨rfl, -⟩ := OperationResult.error.inj (Except.ok.inj (Prod.mk.inj hwindow).1)
          refine hsource ?_
          iterate 3 refine PyStr.startswith_append_left ?_ _
          decide
        · obtain ⟨lines, u, -, hpure⟩ := ok_of_run_bind hwindow
          exact nomatch Except.ok.inj (Prod.mk.inj hpure).1

omit [Gdb W] in
/-- A lookup in a file that the location names reads that file. -/
theorem querySourceContext_file_error {message : String} {fatal : Bool} {details : List (String × Value)} {code : String}
    (hrun : ((querySourceContext files a (pure (.success place))).run s).1 = .ok (.error message fatal details code)) :
    message ∉ Location.combinationMessages := by
  obtain ⟨window, s₁, hread, hrest⟩ := ok_of_run_bind (m := readSourceContext files a place) (Prod.ext hrun rfl)
  cases window with
  | success window others => exact nomatch Except.ok.inj (Prod.mk.inj hrest).1
  | error message' fatal' details' code' =>
      obtain ⟨rfl, -⟩ := OperationResult.error.inj (Except.ok.inj (Prod.mk.inj hrest).1)
      exact readSourceContext_error hread

omit [Gdb W] in
theorem file_of_readsWindow {file selector path text : String} {window : ResolvedSourceWindow} (hfile : Location.isText file = true)
    (hplace : place.file = some file) (h : ReadsWindow files a place selector path text window) : window.file = file := by
  rw [h.file, hplace, textOr_text hfile]
  rfl

theorem getSourceContext_function {f : String} (hf : a.function = some f) : getSourceContext (W := W) files a =
    querySourceContext files a (resolveInfoLineLocation ("info line " ++ f) .function (some f) none) := by
  have hcurrent : a.isCurrent = false := by simp [SourceContextArgs.isCurrent, hf]
  have hresolve : resolveSourceLocation (W := W) a = resolveInfoLineLocation ("info line " ++ f) .function (some f) none := by
    obtain ⟨_, _, _, _, _, _, _, _, _, _⟩ := a
    obtain rfl : _ = some f := hf
    rw [resolveSourceLocation]
  rw [getSourceContext, hcurrent, if_neg (by decide), hresolve]

theorem getSourceContext_address {address : String} (hf : a.function = none) (ha : a.address = some address) :
    getSourceContext (W := W) files a =
      querySourceContext files a (resolveInfoLineLocation ("info line *" ++ address) .address none (some address)) := by
  have hcurrent : a.isCurrent = false := by simp [SourceContextArgs.isCurrent, ha]
  have hresolve : resolveSourceLocation (W := W) a =
      resolveInfoLineLocation ("info line *" ++ address) .address none (some address) := by
    obtain ⟨_, _, _, _, _, _, _, _, _, _⟩ := a
    obtain rfl : _ = none := hf
    obtain rfl : _ = some address := ha
    rw [resolveSourceLocation]
    exact fun _ h => nomatch h
  rw [getSourceContext, hcurrent, if_neg (by decide), hresolve]

/-- A lookup that asks GDB for the line. -/
theorem actsOn_infoLine {location : Location} {own : SourceContextInfo → Prop} {command : String} {function address : Option String}
    (hasks : location.Asks command) (hown : ∀ info : SourceContextInfo, info.function = function → info.address = address → own info) :
    ActsOn location SourceContextInfo.scope own fun W => querySourceContext (W := W) files a
      (resolveInfoLineLocation command location.scope function address) := by
  refine .of_commands (fun W _ s s' info warnings hrun => ?_) (fun W _ => ?_) fun W _ s hs => ?_
  · obtain ⟨place, others, s₁, selector, path, text, window, hlocated, -, hscope, hfunction, haddress, -⟩ :=
      ok_of_querySourceContext hrun
    obtain ⟨hscope', hfunction', haddress'⟩ := ok_of_resolveInfoLineLocation hlocated
    exact ⟨hscope.trans hscope', hown info (hfunction.trans hfunction') (haddress.trans haddress')⟩
  · exact sendsOnly_querySourceContext _ _
      (sendsOnly_resolveInfoLineLocation location.maySend_inventory hasks.maySend _ _ _)
  · have hlocated : Unanswered (resolveInfoLineLocation command location.scope function address) s :=
      (unanswered_query hs command).orReturn _
    exact (hlocated.orReturn _).not_combination

/-- A lookup in a file that the location names. -/
theorem actsOn_file {location : Location} {own : SourceContextInfo → Prop} (hscope : place.scope = location.scope)
    (hown : ∀ (info : SourceContextInfo) (selector path text : String) (window : ResolvedSourceWindow),
      ReadsWindow files a place selector path text window → info.line = place.line → info.file = window.file →
      info.startLine = window.startLine → info.endLine = window.endLine → own info) :
    ActsOn location SourceContextInfo.scope own fun W => querySourceContext (W := W) files a (pure (.success place)) := by
  refine .of_commands (fun W _ s s' info warnings hrun => ?_) (fun W _ => ?_) fun W _ s hs => ?_
  · obtain ⟨place', others, s₁, selector, path, text, window, hlocated, hreads, hscope', -, -, hline, hfile, hstart, hend⟩ :=
      ok_of_querySourceContext hrun
    obtain ⟨rfl, -⟩ := OperationResult.success.inj (Except.ok.inj (Prod.mk.inj hlocated).1)
    exact ⟨hscope'.trans hscope, hown info selector path text window hreads hline hfile hstart hend⟩
  · exact sendsOnly_querySourceContext _ _ (Within.pure _)
  · intro message fatal details code hrun
    exact querySourceContext_file_error hrun

/-- The lookup of the current frame. -/
theorem actsOn_sourceCurrent {own : SourceContextInfo → Prop} (ha : a.isCurrent = true) (hown : ∀ info, own info) :
    ActsOn .current SourceContextInfo.scope own fun W => getSourceContext (W := W) files a := by
  have hmay : ∀ command, Location.MaySend .current (actualCommand command) := fun command =>
    (Location.Asks.current command).maySend
  refine .of_commands (fun W _ s s' info warnings hrun => ?_) (fun W _ => ?_) fun W _ s hs => ?_
  · rw [getSourceContext, if_pos ha] at hrun
    obtain ⟨selection, s₁, s₂, others, hqueries⟩ := ok_of_inspecting hrun
    obtain ⟨place, others, s₃, selector, path, text, window, hlocated, -, hscope, -⟩ := ok_of_querySourceContext hqueries
    exact ⟨hscope.trans (ok_of_currentFrameLocation hlocated), hown info⟩
  · rw [getSourceContext, if_pos ha]
    refine sendsOnly_inspecting (Location.maySend_inventory _) ⟨hmay _, hmay _, fun _ => hmay _, fun _ => hmay _⟩ _ _ _ _ ?_
    exact fun selection => sendsOnly_querySourceContext _ _
      (sendsOnly_currentFrameLocation (Location.maySend_inventory _) (hmay _) _ _ _)
  · rw [getSourceContext, if_pos ha]
    refine Unanswered.not_combination ?_
    cases a.threadId.isSome || a.frame.isSome with
    | true => exact unanswered_capture hs _ _ _ _
    | false =>
        have hlocated : Unanswered (currentFrameLocation a.threadId a.frame none) s := (unanswered_query hs _).orReturn _
        exact unanswered_queries (hlocated.orReturn _)

end Source

/-- The source lookup acts on every location but a range of addresses. -/
theorem source_actsOn {files : Files} {q : InspectSourceQuery} (hq : q.location.Accepted)
    (hkind : q.location.scope ≠ .addressRange) :
    ActsOn q.location SourceContextInfo.scope (q.location.ShownBy q.contextBefore q.contextAfter) fun W =>
      handleInspectSource files W q := by
  obtain ⟨context, location, before, after⟩ := q
  cases location with
  | current => exact actsOn_sourceCurrent rfl fun _ => trivial
  | function f =>
      refine ActsOn.congr (fun W _ => getSourceContext_function rfl) ?_
      exact @actsOn_infoLine files _ (.function f) _ _ (some f) none (.infoFunction f) fun _ h _ => h
  | address a =>
      refine ActsOn.congr (fun W _ => getSourceContext_address rfl rfl) ?_
      exact @actsOn_infoLine files _ (.address a) _ _ none (some a) (.infoAddress a) fun _ _ h => h
  | addressRange start stop => exact absurd rfl hkind
  | fileLine file line =>
      refine @actsOn_file files _ (Location.fileLine file line).resolved _ _ rfl ?_
      intro info selector path text window hreads hline hfile hstart hend
      obtain ⟨first, wanted, current, hbounds, -, hfirst, hlast, -⟩ := hreads.bounds
      have haround : some (max 1 (line - before), line + after, some line) = some (first, wanted, current) := hbounds
      obtain ⟨rfl, rfl, -⟩ : max 1 (line - before) = first ∧ line + after = wanted ∧ some line = current := by
        simpa using haround
      have hlast' : info.endLine ≤ line + after := by omega
      exact ⟨hfile.trans (file_of_readsWindow hq.1 rfl hreads), hline, hstart.trans hfirst, hlast'⟩
  | fileRange file start stop =>
      refine @actsOn_file files _ (Location.fileRange file start stop).resolved _ _ rfl ?_
      intro info selector path text window hreads hline hfile hstart hend
      obtain ⟨first, wanted, current, hbounds, -, hfirst, hlast, -⟩ := hreads.bounds
      have hrange : some (start, stop, none) = some (first, wanted, current) := hbounds
      obtain ⟨rfl, rfl, -⟩ : start = first ∧ stop = wanted ∧ none = current := by
        simpa using hrange
      exact ⟨hfile.trans (file_of_readsWindow hq.1 rfl hreads), hstart.trans hfirst, by omega⟩

/-! ### The two that are lost -/

theorem fileRange_refused {d : InspectDisassemblyQuery} (hd : d.location.scope = .fileRange) (W : Type) [Gdb W] (s : Session W) :
    (handleInspectDisassembly W d).run s = (.ok (.error "Invalid disassembly selector combination"), s) := by
  obtain ⟨context, location, count, mixed⟩ := d
  cases location with
  | fileRange file start stop => rfl
  | _ => exact nomatch hd

/-- A debugger to which every write raises, with a command on its way. -/
def raisingWrites : Session Scripted where
  runtime := { transport := { controller := some {} } }
  gdb := { Script.play { rounds := fun _ => { own := { written := .error (.other "closed") } } } with queue := [] }

theorem query_raises (command : String) : ∃ t, (query command).run raisingWrites = (.error (.other "closed"), t) ∧
    t.runtime.lines = [actualCommand command] := by
  obtain ⟨s₀, halive, hsend⟩ : ∃ s₀, isGdbAlive.run raisingWrites = (.ok true, s₀) ∧ ∀ line timeoutSec, ∃ t,
      (Session.sendCommandAndWaitForPrompt line timeoutSec).run s₀ = (.error (.other "closed"), t) ∧ t.runtime.lines = [line] :=
    ⟨_, rfl, fun _ _ => ⟨_, rfl, rfl⟩⟩
  obtain ⟨t, hraises, hlines⟩ := hsend (actualCommand command) defaultTimeoutSec
  have hcontroller : (Session.hasController : SessionM Scripted Bool).run raisingWrites = (.ok true, raisingWrites) := rfl
  refine ⟨t, ?_, hlines⟩
  rw [query, executeCommandResult, run_bind_ok hcontroller, if_pos rfl, run_bind_ok halive, if_pos rfl]
  exact run_bind_error hraises

/-- A range of addresses is taken for the current context. -/
theorem addressRange_asks_selection {files : Files} {q : InspectSourceQuery} (hq : q.location.scope = .addressRange) :
    ∃ line, Location.usesSelection line = true ∧
      ((handleInspectSource files Scripted q).run raisingWrites).2.runtime.lines = [line] := by
  obtain ⟨context, location, before, after⟩ := q
  cases location with
  | addressRange start stop =>
      have hcurrent : handleInspectSource files Scripted ⟨context, .addressRange start stop, before, after⟩ =
          inspecting .restoreAlways ((contextSelector context).1.isSome || (contextSelector context).2.isSome)
            (contextSelector context).1 (contextSelector context).2 fun selection =>
              querySourceContext files (InspectSourceQuery.arguments ⟨context, .addressRange start stop, before, after⟩)
                (currentFrameLocation (contextSelector context).1 (contextSelector context).2 selection) := rfl
      rw [hcurrent]
      cases (contextSelector context).1.isSome || (contextSelector context).2.isSome with
      | true =>
          obtain ⟨t, hquery, hlines⟩ := query_raises "-thread-info"
          have hcapture : (captureSelection : SessionM Scripted _).run raisingWrites = (.error (.other "closed"), t) :=
            run_bind_error hquery
          have hcaptured : (captureIf true : SessionM Scripted _).run raisingWrites = (.error (.other "closed"), t) :=
            run_bind_error hcapture
          rw [inspecting, run_bind_error hcaptured]
          exact ⟨_, by decide +kernel, hlines⟩
      | false =>
          obtain ⟨t, hquery, hlines⟩ := query_raises "-stack-info-frame"
          have hlocated : (currentFrameLocation (contextSelector context).1 (contextSelector context).2 none :
              SessionM Scripted _).run raisingWrites = (.error (.other "closed"), t) := run_bind_error hquery
          rw [inspecting_uncaptured, querySourceContext, run_bind_error (run_bind_error hlocated)]
          exact ⟨_, by decide +kernel, hlines⟩
  | _ => exact nomatch hq

end GdbMcp
