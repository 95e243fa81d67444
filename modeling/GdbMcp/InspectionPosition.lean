import GdbMcp.InspectionLookup

/-! What a disassembly of the current context shows of the place of execution. The instructions are compared with the
text `$pc`, and those beyond the requested number are cut off at the end. -/

namespace GdbMcp

open Eff

variable {current : Option String} {group : InstructionGroup} {payload entry : Value} {records : List DisassemblyInstruction}

/-- A disassembly that shows where execution is. -/
structure ShowsExecution (pc count : Int) (info : DisassemblyInfo) : Prop where
  bounded : info.instructions.length ≤ count
  shown : ∃ i ∈ info.instructions, PyStr.intAnyBase i.address = .ok pc
  marked : ∀ i ∈ info.instructions, i.isCurrent = true ↔ PyStr.intAnyBase i.address = .ok pc

/-! ### Records -/

/-- An instruction as the debugger prints it, at an address. -/
structure PrintsInstruction (payload : Value) (address : Int) : Prop where
  address : ∃ text, asTextOrNumber (payload.get "address") = some text ∧ PyStr.intAnyBase text = .ok address
  inst : ∃ text, asTextOrNumber (payload.get "inst") = some text
  offset : ∃ offset, asInt (payload.get "offset") = .ok offset

/-- The entries of an answer, with the addresses of their instructions: an entry is an instruction, or a source line with
its instructions. -/
inductive PrintsCode : List Value → List Int → Prop
  | nil : PrintsCode [] []
  | instruction {payload : Value} {address : Int} {rest : List Value} {addresses : List Int}
      (halone : ∀ nested, payload.get "line_asm_insn" ≠ .list nested) (hpayload : PrintsInstruction payload address)
      (hrest : PrintsCode rest addresses) : PrintsCode (payload :: rest) (address :: addresses)
  | line {entry : Value} {nested : List Value} {own : List Int} {rest : List Value} {addresses : List Int}
      (hnested : entry.get "line_asm_insn" = .list nested) (hline : ∃ line, asInt (entry.get "line") = .ok line)
      (hown : List.Forall₂ PrintsInstruction nested own) (hrest : PrintsCode rest addresses) :
      PrintsCode (entry :: rest) (own ++ addresses)

theorem isDict_of_get (key : String) (h : payload.get key ≠ .none) : payload.isDict = true := by
  cases payload with
  | dict => rfl
  | _ => exact absurd rfl h

theorem PrintsCode.asRecordList {entries : List Value} {addresses : List Int} (h : PrintsCode entries addresses) :
    asRecordList (.list entries) = entries := by
  refine List.filter_eq_self.mpr ?_
  induction h with
  | nil => exact nofun
  | instruction _ hpayload _ ih =>
      refine List.forall_mem_cons.mpr ⟨isDict_of_get "inst" fun hnone => ?_, ih⟩
      obtain ⟨text, htext⟩ := hpayload.inst
      rw [hnone] at htext
      cases htext
  | line hnested _ _ _ ih =>
      refine List.forall_mem_cons.mpr ⟨isDict_of_get "line_asm_insn" fun hnone => ?_, ih⟩
      rw [hnone] at hnested
      cases hnested

/-- The addresses that the records are at. -/
def AtAddresses (records : List DisassemblyInstruction) (addresses : List Int) : Prop :=
  List.Forall₂ (fun r address => PyStr.intAnyBase r.address = .ok address) records addresses

variable (current group) in
theorem normalizeInstruction_prints {address : Int} (h : PrintsInstruction payload address) :
    ∃ r, normalizeInstruction current group payload = .ok (some r) ∧ PyStr.intAnyBase r.address = .ok address := by
  obtain ⟨text, htext, hvalue⟩ := h.address
  obtain ⟨inst, hinst⟩ := h.inst
  obtain ⟨offset, hoffset⟩ := h.offset
  rw [normalizeInstruction, htext, hinst]
  dsimp only
  rw [hoffset]
  exact ⟨_, rfl, hvalue⟩

variable (current group) in
theorem normalizeInstructions_prints {payloads : List Value} {addresses : List Int}
    (h : List.Forall₂ PrintsInstruction payloads addresses) :
    ∃ records, normalizeInstructions current group payloads = .ok records ∧ AtAddresses records addresses := by
  induction h with
  | nil => exact ⟨[], rfl, .nil⟩
  | cons hpayload _ ih =>
      obtain ⟨r, hr, hat⟩ := normalizeInstruction_prints current group hpayload
      obtain ⟨records, hrecords, hats⟩ := ih
      exact ⟨r :: records, by rw [normalizeInstructions, hr, hrecords]; rfl, .cons hat hats⟩

variable (current) in
/-- An answer is flattened to the records of its instructions, in their order. -/
theorem normalizeEntries_prints {entries : List Value} {addresses : List Int} (h : PrintsCode entries addresses) :
    ∃ records, normalizeEntries current entries = .ok records ∧ AtAddresses records addresses := by
  induction h with
  | nil => exact ⟨[], rfl, .nil⟩
  | @instruction payload address rest addresses halone hpayload _ ih =>
      obtain ⟨own, hown, hat⟩ := normalizeInstructions_prints current {} (List.Forall₂.cons hpayload .nil)
      obtain ⟨records, hrecords, hats⟩ := ih
      have hentry : normalizeEntry current payload = .ok own := by
        rw [normalizeEntry]
        split
        · rename_i nested hnested
          exact absurd hnested (halone nested)
        · exact hown
      exact ⟨own ++ records, by rw [normalizeEntries, hentry, hrecords]; rfl, List.rel_append hat hats⟩
  | @line entry nested ownAddresses rest addresses hnested hline hown _ ih =>
      obtain ⟨line, hline⟩ := hline
      obtain ⟨own, howned, hat⟩ := normalizeInstructions_prints current
        { file := asTextOrNumber (entry.get "file"), fullname := asTextOrNumber (entry.get "fullname"), line } hown
      obtain ⟨records, hrecords, hats⟩ := ih
      have hentry : normalizeEntry current entry = .ok own := by
        rw [normalizeEntry, hnested]
        dsimp only
        rw [hline]
        exact howned
      exact ⟨own ++ records, by rw [normalizeEntries, hentry, hrecords]; rfl, List.rel_append hat hats⟩

theorem AtAddresses.of_mem {addresses : List Int} (hat : AtAddresses records addresses) {r : DisassemblyInstruction}
    (hr : r ∈ records) : ∃ address, PyStr.intAnyBase r.address = .ok address := by
  induction hat with
  | nil => cases hr
  | cons haddress _ ih =>
      rcases List.mem_cons.mp hr with rfl | hr
      · exact ⟨_, haddress⟩
      · exact ih hr

theorem exists_at_iff {addresses : List Int} {pc : Int} (hat : AtAddresses records addresses) :
    (∃ i ∈ records, PyStr.intAnyBase i.address = .ok pc) ↔ pc ∈ addresses := by
  induction hat with
  | nil => simp
  | cons haddress _ ih => rw [List.exists_mem_cons_iff, ih, haddress, List.mem_cons, Except.ok.injEq, eq_comm]

/-- In an ordered list an element is among the first `n` if and only if fewer than `n` are smaller. -/
theorem mem_take_of_ordered {xs : List Int} {x : Int} {n : Nat} (hordered : xs.Pairwise (· < ·)) (hx : x ∈ xs) :
    x ∈ xs.take n ↔ (xs.filter (· < x)).length < n := by
  induction xs generalizing n with
  | nil => cases hx
  | cons y ys ih =>
      obtain ⟨hfirst, hrest⟩ := List.pairwise_cons.mp hordered
      cases n with
      | zero => simp
      | succ n =>
          rcases List.mem_cons.mp hx with rfl | hx
          · have hnone : ys.filter (· < x) = [] := List.filter_eq_nil_iff.mpr fun z hz => by
              have := hfirst z hz
              simp only [decide_eq_true_eq]
              omega
            rw [List.filter_cons_of_neg (by simp), hnone]
            simp
          · have hlt := hfirst x hx
            have hne : x ≠ y := by omega
            rw [List.filter_cons_of_pos (by simpa using hlt), List.length_cons, List.take_succ_cons, List.mem_cons,
              or_iff_right hne, ih hrest hx]
            omega

/-- Among the first records of code in address order is the one at an address if and only if few enough lie before it. -/
theorem shown_iff {addresses : List Int} {pc count : Int} (hat : AtAddresses records addresses)
    (hordered : addresses.Pairwise (· < ·)) (hpc : pc ∈ addresses) (hcount : 0 ≤ count) :
    (∃ i ∈ sliceTo records count, PyStr.intAnyBase i.address = .ok pc) ↔
      (addresses.filter (· < pc)).length < count := by
  have htake : sliceTo records count = records.take count.toNat := by rw [sliceTo, if_pos hcount]
  have hfirst : AtAddresses (records.take count.toNat) (addresses.take count.toNat) := List.forall₂_take _ hat
  rw [htake, exists_at_iff hfirst, mem_take_of_ordered hordered hpc]
  omega

/-! ### The mark -/

theorem intAnyBase_pc : PyStr.intAnyBase "$pc" = .error (.valueError "invalid literal for int() with base 0: '$pc'") := by
  decide +kernel

/-- No text but `$pc` itself is equal to it. -/
theorem eq_of_addressesEqual {address : String} (h : addressesEqual address "$pc" = true) : address = "$pc" := by
  rw [addressesEqual, intAnyBase_pc] at h
  split at h
  · rename_i heq
    exact nomatch heq
  · exact beq_iff_eq.mp h

/-- The instructions that are marked are at the text `$pc`. -/
def MarksText (records : List DisassemblyInstruction) : Prop := ∀ r ∈ records, r.isCurrent = true → r.address = "$pc"

theorem marksText_normalizeInstructions {payloads : List Value}
    (h : normalizeInstructions (some "$pc") group payloads = .ok records) : MarksText records := by
  induction payloads generalizing records with
  | nil =>
      obtain rfl := Except.ok.inj h
      exact nofun
  | cons payload rest ih =>
      obtain ⟨record, hrecord, h⟩ := ok_of_except_bind h
      obtain ⟨others, hothers, h⟩ := ok_of_except_bind h
      obtain rfl := Except.ok.inj h
      intro r hr hmarked
      rcases List.mem_append.mp hr with hr | hr
      · obtain rfl := Option.mem_toList.mp hr
        rw [normalizeInstruction] at hrecord
        split at hrecord
        · rename_i address instruction _ _
          obtain ⟨offset, -, hrecord⟩ := ok_of_except_bind hrecord
          obtain rfl := Option.some.inj (Except.ok.inj hrecord)
          dsimp only [Option.any_some] at hmarked ⊢
          exact eq_of_addressesEqual hmarked
        · cases Except.ok.inj hrecord
      · exact ih hothers r hr hmarked

theorem marksText_normalizeEntries {entries : List Value} (h : normalizeEntries (some "$pc") entries = .ok records) :
    MarksText records := by
  induction entries generalizing records with
  | nil =>
      obtain rfl := Except.ok.inj h
      exact nofun
  | cons entry rest ih =>
      obtain ⟨own, hown, h⟩ := ok_of_except_bind h
      obtain ⟨others, hothers, h⟩ := ok_of_except_bind h
      obtain rfl := Except.ok.inj h
      have howned : MarksText own := by
        rw [normalizeEntry] at hown
        split at hown
        · obtain ⟨line, -, hown⟩ := ok_of_except_bind hown
          exact marksText_normalizeInstructions hown
        · exact marksText_normalizeInstructions hown
      intro r hr
      rcases List.mem_append.mp hr with hr | hr
      · exact howned r hr
      · exact ih hothers r hr

namespace Session

variable {W : Type} [Gdb W] {α : Type}

theorem value_selectionErrorWithRestore {P : α → Prop} {selection : Option SelectionSnapshot} {message code : String}
    {fatal : Bool} {details : List (String × Value)} (s : Session W) :
    wp (selectionErrorWithRestore selection message fatal details code : SessionM W (OperationResult α))
      (fun result _ => ∀ v w, result = .success v w → P v) (fun _ _ => True) s := by
  cases selection with
  | none => exact OperationResult.forall_error
  | some captured =>
      rw [selectionErrorWithRestore, wp_bind]
      refine wp_mono (wp_true _ s) (fun restored t _ => ?_) fun _ _ h => h
      cases restored <;> exact OperationResult.forall_error

theorem value_restoreSelectionIfChanged {P : α → Prop} {selection : Option SelectionSnapshot} {changed : Bool}
    {last : OperationResult α} (hlast : ∀ v w, last = .success v w → P v) (s : Session W) :
    wp (restoreSelectionIfChanged selection changed >>= fun restored => orReturn restored fun _ => pure last)
      (fun result _ => ∀ v w, result = .success v w → P v) (fun _ _ => True) s := by
  rw [wp_bind]
  refine wp_mono (wp_true _ s) (fun restored t _ => ?_) fun _ _ h => h
  cases restored with
  | success => exact hlast
  | error => exact OperationResult.forall_error

/-- What holds of the values of the queries holds of the value of the inspection. -/
theorem value_inspecting {P : α → Prop} {policy : FailurePolicy} {captures : Bool} {threadId frame : Option Int}
    {queries : Option SelectionSnapshot → SessionM W (OperationResult α)}
    {s : Session W}
    (hqueries : wp (approach captures threadId frame) (fun reached t => ∀ selection w, reached = .success selection w →
      wp (queries selection) (fun result _ => ∀ v w, result = .success v w → P v) (fun _ _ => True) t) (fun _ _ => True) s) :
    wp (inspecting policy captures threadId frame queries)
      (fun result _ => ∀ v w, result = .success v w → P v) (fun _ _ => True) s := by
  rw [approach, wp_bind] at hqueries
  rw [inspecting, wp_bind]
  refine wp_mono hqueries (fun captured t hqueries => ?_) fun _ _ h => h
  cases captured with
  | error => exact OperationResult.forall_error
  | success selection _ =>
      change wp (selectForInspection selection threadId frame >>= _) _ _ t at hqueries
      change wp (selectForInspection selection threadId frame >>= _) _ _ t
      rw [wp_bind] at hqueries ⊢
      refine wp_mono hqueries (fun outcome u hqueries => ?_) fun _ _ h => h
      obtain ⟨changed, selected⟩ := outcome
      cases selected with
      | error => exact value_selectionErrorWithRestore u
      | success =>
          change wp (queries selection >>= concludeInspection policy selection changed) _ _ u
          rw [wp_bind]
          refine wp_mono (hqueries _ _ rfl) (fun result v hvalue => ?_) fun _ _ h => h
          cases result with
          | success value _ =>
              exact value_restoreSelectionIfChanged (OperationResult.forall_success.mpr (hvalue _ _ rfl)) v
          | error =>
              cases policy with
              | restoreAlways => exact value_selectionErrorWithRestore v
              | restoreIfChanged => exact value_restoreSelectionIfChanged OperationResult.forall_error v

/-- The instructions of a disassembly are the first ones of an answer. -/
theorem instructions_disassemble {a : DisassembleArgs} (ha : a.isCurrent = true) (s : Session W) :
    wp (disassemble a)
      (fun result _ => ∀ info w, result = .success info w → ∃ payload records,
        normalizeDisassemblyPayload payload (some "$pc") = .ok records ∧ info.instructions = sliceTo records a.instructionCount)
      (fun _ _ => True) s := by
  rw [disassemble, if_pos ha]
  refine value_inspecting (wp_mono (wp_true _ s) (fun reached t _ selection w hreached => ?_) fun _ _ h => h)
  rw [wp_bind, currentLocation, wp_bind]
  change wp (queryDisassembly a _) _ _ t
  rw [queryDisassembly, wp_bind]
  refine wp_mono (wp_true _ t) (fun built u _ => ?_) fun _ _ h => h
  cases built with
  | error => exact OperationResult.forall_error
  | success command _ =>
      change wp (query command >>= _) _ _ u
      rw [wp_bind]
      refine wp_mono (wp_true _ u) (fun answered v _ => ?_) fun _ _ h => h
      cases answered with
      | error => exact OperationResult.forall_error
      | success info _ =>
          change wp (narrow (normalizeDisassemblyPayload (extractMiResultPayload info) (some "$pc")) >>= _) _ _ v
          rw [wp_bind, narrow, onRuntime, wp_zoom, wp_ofExcept]
          refine ⟨fun records hrecords => ?_, fun _ _ => trivial⟩
          exact OperationResult.forall_success.mpr ⟨_, records, hrecords, rfl⟩

/-- No answer of the debugger is shown as a disassembly of the place of execution. -/
theorem disassembly_never_shows_execution {a : DisassembleArgs} (ha : a.isCurrent = true) (pc : Int) (s : Session W) :
    ¬wp (disassemble a)
      (fun result _ => ∃ info warnings, result = .success info warnings ∧ ShowsExecution pc a.instructionCount info)
      (fun _ _ => False) s := by
  intro hshows
  have hboth := wp_and (instructions_disassemble ha s) hshows
  rw [wp] at hboth
  split at hboth
  · obtain ⟨hfirst, info, warnings, rfl, hinfo⟩ := hboth
    obtain ⟨payload, records, hrecords, hslice⟩ := hfirst _ _ rfl
    obtain ⟨i, hi, hpc⟩ := hinfo.shown
    have hi' : i ∈ records := by
      rw [hslice] at hi
      exact List.mem_of_mem_take hi
    have htext := marksText_normalizeEntries hrecords i hi' ((hinfo.marked i hi).mpr hpc)
    rw [htext, intAnyBase_pc] at hpc
    cases hpc
  · exact hboth.2

/-- A function of one instruction. -/
def shortFunction : List Value := [.dict [("address", .str "0x1139"), ("inst", .str "ret")]]

/-- A session with a debugger that answers a disassembly with the function. -/
def shortSession : Session Debugger where
  runtime := { transport := { controller := some {} }, disassembleASupported := some true }
  gdb :=
    { answers := fun n line selection =>
        if PyStr.startswith line "-data-disassemble" then { payload := .dict [("asm_insns", .list shortFunction)] }
        else reportingSelection n line selection
      selection := { thread := 1, frame := 0 } }

theorem disassembly_never_shows_execution_short :
    ¬wp (disassemble {}) (fun result _ => ∃ info warnings, result = .success info warnings ∧ ShowsExecution 0x1139 32 info)
      (fun _ _ => False) shortSession :=
  disassembly_never_shows_execution (a := {}) rfl 0x1139 shortSession

/-! ### The answer of a debugger -/

/-- The debugger answers a disassembly with some code. -/
def AnswersCode (entries : List Value) (answers : Nat → String → Selection → Answer) : Prop :=
  ∀ n line selection, PyStr.startswith line "-data-disassemble" = true →
    (answers n line selection).payload = .dict [("asm_insns", .list entries)]

variable {s t : Session Debugger} {entries : List Value}

/-- The instructions of a disassembly are the first ones of the code. -/
theorem queryDisassembly_answered {a : DisassembleArgs} {location : ResolvedCodeLocation}
    (hanswers : AnswersCode entries t.gdb.answers) (hs : t.runtime.hasController = true) :
    wp (queryDisassembly a location)
      (fun result _ => ∀ info w, result = .success info w → ∃ records,
        normalizeDisassemblyPayload (.dict [("asm_insns", .list entries)]) location.address = .ok records ∧
          info.instructions = sliceTo records a.instructionCount)
      (fun _ _ => True) t := by
  have hbuild := builds_buildDisassembleCommand location a.instructionCount a.mixed
  rw [queryDisassembly, wp_bind]
  refine wp_mono (wp_and (hbuild.attends.outcome t) (hbuild.command t)) (fun built u hbuilt => ?_) fun _ _ h => trivial
  obtain ⟨h, hcommand⟩ := hbuilt
  have hattended := h hs
  cases built with
  | error => exact OperationResult.forall_error
  | success command warnings =>
      have hstart := hcommand _ _ rfl
      change wp (query command >>= _) _ _ u
      rw [wp_bind]
      refine wp_mono (query_mi hattended.hasController (PyStr.startswith_trans hstart rfl)) (fun answered v h => ?_)
        fun _ _ h => h.elim
      obtain ⟨-, -, hpayload⟩ := h
      cases answered with
      | error => exact OperationResult.forall_error
      | success info _ =>
          have hcode : extractMiResultPayload info = .dict [("asm_insns", .list entries)] := by
            rw [hpayload _ _ rfl, answerTo, Debugger.answer, hattended.answers]
            exact hanswers _ _ _ hstart
          change wp (narrow (normalizeDisassemblyPayload (extractMiResultPayload info) location.address) >>= _) _ _ v
          rw [hcode, wp_bind, narrow, onRuntime, wp_zoom, wp_ofExcept]
          refine ⟨fun records hrecords => ?_, fun _ _ => trivial⟩
          exact OperationResult.forall_success.mpr ⟨records, hrecords, rfl⟩

/-- Of code in address order a disassembly shows the instruction at the program counter if and only if the instructions
before it do not fill it already, and it marks none. -/
theorem disassembly_shows_first {a : DisassembleArgs} (ha : a.isCurrent = true) (hcount : 1 ≤ a.instructionCount)
    {addresses : List Int} {pc : Int} (hreports : Reports s.gdb.answers s.gdb.selection) (hs : s.runtime.hasController = true)
    (hanswers : AnswersCode entries s.gdb.answers) (hcode : PrintsCode entries addresses)
    (hordered : addresses.Pairwise (· < ·)) (hpc : pc ∈ addresses) :
    wp (disassemble a)
      (fun result _ => ∀ info w, result = .success info w → info.instructions.length ≤ a.instructionCount ∧
        ((∃ i ∈ info.instructions, PyStr.intAnyBase i.address = .ok pc) ↔
          (addresses.filter (· < pc)).length < a.instructionCount) ∧
        ∀ i ∈ info.instructions, i.isCurrent = false)
      (fun _ _ => True) s := by
  rw [disassemble, if_pos ha]
  refine value_inspecting (wp_mono (approach_spec hreports hs) (fun reached t ht selection w hreached => ?_)
    fun _ _ h => h.elim)
  obtain ⟨ht, hcontroller⟩ := ht
  rw [wp_bind, currentLocation, wp_bind]
  change wp (queryDisassembly a _) _ _ t
  refine wp_mono (queryDisassembly_answered (ht ▸ hanswers) hcontroller) (fun result u h info w hresult => ?_) fun _ _ h => h
  obtain ⟨records, hrecords, hslice⟩ := h info w hresult
  obtain ⟨records', hrecords', hat⟩ := normalizeEntries_prints (some "$pc") hcode
  have hflat : normalizeEntries (some "$pc") (asRecordList (.list entries)) = .ok records := hrecords
  rw [hcode.asRecordList] at hflat
  obtain rfl : records' = records := Except.ok.inj (hrecords'.symm.trans hflat)
  rw [hslice]
  refine ⟨?_, shown_iff hat hordered hpc (by omega), fun i hi => ?_⟩
  · rw [sliceTo, if_pos (by omega), List.length_take]
    omega
  · rw [← Bool.not_eq_true]
    intro hmarked
    have hi' : i ∈ records' := List.mem_of_mem_take hi
    obtain ⟨address, haddress⟩ := hat.of_mem hi'
    rw [marksText_normalizeEntries hflat i hi' hmarked, intAnyBase_pc] at haddress
    cases haddress

theorem disassembly_shows_first_short :
    wp (disassemble {})
      (fun result _ => ∀ info w, result = .success info w → (info.instructions.length : Int) ≤ 32 ∧
        ((∃ i ∈ info.instructions, PyStr.intAnyBase i.address = .ok 0x1139) ↔
          (([0x1139].filter (· < (0x1139 : Int))).length : Int) < 32) ∧
        ∀ i ∈ info.instructions, i.isCurrent = false)
      (fun _ _ => True) shortSession := by
  have hreports : Reports shortSession.gdb.answers shortSession.gdb.selection :=
    ⟨fun _ _ => rfl, fun _ _ => rfl, fun _ _ => rfl, fun _ _ _ => rfl⟩
  have hanswers : AnswersCode shortFunction shortSession.gdb.answers := fun n line selection hline => by
    simp only [shortSession, hline, if_true]
  have haddress : PyStr.intAnyBase "0x1139" = .ok 0x1139 := by decide +kernel
  have hcode : PrintsInstruction (.dict [("address", .str "0x1139"), ("inst", .str "ret")]) 0x1139 :=
    ⟨⟨_, rfl, haddress⟩, ⟨_, rfl⟩, ⟨_, rfl⟩⟩
  have halone : ∀ nested, (Value.dict [("address", .str "0x1139"), ("inst", .str "ret")]).get "line_asm_insn" ≠ .list nested := by
    rintro nested ⟨⟩
  exact disassembly_shows_first (a := {}) rfl (by decide) hreports rfl hanswers (.instruction halone hcode .nil)
    (List.pairwise_singleton _ _) (List.mem_singleton.mpr rfl)

/-- The instruction at the program counter is the only one of the function, and is not marked. -/
theorem only_instruction_unmarked :
    AnswersCode shortFunction shortSession.gdb.answers ∧ PrintsCode shortFunction [0x1139] ∧
      wp (disassemble {}) (fun result _ => ∃ info warnings, result = .success info warnings ∧
          info.instructions.map (fun i => (i.address, i.isCurrent)) = [("0x1139", false)])
        (fun _ _ => False) shortSession ∧
      ¬wp (disassemble {}) (fun result _ => ∃ info warnings, result = .success info warnings ∧ ShowsExecution 0x1139 32 info)
        (fun _ _ => False) shortSession := by
  have haddress : PyStr.intAnyBase "0x1139" = .ok 0x1139 := by decide +kernel
  have hcode : PrintsInstruction (.dict [("address", .str "0x1139"), ("inst", .str "ret")]) 0x1139 :=
    ⟨⟨_, rfl, haddress⟩, ⟨_, rfl⟩, ⟨_, rfl⟩⟩
  refine ⟨fun n line selection hline => ?_, .instruction nofun hcode .nil, ⟨_, _, rfl, rfl⟩, ?_⟩
  · simp only [shortSession, hline, if_true]
  · rintro ⟨info, warnings, hresult, hshows⟩
    obtain rfl := (OperationResult.success.inj hresult).1
    exact absurd ((hshows.marked _ List.mem_cons_self).mpr haddress) Bool.false_ne_true

end Session
end GdbMcp
