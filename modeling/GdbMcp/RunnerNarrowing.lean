import GdbMcp.BaseDigits
import GdbMcp.BreakpointOperations
import GdbMcp.SessionUpdate

/-! Where the narrowing of a field raises. Six functions hand what `isdigit` accepts to `int`, which rejects some of it; an
update that reads such a field is left half way. -/

namespace GdbMcp

open Eff

/-! ### The texts that reach `int` -/

/-- The text behind a sign. -/
def unsigned (text : String) : String :=
  if PyStr.startswith text "-" || PyStr.startswith text "+" then PyStr.dropPrefix text 1 else text

/-- The text behind the mark of a thread group. -/
def withoutMark (text : String) : String :=
  if ["i", "I"].any (PyStr.startswith text) then PyStr.dropPrefix text 1 else text

/-- `as_int` does not hand rejected digits to `int`. -/
def PlainNumber (value : Value) : Prop := ∀ text, asText value = some text → PyStr.rejectedDigits text = false

def PlainExitCode (value : Value) : Prop :=
  ∀ text, asText value = some text → PyStr.rejectedDigits (unsigned (PyStr.strip text)) = false

def PlainThreadGroup (value : Value) : Prop :=
  ∀ text, asTextOrNumber value = some text → PyStr.rejectedDigits (withoutMark (PyStr.strip text)) = false

def PlainCommand (command : String) : Prop :=
  ∀ word operand, PyStr.splitOnce command = [word, operand] → PyStr.rejectedDigits (PyStr.strip operand) = false

/-- An integer or `None` is returned. -/
def Narrows (result : Except PyError (Option Int)) : Prop := ∃ value, result = .ok value

/-! ### The six functions -/

variable {text command : String} {value payload : Value}

theorem narrows_map {result : Except PyError Int} {f : Int → Option Int} :
    Narrows (f <$> result) ↔ ∃ k, result = .ok k := by
  cases result with
  | ok k => exact iff_of_true ⟨f k, rfl⟩ ⟨k, rfl⟩
  | error e => exact iff_of_false nofun nofun

theorem narrows_map_option {result : Except PyError (Option Int)} {f : Option Int → Option Int} :
    Narrows (f <$> result) ↔ Narrows result := by
  cases result with
  | ok k => exact iff_of_true ⟨f k, rfl⟩ ⟨k, rfl⟩
  | error e => exact iff_of_false nofun nofun

theorem rejectedDigits_of_not_isdigit (h : ¬PyStr.isdigit text = true) : PyStr.rejectedDigits text = false := by
  rw [Bool.not_eq_true] at h
  rw [PyStr.rejectedDigits, h, Bool.false_and]

theorem narrows_parseDigits (text : String) : Narrows (parseDigits text) ↔ PyStr.rejectedDigits text = false := by
  rw [parseDigits]
  split
  · rename_i hdigits
    rw [narrows_map, PyStr.int_isOk_iff hdigits]
  · rename_i hdigits
    exact iff_of_true ⟨none, rfl⟩ (rejectedDigits_of_not_isdigit hdigits)

theorem narrows_asInt (value : Value) : Narrows (asInt value) ↔ PlainNumber value := by
  cases value with
  | str text =>
      have hdigits : asInt (.str text) = parseDigits text := rfl
      rw [hdigits, narrows_parseDigits]
      exact ⟨fun h _ htext => Option.some.inj htext ▸ h, fun h => h text rfl⟩
  | _ => exact iff_of_true ⟨_, rfl⟩ nofun

theorem rejectedDigits_of_mem {c : Char} (hmem : c ∈ text.toList) (hc : PyStr.isDigitChar c = false) :
    PyStr.rejectedDigits text = false := by
  refine rejectedDigits_of_not_isdigit fun hdigits => ?_
  have hall := List.all_eq_true.mp (Bool.and_eq_true_iff.mp hdigits).2 c hmem
  exact absurd (hall.symm.trans hc) nofun

theorem mem_unsigned {c : Char} (h : c ∈ text.toList.drop 1) : c ∈ (unsigned text).toList := by
  rw [unsigned]
  split
  · rw [PyStr.dropPrefix, String.toList_ofList]
    exact h
  · exact List.mem_of_mem_drop h

/-- Behind a base prefix there is no text of digits. -/
theorem rejectedDigits_unsigned_hex (h : ["0x", "0X", "-0x", "-0X"].any (PyStr.startswith text) = true) :
    PyStr.rejectedDigits (unsigned text) = false := by
  obtain ⟨p, hp, hstart⟩ := List.any_eq_true.mp h
  obtain ⟨rest, htext⟩ := PyStr.startswith_iff.mp hstart
  have hletter : (["0x", "0X", "-0x", "-0X"].all fun p => (p.toList.drop 1).any fun c => !PyStr.isDigitChar c) = true := by
    decide
  obtain ⟨c, hc, hnodigit⟩ := List.any_eq_true.mp (List.all_eq_true.mp hletter p hp)
  refine rejectedDigits_of_mem (mem_unsigned ?_) ((Bool.not_eq_true' _).mp hnodigit)
  rw [htext, List.drop_append]
  exact List.mem_append_left _ hc

theorem narrows_parseExitCode (value : Value) : Narrows (parseExitCode value) ↔ PlainExitCode value := by
  cases value with
  | str text =>
      have hplain : PlainExitCode (.str text) ↔ PyStr.rejectedDigits (unsigned (PyStr.strip text)) = false :=
        ⟨fun h => h text rfl, fun h _ htext => Option.some.inj htext ▸ h⟩
      rw [hplain, parseExitCode]
      split
      · rename_i hempty
        rw [hempty]
        exact iff_of_true ⟨none, rfl⟩ (by decide)
      · split
        · rename_i hhex
          exact iff_of_true ⟨_, rfl⟩ (rejectedDigits_unsigned_hex hhex)
        · split
          · rename_i hminus
            rw [narrows_map_option, narrows_parseDigits, unsigned, hminus, Bool.true_or, if_pos rfl]
          · rename_i hminus
            split
            · rename_i hplus
              rw [narrows_parseDigits, unsigned, hplus, Bool.or_true, if_pos rfl]
            · rename_i hplus
              rw [unsigned, Bool.not_eq_true] at *
              rw [hminus, hplus, Bool.or_false, if_neg Bool.false_ne_true]
              split
              · rename_i hdigits
                rw [narrows_map, PyStr.int_isOk_iff hdigits]
              · rename_i hdigits
                exact iff_of_true ⟨_, rfl⟩ (rejectedDigits_of_not_isdigit hdigits)
  | _ => exact iff_of_true ⟨_, rfl⟩ nofun

theorem narrows_parseInferiorIdFromThreadGroup (value : Value) :
    Narrows (parseInferiorIdFromThreadGroup value) ↔ PlainThreadGroup value := by
  rw [parseInferiorIdFromThreadGroup, PlainThreadGroup]
  cases asTextOrNumber value with
  | none => exact iff_of_true ⟨none, rfl⟩ nofun
  | some text =>
      dsimp only
      rw [narrows_parseDigits]
      exact ⟨fun h _ htext => Option.some.inj htext ▸ h, fun h => h text rfl⟩

theorem narrows_parseCommandNumber (command : String) : Narrows (parseCommandNumber command) ↔ PlainCommand command := by
  rw [parseCommandNumber, PlainCommand]
  split
  · rename_i word operand hsplit
    rw [narrows_parseDigits]
    constructor
    · intro h word' operand' hsplit'
      rw [hsplit] at hsplit'
      cases hsplit'
      exact h
    · exact fun h => h word operand hsplit
  · rename_i hsplit
    exact iff_of_true ⟨none, rfl⟩ fun word operand h => absurd h (hsplit word operand)

/-! ### Updates -/

/-- The fields of a stop hold no rejected digits where they are narrowed. -/
structure PlainStop (payload : Value) : Prop where
  exitCode : PlainExitCode (payload.get "exit-code")
  threadGroup : PlainThreadGroup (payload.get "thread-group")
  level : PlainNumber ((payload.get "frame").get "level")
  threadId : PlainNumber (payload.get "thread-id")

/-- The fields of a notification hold no rejected digits where they are narrowed. No stop is read behind another one. -/
def PlainNotify (stopped : Bool) (notify : MiNotifyRecord) : Prop :=
  match notify.message with
  | some "thread-group-added" | some "thread-group-started" | some "thread-group-removed" =>
    PlainThreadGroup (notify.payload.get "id")
  | some "thread-group-exited" =>
    PlainThreadGroup (notify.payload.get "id") ∧ PlainExitCode (notify.payload.get "exit-code")
  | some "stopped" => stopped = false → PlainStop notify.payload
  | _ => True

def PlainScan : Bool → List MiNotifyRecord → Prop
  | _, [] => True
  | stopped, notify :: rest => PlainNotify stopped notify ∧ PlainScan (stopped || notify.isStop) rest

/-- An accepted command that attaches to a process or selects an inferior names it by no rejected digits. -/
def PlainText (command : String) (parsed : ParsedMiResponse) : Prop :=
  ["attach ", "inferior "].any (PyStr.startswith (normalizeCommand command)) = true → parsed.isErrorResult = false →
    PlainCommand (normalizeCommand command)

theorem get_of_not_isDict {v : Value} (h : ¬v.isDict = true) (key : String) : v.get key = .none := by
  cases v with
  | dict fields => exact absurd rfl h
  | _ => rfl

theorem narrows_readFrameLevel (frame : Value) : Narrows (readFrameLevel frame) ↔ PlainNumber (frame.get "level") := by
  rw [readFrameLevel]
  split
  · exact narrows_asInt _
  · rename_i hdict
    rw [get_of_not_isDict hdict]
    exact iff_of_true ⟨none, rfl⟩ nofun

theorem readStopFields_returns_iff (payload : Value) : (∃ stop, readStopFields payload = .ok stop) ↔ PlainStop payload := by
  rw [readStopFields]
  split
  · refine (ok_bind_iff (narrows_parseExitCode _) fun _ _ => ok_bind_iff (narrows_parseInferiorIdFromThreadGroup _) fun _ _ =>
      ok_bind_iff (narrows_readFrameLevel _) fun _ _ => ok_bind_iff (q := True) (narrows_asInt _) fun _ _ => ?_).trans ?_
    · exact iff_true_intro ⟨_, rfl⟩
    · exact ⟨fun ⟨hexit, hgroup, hlevel, hthread, _⟩ => ⟨hexit, hgroup, hlevel, hthread⟩,
        fun h => ⟨h.exitCode, h.threadGroup, h.level, h.threadId, trivial⟩⟩
  · rename_i hdict
    have hnone := get_of_not_isDict hdict
    refine iff_of_true ⟨_, rfl⟩ ⟨?_, ?_, ?_, ?_⟩ <;> rw [hnone] <;> exact nofun

theorem scanNotify_returns_iff (scan : StopScan) (notify : MiNotifyRecord) (rt : SessionRuntime) :
    ReturnsFrom (scanNotify scan notify) rt ↔ PlainNotify scan.stop.isSome notify := by
  have hid : ∀ rt : SessionRuntime,
      ReturnsFrom (Eff.ofExcept (parseInferiorIdFromThreadGroup (notify.payload.asDict.get "id"))) rt ↔
        PlainThreadGroup (notify.payload.get "id") := fun rt => by
    rw [returnsFrom_ofExcept, Value.get_asDict]
    exact narrows_parseInferiorIdFromThreadGroup _
  have hexit : ∀ rt : SessionRuntime, ReturnsFrom (Eff.ofExcept (parseExitCode (notify.payload.asDict.get "exit-code"))) rt ↔
      PlainExitCode (notify.payload.get "exit-code") := fun rt => by
    rw [returnsFrom_ofExcept, Value.get_asDict]
    exact narrows_parseExitCode _
  have hgroup : ∀ next : Option Int → RuntimeM StopScan, (∀ id t, ReturnsFrom (next id) t) →
      (ReturnsFrom (Eff.ofExcept (parseInferiorIdFromThreadGroup (notify.payload.asDict.get "id")) >>= next) rt ↔
        PlainThreadGroup (notify.payload.get "id")) := fun next hnext => by
    rw [returnsFrom_bind (hid rt) fun id t _ => iff_true_intro (hnext id t), and_true]
  unfold scanNotify
  extract_lets fields
  split <;> rename_i hmessage
  · rw [PlainNotify, hmessage]
    refine hgroup _ fun id t => ?_
    cases id <;> trivial
  · rw [PlainNotify, hmessage]
    refine hgroup _ fun id t => ?_
    cases id <;> trivial
  · rw [PlainNotify, hmessage]
    refine returnsFrom_bind (hid rt) fun id t _ => ?_
    exact (returnsFrom_bind (q := True) (hexit t) fun _ _ _ => Iff.rfl).trans (and_iff_left trivial)
  · rw [PlainNotify, hmessage]
    refine hgroup _ fun id t => ?_
    cases id <;> trivial
  · rw [PlainNotify, hmessage]
    cases scan.stop with
    | some stop => exact iff_of_true trivial nofun
    | none =>
        refine (returnsFrom_bind (q := True) (returnsFrom_ofExcept _ _) fun _ _ _ => Iff.rfl).trans ?_
        rw [and_true, readStopFields_returns_iff]
        exact ⟨fun h _ => h, fun h => h rfl⟩
  · refine iff_of_true trivial ?_
    rw [PlainNotify]
    split <;> simp_all

/-- A scan returns if and only if every notification that it comes to is plain. -/
theorem scanNotifies_returns_iff (notifies : List MiNotifyRecord) (scan : StopScan) (rt : SessionRuntime) :
    ReturnsFrom (scanNotifies scan notifies) rt ↔ PlainScan scan.stop.isSome notifies := by
  induction notifies generalizing scan rt with
  | nil => exact Iff.rfl
  | cons notify rest ih =>
      refine returnsFrom_bind (scanNotify_returns_iff scan notify rt) fun scan' t hrun => ?_
      have hseen : scan'.stop.isSome = (scan.stop.isSome || notify.isStop) := by
        have hheard : Hears scan scan' [notify] := wp_ok (scanNotify_hears scan notify rt) hrun
        have hmap := congrArg Option.isSome hheard
        rw [Option.isSome_map] at hmap
        rw [hmap]
        cases hstop : notify.isStop <;> cases scan.stop <;> simp [heardStop, hstop]
      rw [ih, hseen]

theorem returnsFrom_numbered {result : Except PyError (Option Int)} {f : Option Int → SessionRuntime → SessionRuntime}
    {p : Prop} (h : Narrows result ↔ p) (rt : SessionRuntime) :
    ReturnsFrom (Eff.ofExcept result >>= fun number => Eff.modify (f number)) rt ↔ p := by
  refine (returnsFrom_bind (q := True) ((returnsFrom_ofExcept _ _).trans h) fun _ _ _ => ?_).trans (and_iff_left trivial)
  exact Iff.rfl

theorem plainText_iff {word : String} (hmem : word ∈ ["attach ", "inferior "])
    (h : (PyStr.startswith (normalizeCommand command) word && !parsed.isErrorResult) = true) :
    PlainText command parsed ↔ PlainCommand (normalizeCommand command) := by
  obtain ⟨hword, haccepted⟩ := Bool.and_eq_true_iff.mp h
  have hnames := List.any_eq_true.mpr ⟨word, hmem, hword⟩
  exact ⟨fun hplain => hplain hnames ((Bool.not_eq_true' _).mp haccepted), fun hplain _ _ => hplain⟩

/-- The text of a command ends an update if and only if it names what it is about by rejected digits. -/
theorem applyCommandText_returns_iff (command : String) (parsed : ParsedMiResponse) (rt : SessionRuntime) :
    ReturnsFrom (applyCommandText command parsed) rt ↔ PlainText command parsed := by
  have hsilent : ∀ word, PyStr.startswith (normalizeCommand command) word = true →
      (["attach ", "inferior "].all fun other => PyStr.apart word other) = true → PlainText command parsed := by
    intro word hword hapart hnames
    rw [PyStr.any_startswith_apart hword (List.all_eq_true.mp hapart)] at hnames
    exact absurd hnames Bool.false_ne_true
  have hpid : Narrows (parseAttachedPid (normalizeCommand command)) ↔ PlainCommand (normalizeCommand command) :=
    narrows_parseCommandNumber _
  have hinferiorId : Narrows (parseInferiorId (normalizeCommand command)) ↔ PlainCommand (normalizeCommand command) :=
    narrows_parseCommandNumber _
  have hquiet : ¬(PyStr.startswith (normalizeCommand command) "attach " && !parsed.isErrorResult) = true →
      ¬(PyStr.startswith (normalizeCommand command) "inferior " && !parsed.isErrorResult) = true →
        PlainText command parsed := by
    intro hattach hinferior hnames haccepted
    obtain ⟨word, hmem, hword⟩ := List.any_eq_true.mp hnames
    have hboth : (PyStr.startswith (normalizeCommand command) word && !parsed.isErrorResult) = true := by
      rw [hword, haccepted]
      rfl
    rcases List.mem_pair.mp hmem with rfl | rfl
    · exact absurd hboth hattach
    · exact absurd hboth hinferior
  unfold applyCommandText
  dsimp only
  refine returnsFrom_ite (fun hload => ?_) fun _ => returnsFrom_ite (fun hattach => ?_) fun hattach =>
    returnsFrom_ite (fun hdetach => ?_) fun _ => returnsFrom_ite (fun hinferior => ?_) fun hinferior => ?_
  · refine iff_of_true trivial ?_
    rcases Bool.or_eq_true_iff.mp hload with hfile | hcore
    · exact hsilent _ hfile (by decide)
    · exact hsilent _ hcore (by decide)
  · rw [plainText_iff (by decide) hattach]
    have hload : ReturnsFrom (Eff.modify fun rt => { rt with targetLoaded := true } : RuntimeM Unit) rt := trivial
    refine (returnsFrom_bind (iff_true_intro hload) fun _ t _ => ?_).trans (and_iff_right trivial)
    exact returnsFrom_numbered hpid t
  · refine iff_of_true trivial fun hnames => ?_
    have hcommand : normalizeCommand command = "detach" := eq_of_beq (Bool.and_eq_true_iff.mp hdetach).1
    rw [hcommand] at hnames
    exact absurd hnames (by decide)
  · rw [plainText_iff (by decide) hinferior]
    exact returnsFrom_numbered hinferiorId rt
  · have hplain := iff_of_true trivial (hquiet hattach hinferior)
    exact returnsFrom_ite (fun _ => hplain) fun _ => returnsFrom_ite (fun _ => hplain) fun _ => hplain

namespace Session

variable {W : Type} [Gdb W] {parsed : ParsedMiResponse} {s : Session W}

/-- The refresh of the inventory, which a stop behind added or removed thread groups asks for, returns. -/
def RefreshReturns (parsed : ParsedMiResponse) (s : Session W) : Prop :=
  ∀ scan t, (onRuntime (scanNotifies {} parsed.notify)).run s = (.ok scan, t) → scan.stop.isSome = true →
    scan.sawInferiorTopologyChange = true → ReturnsFrom (refreshInferiorInventoryFromGdb : SessionM W Unit) t

theorem applyScan_returns {scan : StopScan} (hrefresh : scan.stop.isSome = true → scan.sawInferiorTopologyChange = true →
    ReturnsFrom (refreshInferiorInventoryFromGdb : SessionM W Unit) s) (command : String) (resultClass : Option String) :
    ReturnsFrom (applyScan command resultClass scan : SessionM W Unit) s := by
  rw [applyScan]
  cases hstop : scan.stop with
  | none => refine (returnsFrom_ite (p := True) (fun _ => ?_) fun _ => ?_).mpr trivial <;> exact Iff.rfl
  | some stop =>
      have hseen : scan.stop.isSome = true := by
        rw [hstop]
        rfl
      refine (returnsFrom_bind (p := True) (q := True) (returnsFrom_ite (fun htopology => ?_) fun _ => ?_)
        fun _ t _ => ?_).mpr ⟨trivial, trivial⟩
      · exact iff_true_intro (hrefresh hseen htopology)
      · exact Iff.rfl
      · exact Iff.rfl

/-- An update returns if and only if the notifications that it comes to and the text of its command are plain. -/
theorem update_returns_iff (hrefresh : RefreshReturns parsed s) (command : String) :
    ReturnsFrom (updateRuntimeAfterCommand command parsed : SessionM W Unit) s ↔
      PlainScan false parsed.notify ∧ PlainText command parsed := by
  rw [updateRuntimeAfterCommand]
  refine returnsFrom_bind ((returnsFrom_zoom _ _ _ _).trans (scanNotifies_returns_iff _ {} _)) fun scan t hrun => ?_
  have hscan := applyScan_returns (hrefresh scan t hrun) command parsed.resultClass
  refine (returnsFrom_bind (iff_true_intro hscan) fun _ u _ => ?_).trans (and_iff_right trivial)
  exact (returnsFrom_zoom _ _ _ _).trans (applyCommandText_returns_iff _ _ _)

end Session

/-- Each of the six functions returns exactly where it hands no rejected digits to `int`, and an update exactly where
neither its notifications nor the text of its command do. -/
theorem narrowing_returns_iff {W : Type} [Gdb W] (value payload : Value) (command : String) (parsed : ParsedMiResponse)
    (s : Session W) :
    (Narrows (asInt value) ↔ PlainNumber value) ∧
      (Narrows (parseExitCode value) ↔ PlainExitCode value) ∧
      (Narrows (parseInferiorIdFromThreadGroup value) ↔ PlainThreadGroup value) ∧
      (Narrows (parseInferiorId command) ↔ PlainCommand command) ∧
      (Narrows (parseAttachedPid command) ↔ PlainCommand command) ∧
      (Narrows (SessionBreakpointService.extractBreakpointNumber payload) ↔
        PlainNumber ((breakpointRecord payload).get "number")) ∧
      (Session.RefreshReturns parsed s →
        (ReturnsFrom (Session.updateRuntimeAfterCommand command parsed : SessionM W Unit) s ↔
          PlainScan false parsed.notify ∧ PlainText command parsed)) :=
  ⟨narrows_asInt _, narrows_parseExitCode _, narrows_parseInferiorIdFromThreadGroup _, narrows_parseCommandNumber _,
    narrows_parseCommandNumber _, narrows_asInt _, fun hrefresh => Session.update_returns_iff hrefresh command⟩

/-- The stop behind a new thread group names its thread by a superscript: the scan raises with the inferior added. -/
theorem superscript_raises :
    ¬Narrows (asInt (.str "²")) ∧ ¬Narrows (parseExitCode (.str "-²")) ∧
      ¬Narrows (parseInferiorIdFromThreadGroup (.str "i²")) ∧ ¬Narrows (parseInferiorId "inferior ²") ∧
      ¬Narrows (parseAttachedPid "attach ²") ∧
      ¬Narrows (SessionBreakpointService.extractBreakpointNumber (.dict [("number", .str "²")])) ∧
      let added : MiNotifyRecord := ⟨some "thread-group-added", .dict [("id", .str "i2")]⟩
      let stopped : MiNotifyRecord := ⟨some "stopped", .dict [("thread-id", .str "²")]⟩
      let outcome := (scanNotifies {} [added, stopped]).run {}
      outcome.1.isOk = false ∧ outcome.2.inferiorStates.keys = [2] := by
  refine ⟨?_, ?_, ?_, ?_, ?_, ?_, ?_⟩
  · rw [narrows_asInt]
    exact fun h => absurd (h _ rfl) (by decide)
  · rw [narrows_parseExitCode]
    exact fun h => absurd (h _ rfl) (by decide)
  · rw [narrows_parseInferiorIdFromThreadGroup]
    exact fun h => absurd (h _ rfl) (by decide)
  · rw [parseInferiorId, narrows_parseCommandNumber]
    exact fun h => absurd (h "inferior" "²" (by decide)) (by decide)
  · rw [parseAttachedPid, narrows_parseCommandNumber]
    exact fun h => absurd (h "attach" "²" (by decide)) (by decide)
  · rw [SessionBreakpointService.extractBreakpointNumber, narrows_asInt]
    exact fun h => absurd (h _ rfl) (by decide)
  · decide

end GdbMcp
