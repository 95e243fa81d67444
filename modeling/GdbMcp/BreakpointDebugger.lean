import GdbMcp.BreakpointOperations
import GdbMcp.SessionAnswers
import GdbMcp.SessionSends

/-! A debugger with an inventory of breakpoints, and what a command to it does. It may refuse any command, and create a
breakpoint of which it says nothing. -/

namespace GdbMcp

open Eff

/-! ### The inventory -/

/-- The number of a row: of a breakpoint, or of one of its locations. -/
inductive RowNumber where
  | breakpoint (n : Nat)
  | location (n m : Nat)
  deriving DecidableEq

namespace RowNumber

def text : RowNumber → String
  | breakpoint n => toString (n : Int)
  | location n m => toString (n : Int) ++ "." ++ toString (m : Int)

/-- The number as an integer, if it is one. -/
def value : RowNumber → Option Int
  | breakpoint n => some n
  | location _ _ => none

theorem dot_notMem_natCast (n : Nat) : '.' ∉ (toString (n : Int)).toList := by
  intro hdot
  rw [PyStr.toList_toString_natCast] at hdot
  exact absurd (PyStr.forall_mem_toDigits (p := (· ≠ '.')) (by decide) n _ hdot) (by decide)

theorem natCast_injective {n m : Nat} (h : (toString (n : Int)).toList = (toString (m : Int)).toList) : n = m := by
  have hread := PyStr.readInt_toString (n : Int)
  rw [h, PyStr.readInt_toString] at hread
  exact_mod_cast (Option.some.inj hread).symm

/-- What stands in front of the first dot. -/
theorem takeWhile_dot {cs rest : List Char} (h : '.' ∉ cs) : (cs ++ '.' :: rest).takeWhile (· ≠ '.') = cs := by
  have hall : ∀ c ∈ cs, (decide (c ≠ '.')) = true := fun c hc => decide_eq_true fun heq => h (heq ▸ hc)
  rw [List.takeWhile_append_of_pos hall, List.takeWhile_cons_of_neg (by decide), List.append_nil]

theorem text_injective : Function.Injective text := by
  have htext : ∀ n m, (text (location n m)).toList = (toString (n : Int)).toList ++ '.' :: (toString (m : Int)).toList := by
    intro n m
    rw [text, String.toList_append, String.toList_append, List.append_assoc]
    rfl
  intro a b h
  have hlist : a.text.toList = b.text.toList := congrArg String.toList h
  cases a with
  | breakpoint n =>
      cases b with
      | breakpoint m => rw [natCast_injective hlist]
      | location m k =>
          rw [htext] at hlist
          exact absurd (show '.' ∈ (toString (n : Int)).toList by rw [text] at hlist; rw [hlist]; simp) (dot_notMem_natCast n)
  | location n k =>
      cases b with
      | breakpoint m =>
          rw [htext] at hlist
          exact absurd (show '.' ∈ (toString (m : Int)).toList by rw [text] at hlist; rw [← hlist]; simp) (dot_notMem_natCast m)
      | location m l =>
          rw [htext, htext] at hlist
          have hhead := congrArg (List.takeWhile (· ≠ '.')) hlist
          rw [takeWhile_dot (dot_notMem_natCast n), takeWhile_dot (dot_notMem_natCast m)] at hhead
          rw [hhead] at hlist
          have htail := List.cons.inj (List.append_cancel_left hlist)
          rw [natCast_injective hhead, natCast_injective htail.2]

end RowNumber

/-- A row of the inventory. -/
structure BreakpointRow where
  number : RowNumber
  fields : Payload
  plain : fields.lookup "bkpt" = none := by rfl

namespace BreakpointRow

def toValue (row : BreakpointRow) : Value := .dict (("number", .str row.number.text) :: row.fields)

@[simp] theorem breakpointRecord_toValue (row : BreakpointRow) : breakpointRecord row.toValue = row.toValue := by
  have hget : row.toValue.getOr "bkpt" row.toValue = row.toValue := by
    rw [toValue, Value.getOr, List.lookup_cons]
    simp [row.plain]
  rw [breakpointRecord]
  show (row.toValue.getOr "bkpt" row.toValue).asDict = _
  rw [hget]
  rfl

theorem number_toValue (row : BreakpointRow) : row.toValue.get "number" = .str row.number.text := rfl

theorem extractBreakpointNumber_toValue {row : BreakpointRow} {number : Option Int}
    (h : SessionBreakpointService.extractBreakpointNumber row.toValue = .ok number) : number = row.number.value := by
  rw [SessionBreakpointService.extractBreakpointNumber, breakpointRecord_toValue, number_toValue] at h
  cases hnumber : row.number with
  | breakpoint n =>
      rw [hnumber] at h
      exact parseDigits_natCast h
  | location n m =>
      rw [hnumber] at h
      have hdigits : PyStr.isdigit (RowNumber.location n m).text = false := by
        rw [PyStr.isdigit, Bool.and_eq_false_iff]
        refine .inr (List.all_eq_false.mpr ⟨'.', ?_, by decide⟩)
        simp [RowNumber.text]
      rw [asInt, hdigits] at h
      exact (Except.ok.inj h).symm

end BreakpointRow

/-! ### What the operations find in it -/

section Inventory

open SessionBreakpointService

variable {rows : List BreakpointRow}

theorem asRecordList_rows (rows : List BreakpointRow) :
    asRecordList (.list (rows.map BreakpointRow.toValue)) = rows.map BreakpointRow.toValue := by
  refine List.filter_eq_self.mpr fun record hrecord => ?_
  obtain ⟨row, -, rfl⟩ := List.mem_map.mp hrecord
  rfl

theorem findBreakpointForLocation_rows {location : String} :
    findBreakpointForLocation (rows.map BreakpointRow.toValue) location =
      (rows.find? fun row => hasLocation location row.toValue).map BreakpointRow.toValue :=
  List.find?_map ..

theorem findBreakpointRecord_rows {number : Int} {record : Value}
    (h : findBreakpointRecord number (rows.map BreakpointRow.toValue) = .ok (some record)) :
    ∃ row ∈ rows, record = row.toValue ∧ row.number.value = some number := by
  induction rows with
  | nil => exact nomatch h
  | cons row rest ih =>
      rw [List.map_cons, findBreakpointRecord] at h
      obtain ⟨own, hown, hrest⟩ := ok_of_except_bind h
      have hvalue := BreakpointRow.extractBreakpointNumber_toValue hown
      split at hrest
      · rename_i heq
        obtain rfl : row.toValue = record := Option.some.inj (Except.ok.inj hrest)
        exact ⟨row, List.mem_cons_self, rfl, hvalue.symm.trans heq⟩
      · obtain ⟨found, hfound, hrecord, hnumber⟩ := ih hrest
        exact ⟨found, List.mem_cons_of_mem _ hfound, hrecord, hnumber⟩

theorem catchpointNumbersOf_rows {numbers : List Int}
    (h : catchpointNumbersOf (rows.map BreakpointRow.toValue) = .ok numbers) (n : Int) :
    n ∈ numbers ↔ ∃ row ∈ rows, isCatchpoint row.toValue = true ∧ row.number.value = some n := by
  induction rows generalizing numbers with
  | nil =>
      obtain rfl : [] = numbers := Except.ok.inj h
      simp
  | cons row rest ih =>
      rw [List.map_cons, catchpointNumbersOf] at h
      split at h
      · rename_i hcatch
        obtain ⟨own, hown, hrest⟩ := ok_of_except_bind h
        obtain ⟨others, hothers, hpure⟩ := ok_of_except_bind hrest
        obtain rfl : own.toList ++ others = numbers := Except.ok.inj hpure
        rw [List.mem_append, ih hothers, Option.mem_toList, BreakpointRow.extractBreakpointNumber_toValue hown]
        simp [hcatch]
      · rename_i hother
        rw [ih h]
        simp [hother]

end Inventory

/-! ### The debugger -/

/-- A record that may come before a result: no result, no fatal text, and no console record of another command. -/
structure MiRecord.Precedes (r : MiRecord) : Prop where
  notResult : r.type ≠ .result
  notFatal : r.isFatal = false
  stream : r.type = .console → r.token = none

/-- The answer to one command, accepted or refused. A breakpoint that is created has a number of its own. -/
structure BreakpointAnswer (inventory : List BreakpointRow) where
  accepted : Bool := true
  payload : Value := .dict []
  others : List MiRecord := []
  created : Option BreakpointRow := none
  precedes : ∀ r ∈ others, r.Precedes := by nofun
  fresh : ∀ row ∈ created, ∀ old ∈ inventory, old.number ≠ row.number := by nofun

namespace BreakpointAnswer

variable {inventory : List BreakpointRow}

def result (answer : BreakpointAnswer inventory) (token : Nat) : MiRecord where
  type := .result
  token := some token
  message := some (if answer.accepted then "done" else "error")
  payload := answer.payload

/-- The console output of the command. -/
def output (answer : BreakpointAnswer inventory) : String := Session.consoleOutput answer.others

end BreakpointAnswer

/-- How a debugger answers a command, given the number of commands before it and the inventory. -/
abbrev BreakpointAnswers := Nat → String → ∀ inventory : List BreakpointRow, BreakpointAnswer inventory

/-- A listing shows the inventory, and what is said of a new breakpoint is true of it. -/
structure BreakpointAnswers.Honest (answers : BreakpointAnswers) : Prop where
  lists : ∀ count inventory, (answers count "-break-list" inventory).accepted = true →
    ((answers count "-break-list" inventory).payload.get "BreakpointTable").get "body" =
      .list (inventory.map BreakpointRow.toValue)
  listsOnly : ∀ count inventory, (answers count "-break-list" inventory).created = none
  inserts : ∀ count inventory location condition temporary,
    (answers count (breakInsertCommand location condition temporary) inventory).accepted = true →
    ∃ row ∈ (answers count (breakInsertCommand location condition temporary) inventory).created,
      (answers count (breakInsertCommand location condition temporary) inventory).payload.get "bkpt" = row.toValue
  catches : ∀ count inventory kind argument temporary n,
    let answer := answers count (wrapCliCommand (catchCommand kind argument temporary)) inventory
    answer.accepted = true → SessionBreakpointService.extractCatchpointNumber answer.output = .ok (some n) →
      ∃ row ∈ answer.created, row.number.value = some n

structure BreakpointDebugger where
  answers : BreakpointAnswers
  honest : answers.Honest
  inventory : List BreakpointRow
  count : Nat := 0
  pending : List MiRecord := []

namespace BreakpointDebugger

def answer (d : BreakpointDebugger) (line : String) : BreakpointAnswer d.inventory := d.answers d.count line d.inventory

/-- The debugger once it has answered a command; the query of the inferiors is no event for the breakpoints. -/
def asked (d : BreakpointDebugger) (line : String) : BreakpointDebugger :=
  { d with
    inventory := if line = Session.inventoryLine then d.inventory else d.inventory ++ (d.answer line).created.toList
    count := if line = Session.inventoryLine then d.count else d.count + 1
    pending := [] }

end BreakpointDebugger

/-- A debugger process that stays alive, and answers every command in one batch. -/
instance : Gdb BreakpointDebugger where
  spawn _ _ d := (.ok (), d)
  connect _ d := (.ok (), d)
  exit d := (.ok (), d)
  write token line d := (.ok (), { d.asked line with pending := (d.answer line).others ++ [(d.answer line).result token] })
  polls _ d := ([{ read := .ok d.pending }], { d with pending := [] })
  liveness d := (.running, d)
  hasProcess _ := true
  kill d := (.ok (), d)
  environ _ := fun _ => none
  isdir _ := fun _ => true
  time d := (0, d)

namespace BreakpointDebugger

variable (d : BreakpointDebugger)

theorem polls_pending (h : d.pending = []) (timeoutSec : Nat) (records : List MiRecord) :
    Gdb.polls timeoutSec { d with pending := records } = ([{ read := .ok records }], d) := by
  cases d
  obtain rfl := h
  rfl

/-- The query of the inferiors leaves the debugger as it is. -/
theorem asked_inventoryLine (h : d.pending = []) : d.asked Session.inventoryLine = d := by
  rw [asked, if_pos rfl, if_pos rfl, ← h]

end BreakpointDebugger

/-! ### One command -/

namespace Session

variable {s s' : Session BreakpointDebugger} {command : String}

theorem breakpointsAnswered (hs : s.runtime.hasController = true) (command : String) :
    s.AnsweredWith command (s.gdb.answer (actualCommand command)).others
      ((s.gdb.answer (actualCommand command)).result s.runtime.transport.commandToken)
      (s.gdb.asked (actualCommand command)) where
  hasController := hs
  liveness := rfl
  exchange := ⟨_, rfl, BreakpointDebugger.polls_pending _ rfl _ _⟩
  notFatal r hr := ((s.gdb.answer _).precedes r hr).notFatal
  notResult r hr := ((s.gdb.answer _).precedes r hr).notResult
  stream r hr := ((s.gdb.answer _).precedes r hr).stream
  own := by simp [BreakpointAnswer.result, MiRecord.isResultOf]
  notRunning := by
    rw [BreakpointAnswer.result]
    cases (s.gdb.answer _).accepted <;> simp

/-- The session is attached to a debugger in this state. -/
structure AttachedTo (d : BreakpointDebugger) (s : Session BreakpointDebugger) : Prop where
  gdb : s.gdb = d
  hasController : s.runtime.hasController = true

section Settled

variable {d : BreakpointDebugger}

theorem attachedTo_onRuntime {α : Type} {m : RuntimeM α} (hm : KeepsLife m) :
    (onRuntime m : SessionM BreakpointDebugger α).Within (Keeps (AttachedTo d)) := by
  refine ⟨fun s => ?_⟩
  have hlife : ∀ rt, Same SessionRuntime.life s.runtime rt → AttachedTo d s → AttachedTo d { s with runtime := rt } := by
    intro rt hrt h
    exact ⟨h.gdb, (congrArg (fun life => life.2.2.controller.isSome) hrt).trans h.hasController⟩
  rw [onRuntime, wp_zoom]
  exact wp_mono (hm.outcome s.runtime) (fun _ rt h => hlife rt h) fun _ rt h => hlife rt h

theorem attachedTo_update {f : SessionRuntime → SessionRuntime} (hf : ∀ rt, (f rt).life = rt.life) :
    (update f : SessionM BreakpointDebugger Unit).Within (Keeps (AttachedTo d)) := attachedTo_onRuntime (Within.modify hf)

theorem attachedTo_time : (time : SessionM BreakpointDebugger Nat).Within (Keeps (AttachedTo d)) :=
  ⟨fun _ h => ⟨h.gdb, h.hasController⟩⟩

theorem attachedTo_recordTranscript (entry : CommandTranscriptEntry) :
    (recordTranscript entry : SessionM BreakpointDebugger Unit).Within (Keeps (AttachedTo d)) :=
  attachedTo_time.bind fun _ => attachedTo_update fun _ => rfl

theorem attachedTo_refresh (hd : d.pending = []) :
    (refreshInferiorInventoryFromGdb : SessionM BreakpointDebugger Unit).Within (Keeps (AttachedTo d)) := by
  refine (Within.gets _).bind fun _ => Within.ite (Within.bind (Within.of_run fun s hs => ?_) fun result => ?_) (Within.pure _)
  · obtain ⟨client, response, hclient, -, -, -, hsend⟩ := run_send_answered (breakpointsAnswered hs.hasController "info inferiors")
    have hline : actualCommand "info inferiors" = wrapCliCommand "info inferiors" := by decide +kernel
    rw [hline] at hsend
    rw [hsend]
    refine ⟨?_, (congrArg Option.isSome hclient).trans hs.hasController⟩
    rw [hs.gdb]
    exact d.asked_inventoryLine hd
  · unfold applyInventory
    refine Within.ite (Within.pure _) ((Within.gets _).bind fun current => ?_)
    refine (attachedTo_onRuntime (Within.ofExcept _)).bind fun payload => attachedTo_update fun rt => ?_
    exact SessionRuntime.life_eq_of_frame_eq (SessionRuntime.frame_updateInferiorInventory rt _ _ _)

theorem attachedTo_updateRuntimeAfterCommand (hd : d.pending = []) (command : String) (parsed : ParsedMiResponse) :
    (updateRuntimeAfterCommand command parsed : SessionM BreakpointDebugger Unit).Within (Keeps (AttachedTo d)) := by
  have htext : QuietUpdate (fun _ => False) (applyCommandText command parsed) := quiet_applyCommandText command parsed
  refine (attachedTo_onRuntime (quiet_scanNotifies _ _).keepsLife).bind fun scan => ?_
  refine Within.bind ?_ fun _ => attachedTo_onRuntime htext.keepsLife
  unfold applyScan
  cases scan.stop with
  | none =>
      refine Within.ite (attachedTo_update fun rt => ?_) (Within.pure _)
      exact SessionRuntime.life_apply rt (m := .markInferiorRunning _) rfl
  | some stop =>
      refine (Within.ite (attachedTo_refresh hd) (Within.pure _)).bind fun _ => attachedTo_time.bind fun now => ?_
      exact attachedTo_update fun rt => rt.life_applyStop _ _ _

end Settled

/-- What the runner returns for a command, and where it leaves the session. -/
structure Told (s : Session BreakpointDebugger) (command : String) (result : OperationResult CommandExecutionInfo)
    (s' : Session BreakpointDebugger) : Prop where
  settled : AttachedTo (s.gdb.asked (actualCommand command)) s'
  isSuccess : result.isSuccess = (s.gdb.answer (actualCommand command)).accepted
  value : ∀ info warnings, result = .success info warnings → ∃ parsed, info = commandInfo command parsed ∧
    ReadsAs (s.gdb.answer (actualCommand command)).others
      ((s.gdb.answer (actualCommand command)).result s.runtime.transport.commandToken) parsed

theorem query_told (hs : s.runtime.hasController = true) {result : OperationResult CommandExecutionInfo}
    (hrun : (query command).run s = (.ok result, s')) : Told s command result s' := by
  obtain ⟨client, parsed, hclient, hreads, hsettles⟩ := run_query_answered (breakpointsAnswered hs command)
  have hattached : AttachedTo (s.gdb.asked (actualCommand command))
      { runtime := s.runtime.withTransport client, gdb := s.gdb.asked (actualCommand command) } :=
    ⟨rfl, (congrArg Option.isSome hclient).trans hs⟩
  have hclass := hreads.resultClass
  rw [hsettles, settleAnswer] at hrun
  cases haccepted : (s.gdb.answer (actualCommand command)).accepted with
  | true =>
      have hdone : parsed.isErrorResult = false := by
        rw [ParsedMiResponse.isErrorResult, hclass, BreakpointAnswer.result, haccepted]
        rfl
      rw [if_neg (by rw [hdone]; decide)] at hrun
      obtain ⟨_, s₁, hupdate, hrest⟩ := ok_of_run_bind hrun
      have hattached₁ := wp_ok ((attachedTo_updateRuntimeAfterCommand rfl command parsed).outcome _)
        hupdate hattached
      obtain ⟨_, s₂, hrecord, hpure⟩ := ok_of_run_bind hrest
      have hattached₂ := wp_ok ((attachedTo_recordTranscript _).outcome _) hrecord hattached₁
      obtain ⟨hresult, rfl⟩ := Prod.mk.inj hpure
      obtain rfl := Except.ok.inj hresult
      refine ⟨hattached₂, haccepted.symm, fun info warnings heq => ?_⟩
      obtain ⟨rfl, -⟩ := OperationResult.success.inj heq
      exact ⟨parsed, rfl, hreads⟩
  | false =>
      have herror : parsed.isErrorResult = true := by
        rw [ParsedMiResponse.isErrorResult, hclass, BreakpointAnswer.result, haccepted]
        rfl
      rw [if_pos herror] at hrun
      obtain ⟨_, s₁, hrecord, hpure⟩ := ok_of_run_bind hrun
      have hattached₁ := wp_ok ((attachedTo_recordTranscript _).outcome _) hrecord hattached
      obtain ⟨hresult, rfl⟩ := Prod.mk.inj hpure
      obtain rfl := Except.ok.inj hresult
      exact ⟨hattached₁, haccepted.symm, fun _ _ h => by cases h⟩

theorem Told.attached {line : String} {result : OperationResult CommandExecutionInfo} (h : Told s command result s')
    (hline : actualCommand command = line) : AttachedTo (s.gdb.asked line) s' := hline ▸ h.settled

theorem Told.accepted {line : String} {result : OperationResult CommandExecutionInfo} (h : Told s command result s')
    (hline : actualCommand command = line) : result.isSuccess = (s.gdb.answer line).accepted := hline ▸ h.isSuccess

theorem Told.payload {info : CommandExecutionInfo} {warnings : List String} (h : Told s command (.success info warnings) s')
    (hline : actualCommand command = command) (hmi : isCliCommand command = false) :
    extractMiResultPayload info = (s.gdb.answer command).payload := by
  obtain ⟨parsed, hinfo, hreads⟩ := h.value info warnings rfl
  rw [hinfo, payload_of_reads hmi hreads, hline]
  rfl

theorem Told.output {line : String} {info : CommandExecutionInfo} {warnings : List String}
    (h : Told s command (.success info warnings) s') (hline : actualCommand command = line)
    (hcli : isCliCommand command = true) : info.output.getD "" = (s.gdb.answer line).output := by
  obtain ⟨parsed, hinfo, hreads⟩ := h.value info warnings rfl
  rw [hinfo, output_of_reads hcli hreads, hline]
  rfl

end Session

end GdbMcp
