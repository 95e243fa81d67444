import GdbMcp.BaseTransition
import GdbMcp.BreakpointDebugger
import GdbMcp.BreakpointManage
import GdbMcp.InspectionCommands
import GdbMcp.MiOperands

/-! The breakpoints of a session as a store. Where the debugger keeps a table of breakpoints, whatever requests a client
makes are answered as one table answers them that its successful requests alone have changed. -/

namespace GdbMcp

open Eff CString SessionBreakpointService

/-! ### The store -/

/-- A breakpoint, or one of its locations. -/
structure BreakpointEntry where
  number : RowNumber
  type : String
  enabled : Bool := true
  condition : Option String := none
  others : Payload := []
  plain : others.lookup "bkpt" = none := by rfl

namespace BreakpointEntry

/-- The row of the inventory. -/
def toRow (entry : BreakpointEntry) : BreakpointRow where
  number := entry.number
  fields := ("type", .str entry.type) :: ("enabled", .str (if entry.enabled then "y" else "n")) ::
    (entry.condition.toList.map fun text => ("cond", .str text)) ++ entry.others
  plain := by
    have hplain := entry.plain
    cases entry.condition with
    | none => exact hplain
    | some => exact hplain

def toValue (entry : BreakpointEntry) : Value := entry.toRow.toValue

def kind (entry : BreakpointEntry) : BreakpointKind := breakpointKind entry.type

/-- The entry has one of the kinds, where any are given, and the state, where one is given. -/
def passes (kinds : List BreakpointKind) (enabled : Option Bool) (entry : BreakpointEntry) : Bool :=
  (kinds.isEmpty || kinds.contains entry.kind) && enabled.all (· == entry.enabled)

end BreakpointEntry

/-- The number of the breakpoint that a row belongs to. -/
def RowNumber.owner : RowNumber → Nat
  | breakpoint n => n
  | location n _ => n

abbrev BreakpointTable := List BreakpointEntry

namespace BreakpointTable

variable (table : BreakpointTable) (number : Int)

def find (number : Int) : Option BreakpointEntry := List.find? (fun entry => entry.number.value == some number) table

/-- A breakpoint is deleted with its locations. -/
def delete : BreakpointTable := table.filter fun entry => (entry.number.owner : Int) != number

def change (f : BreakpointEntry → BreakpointEntry) : BreakpointTable :=
  table.map fun entry => if entry.number.value == some number then f entry else entry

def setEnabled (enabled : Bool) : BreakpointTable := table.change number ({ · with enabled })

def setCondition (condition : Option String) : BreakpointTable := table.change number ({ · with condition })

/-- What a listing says of the entries. -/
def listing : Value :=
  .dict [("breakpoints", .list (table.map BreakpointEntry.toValue)), ("count", .int table.length)]

/-- What the store allows: a read tells what is in the table, a change that succeeds is made and any other one is not. -/
def Allows (table : BreakpointTable) : BreakpointRequest × ToolResult → BreakpointTable → Prop
  | (.list kinds enabled, result), table' =>
    table' = table ∧ result = .success (listing (table.filter (BreakpointEntry.passes kinds enabled)))
  | (.get number, result), table' =>
    table' = table ∧
      result = (table.find number).elim (notFoundError number) fun entry => .success (.dict [("breakpoint", entry.toValue)])
  | (.delete number, result), table' => table' = if result.isSuccess then table.delete number else table
  | (.deleteWatch number, result), table' => table' = if result.isSuccess then table.delete number else table
  | (.enable number, result), table' => table' = if result.isSuccess then table.setEnabled number true else table
  | (.disable number, result), table' => table' = if result.isSuccess then table.setEnabled number false else table
  | (.update number condition _, result), table' =>
    table' = (if result.isSuccess then table.setCondition number condition else table) ∧
      ∀ value warnings, result = .success value warnings →
        ∃ entry, table'.find number = some entry ∧ value = .dict [("breakpoint", entry.toValue)]

end BreakpointTable

/-! ### What the operations read in the table -/

section Reads

variable {table : BreakpointTable}

theorem map_toValue (table : BreakpointTable) :
    table.map BreakpointEntry.toValue = (table.map BreakpointEntry.toRow).map BreakpointRow.toValue := by
  rw [List.map_map]
  rfl

/-- The lookup by a number finds the first entry with it, as far as the numbers can be read. -/
theorem findBreakpointRecord_entries {number : Int} {found : Option Value}
    (h : findBreakpointRecord number (table.map BreakpointEntry.toValue) = .ok found) :
    found = (table.find number).map BreakpointEntry.toValue := by
  induction table with
  | nil => exact (Except.ok.inj h).symm
  | cons entry rest ih =>
      rw [List.map_cons, findBreakpointRecord] at h
      obtain ⟨own, hown, hrest⟩ := ok_of_except_bind h
      have hvalue : own = entry.number.value := BreakpointRow.extractBreakpointNumber_toValue hown
      rw [BreakpointTable.find, List.find?_cons]
      split at hrest
      · rename_i heq
        rw [← hvalue, heq, beq_self_eq_true]
        exact (Except.ok.inj hrest).symm
      · rename_i hne
        rw [← hvalue, beq_false_of_ne hne]
        exact ih hrest

theorem filterBreakpoints_entries (kinds : List BreakpointKind) (enabled : Option Bool) (table : BreakpointTable) :
    filterBreakpoints kinds enabled (table.map BreakpointEntry.toValue) =
      .ok ((table.filter (BreakpointEntry.passes kinds enabled)).map BreakpointEntry.toValue) := by
  induction table with
  | nil => rfl
  | cons entry rest ih =>
      have hkind : breakpointKind (entry.toValue.getOr "type" (.str "")).text = entry.kind := rfl
      have henabled : isEnabledValue (entry.toValue.get "enabled") = .ok entry.enabled := by
        change isEnabledValue (.str (if entry.enabled then "y" else "n")) = _
        cases entry.enabled <;> rfl
      rw [List.map_cons, filterBreakpoints, hkind, henabled, ih, List.filter_cons, BreakpointEntry.passes]
      by_cases hpasses : (kinds.isEmpty || kinds.contains entry.kind) = true
      · have hkept : (!kinds.isEmpty && !kinds.contains entry.kind) = false := by
          rw [← Bool.not_or, hpasses, Bool.not_true]
        rw [hkept, hpasses, Bool.true_and, if_neg Bool.false_ne_true]
        cases hstate : enabled.all (· == entry.enabled) with
        | true => simp [hstate, bind, Except.bind, pure, Except.pure]
        | false => simp [hstate, bind, Except.bind, pure, Except.pure]
      · rw [Bool.not_eq_true] at hpasses
        have hdropped : (!kinds.isEmpty && !kinds.contains entry.kind) = true := by
          rw [← Bool.not_or, hpasses, Bool.not_false]
        rw [hdropped, hpasses, Bool.false_and, if_pos rfl, if_neg Bool.false_ne_true]

theorem breakpointListInfo_entries {payload : Value}
    (h : (payload.get "BreakpointTable").get "body" = .list (table.map BreakpointEntry.toValue)) :
    breakpointListInfoFromPayload payload = ⟨table.map BreakpointEntry.toValue, table.length⟩ := by
  rw [breakpointListInfoFromPayload, breakpointRecords, h, map_toValue, asRecordList_rows, List.length_map, List.length_map]

/-- A condition that is not found behind its change has changed nothing. -/
theorem setCondition_of_find_none {number : Int} {condition : Option String}
    (h : (table.setCondition number condition).find number = none) : table.setCondition number condition = table := by
  rw [BreakpointTable.find, List.find?_eq_none] at h
  have habsent : ∀ entry ∈ table, ¬(entry.number.value == some number) = true := by
    intro entry hentry hnumber
    refine h _ (List.mem_map_of_mem hentry) ?_
    rw [if_pos hnumber]
    exact hnumber
  rw [BreakpointTable.setCondition, BreakpointTable.change, List.map_congr_left fun entry hentry => if_neg (habsent entry hentry),
    List.map_id']

end Reads

/-! ### A debugger with a table -/

namespace BreakpointTable

/-- The condition behind the number; without one the condition is cleared. -/
def conditionOf : List Word → Option String
  | [.quoted text] => some text
  | _ => none

/-- What an accepted command on a breakpoint does to the table. -/
def obey (table : BreakpointTable) (name : String) (number : Int) (rest : List Word) : BreakpointTable :=
  if name = "-break-delete" then table.delete number
  else if name = "-break-enable" then table.setEnabled number true
  else if name = "-break-disable" then table.setEnabled number false
  else if name = "-break-condition" then table.setCondition number (conditionOf rest)
  else table

/-- What an accepted command does to the table. -/
def run (table : BreakpointTable) (line : String) : BreakpointTable :=
  match CString.split line with
  | some (.bare name :: .bare operand :: rest) =>
    (PyStr.readInt operand.toList).elim table fun number => table.obey name number rest
  | _ => table

/-- The table behind the commands of a log. -/
def behind (start : BreakpointTable) (d : Debugger) : BreakpointTable :=
  d.log.zipIdx.foldl (fun table entry =>
    if (d.answers entry.2 entry.1.1 entry.1.2).accepted then table.run entry.1.1 else table) start

/-- The debugger lists its breakpoints whenever it is asked to. -/
def ListedBy (start : BreakpointTable) (d : Debugger) : Prop :=
  ∀ n selection, d.log[n]? = some ("-break-list", selection) →
    (d.answers n "-break-list" selection).accepted = true ∧
      ((d.answers n "-break-list" selection).payload.get "BreakpointTable").get "body" =
        .list ((start.behind { d with log := d.log.take n }).map BreakpointEntry.toValue)

theorem run_of_words {table : BreakpointTable} {line name : String} {number : Int} {rest : List Word}
    (h : CString.split line = some (.bare name :: .bare (toString number) :: rest)) :
    table.run line = table.obey name number rest := by
  rw [run, h]
  simp only [PyStr.readInt_toString, Option.elim_some]

/-- The words of a command on one breakpoint. -/
theorem split_numbered {name : String} (hname : (Word.bare name).Fits) (number : Int) (texts : List String) :
    CString.split (String.intercalate " " (name :: toString number :: texts.map quoteMiString)) =
      some (.bare name :: .bare (toString number) :: texts.map .quoted) := by
  have hwords : name :: toString number :: texts.map quoteMiString =
      (Word.bare name :: .bare (toString number) :: texts.map .quoted).map writeWord := by
    simp [writeWord, Function.comp_def]
  rw [hwords]
  refine split_line (List.cons_ne_nil _ _) ?_
  exact List.forall_mem_cons.mpr ⟨hname, List.forall_mem_cons.mpr ⟨fits_int number, fits_quoted texts⟩⟩

theorem run_numbered (table : BreakpointTable) (name : String) (hname : (Word.bare name).Fits) (number : Int)
    (texts : List String) :
    table.run (String.intercalate " " (name :: toString number :: texts.map quoteMiString)) =
      table.obey name number (texts.map .quoted) :=
  run_of_words (split_numbered hname number texts)

theorem run_delete (table : BreakpointTable) (number : Int) :
    table.run s!"-break-delete {number}" = table.delete number :=
  table.run_numbered "-break-delete" (by simp [Word.Fits]) number []

theorem run_enable (table : BreakpointTable) (number : Int) :
    table.run s!"-break-enable {number}" = table.setEnabled number true :=
  table.run_numbered "-break-enable" (by simp [Word.Fits]) number []

theorem run_disable (table : BreakpointTable) (number : Int) :
    table.run s!"-break-disable {number}" = table.setEnabled number false :=
  table.run_numbered "-break-disable" (by simp [Word.Fits]) number []

theorem run_condition (table : BreakpointTable) (number : Int) (condition : Option String) :
    table.run (breakConditionCommand number condition) = table.setCondition number condition := by
  cases condition with
  | none => exact table.run_numbered "-break-condition" (by simp [Word.Fits]) number []
  | some text => exact table.run_numbered "-break-condition" (by simp [Word.Fits]) number [text]

end BreakpointTable

/-! ### Requests -/

namespace Session

variable {start table : BreakpointTable} {s s' : Session Debugger}

/-- The session is attached, and the table of its debugger is the given one. -/
structure Stores (start : BreakpointTable) (s : Session Debugger) (table : BreakpointTable) : Prop where
  hasController : s.runtime.hasController = true
  table : start.behind s.gdb = table

theorem behind_sent {line : String} (h : Sent s line s') :
    start.behind s'.gdb =
      if (s.answerTo line).accepted then (start.behind s.gdb).run line else start.behind s.gdb := by
  rw [h.gdb, BreakpointTable.behind, Debugger.asked, List.zipIdx_append, List.foldl_append, List.zipIdx_singleton,
    List.foldl_cons, List.foldl_nil, Nat.zero_add]
  rfl

theorem Stores.sent {line : String} (h : Stores start s table) (hs' : Sent s line s') :
    Stores start s' (if (s.answerTo line).accepted then table.run line else table) :=
  ⟨hs'.hasController, by rw [behind_sent hs', h.table]⟩

/-- A listing says what is in the table. -/
theorem listBreakpoints_stores (h : Stores start s table) :
    wp listBreakpoints
      (fun result s' => Stores start s' table ∧
        (start.ListedBy s'.gdb → result = .success ⟨table.map BreakpointEntry.toValue, table.length⟩))
      (fun _ _ => False) s := by
  rw [listBreakpoints, wp_bind]
  refine wp_mono (query_mi h.hasController (by decide)) (fun result s₁ hs₁ => ?_) fun _ _ h => h
  obtain ⟨hsent, hsuccess, hpayload⟩ := hs₁
  have hrun : table.run "-break-list" = table := rfl
  have hstores : Stores start s₁ table := by
    have hstores := h.sent hsent
    rwa [hrun, ite_self] at hstores
  have hlisted : start.ListedBy s₁.gdb → (s.answerTo "-break-list").accepted = true ∧
      ((s.answerTo "-break-list").payload.get "BreakpointTable").get "body" = .list (table.map BreakpointEntry.toValue) := by
    intro hlisted
    rw [hsent.gdb] at hlisted
    have hat := hlisted s.gdb.log.length s.gdb.selection List.getElem?_concat_length
    rw [Debugger.asked, List.take_left' rfl] at hat
    refine ⟨hat.1, hat.2.trans ?_⟩
    rw [← h.table]
    rfl
  cases result with
  | error => exact ⟨hstores, fun hlisted' => by cases hsuccess.trans (hlisted hlisted').1⟩
  | success info warnings =>
      refine ⟨hstores, fun hlisted' => ?_⟩
      rw [← hpayload info warnings rfl] at hlisted
      exact congrArg (OperationResult.success · []) (breakpointListInfo_entries (hlisted hlisted').2)

/-- A change is made where it succeeds. -/
theorem changeBreakpoint_stores {command : String} (hcommand : PyStr.startswith command "-" = true) (message : String)
    (h : Stores start s table) :
    wp (changeBreakpoint command message)
      (fun result s' => Stores start s' (if result.isSuccess then table.run command else table)) (fun _ _ => False) s := by
  rw [changeBreakpoint, wp_bind]
  refine wp_mono (query_mi h.hasController hcommand) (fun result s₁ hs₁ => ?_) fun _ _ h => h
  obtain ⟨hsent, hsuccess, -⟩ := hs₁
  have hstores := h.sent hsent
  rw [← hsuccess] at hstores
  cases result with
  | error => exact hstores
  | success => exact hstores

/-- A breakpoint is confirmed if it is in the table. -/
theorem breakpointInfoForNumber_stores (number : Int) (details : Payload) (h : Stores start s table) :
    wp (breakpointInfoForNumber number details)
      (fun result s' => Stores start s' table ∧ (start.ListedBy s'.gdb →
        result.isSuccess = (table.find number).isSome ∧
        ∀ info warnings, result = .success info warnings →
          ∃ entry, table.find number = some entry ∧ info.breakpoint = entry.toValue))
      (fun _ _ => True) s := by
  rw [breakpointInfoForNumber, wp_bind]
  refine wp_mono (listBreakpoints_stores h) (fun result s₁ hs₁ => ?_) fun _ _ h => h.elim
  obtain ⟨hstores, hlisting⟩ := hs₁
  cases result with
  | error => exact ⟨hstores, fun hlisted => by cases hlisting hlisted⟩
  | success listing warnings =>
      change wp (narrow (findBreakpointRecord number listing.breakpoints) >>= _) _ _ s₁
      rw [wp_bind, narrow, onRuntime, wp_zoom, wp_ofExcept]
      refine ⟨fun found hfound => ?_, fun _ _ => trivial⟩
      have hread : start.ListedBy s₁.gdb → found = (table.find number).map BreakpointEntry.toValue := by
        intro hlisted
        rw [(OperationResult.success.inj (hlisting hlisted)).1] at hfound
        exact findBreakpointRecord_entries hfound
      cases found with
      | none =>
          refine ⟨hstores, fun hlisted => ⟨?_, OperationResult.forall_error⟩⟩
          rw [Option.map_eq_none_iff.mp (hread hlisted).symm]
          rfl
      | some record =>
          refine ⟨hstores, fun hlisted => ?_⟩
          obtain ⟨entry, hentry, hrecord⟩ := Option.map_eq_some_iff.mp (hread hlisted).symm
          refine ⟨by rw [hentry]; rfl, OperationResult.forall_success.mpr ⟨entry, hentry, hrecord.symm⟩⟩

/-- A request is served with a result, and the debugger lists its breakpoints. -/
def Serves (start : BreakpointTable) (s : Session Debugger) (label : BreakpointRequest × ToolResult)
    (s' : Session Debugger) : Prop :=
  label.1.perform.run s = (.ok label.2, s') ∧ start.ListedBy s'.gdb

theorem queryBreakpoints_allowed (kinds : List BreakpointKind) (enabled : Option Bool) (h : Stores start s table) :
    wp (queryBreakpoints kinds enabled)
      (fun result s' => start.ListedBy s'.gdb →
        ∃ table', Stores start s' table' ∧ table.Allows (.list kinds enabled, result) table')
      (fun _ _ => True) s := by
  rw [queryBreakpoints, wp_bind]
  refine wp_mono (listBreakpoints_stores h) (fun result s₁ hs₁ => ?_) fun _ _ h => h.elim
  obtain ⟨hstores, hlisting⟩ := hs₁
  cases result with
  | error => exact fun hlisted => by cases hlisting hlisted
  | success listing warnings =>
      rw [orReturn]
      split
      · -- without a filter every entry passes
        rename_i hfilter
        obtain ⟨hkinds, henabled⟩ := Bool.and_eq_true_iff.mp hfilter
        refine fun hlisted => ⟨table, hstores, rfl, ?_⟩
        have hall : table.filter (BreakpointEntry.passes kinds enabled) = table := by
          refine List.filter_eq_self.mpr fun entry _ => ?_
          rw [BreakpointEntry.passes, hkinds, Option.isNone_iff_eq_none.mp henabled]
          rfl
        rw [hall, (OperationResult.success.inj (hlisting hlisted)).1]
        rfl
      · rw [wp_bind, narrow, onRuntime, wp_zoom, wp_ofExcept]
        refine ⟨fun kept hkept hlisted => ⟨table, hstores, rfl, ?_⟩, fun _ _ => trivial⟩
        rw [(OperationResult.success.inj (hlisting hlisted)).1, filterBreakpoints_entries] at hkept
        rw [← Except.ok.inj hkept, List.length_map]
        rfl

theorem getBreakpoint_allowed (number : Int) (h : Stores start s table) :
    wp (getBreakpoint number)
      (fun result s' => start.ListedBy s'.gdb → ∃ table', Stores start s' table' ∧
        table.Allows (.get number, result.serialize BreakpointInfo.toValue) table')
      (fun _ _ => True) s := by
  rw [getBreakpoint, wp_bind]
  refine wp_mono (listBreakpoints_stores h) (fun result s₁ hs₁ => ?_) fun _ _ h => h.elim
  obtain ⟨hstores, hlisting⟩ := hs₁
  cases result with
  | error => exact fun hlisted => by cases hlisting hlisted
  | success listing warnings =>
      change wp (narrow (findBreakpointRecord number listing.breakpoints) >>= _) _ _ s₁
      rw [wp_bind, narrow, onRuntime, wp_zoom, wp_ofExcept]
      refine ⟨fun found hfound => ?_, fun _ _ => trivial⟩
      have hread : start.ListedBy s₁.gdb → found = (table.find number).map BreakpointEntry.toValue := by
        intro hlisted
        rw [(OperationResult.success.inj (hlisting hlisted)).1] at hfound
        exact findBreakpointRecord_entries hfound
      cases found with
      | none =>
          refine fun hlisted => ⟨table, hstores, rfl, ?_⟩
          rw [Option.map_eq_none_iff.mp (hread hlisted).symm]
          rfl
      | some record =>
          refine fun hlisted => ⟨table, hstores, rfl, ?_⟩
          obtain ⟨entry, hentry, hrecord⟩ := Option.map_eq_some_iff.mp (hread hlisted).symm
          rw [hentry, ← hrecord]
          rfl

/-- The condition is changed where it can be confirmed; where it cannot, there was no breakpoint to change. -/
theorem updateBreakpoint_allowed (number : Int) (condition : Option String) (clearCondition : Bool)
    (h : Stores start s table) :
    wp (updateBreakpoint number condition clearCondition)
      (fun result s' => start.ListedBy s'.gdb → ∃ table', Stores start s' table' ∧
        table.Allows (.update number condition clearCondition, result.serialize BreakpointInfo.toValue) table')
      (fun _ _ => True) s := by
  rw [updateBreakpoint]
  split
  · exact fun _ => ⟨table, h, rfl, OperationResult.forall_error⟩
  split
  · exact fun _ => ⟨table, h, rfl, OperationResult.forall_error⟩
  have hcommand : PyStr.startswith (breakConditionCommand number condition) "-" = true := by
    cases condition with
    | none => exact PyStr.startswith_append_left rfl _
    | some text => exact PyStr.startswith_append_left (PyStr.startswith_append_left (PyStr.startswith_append_left rfl _) _) _
  rw [wp_bind]
  refine wp_mono (query_mi h.hasController hcommand) (fun result s₁ hs₁ => ?_) fun _ _ h => h.elim
  obtain ⟨hsent, hsuccess, -⟩ := hs₁
  have hstores := h.sent hsent
  rw [← hsuccess, BreakpointTable.run_condition] at hstores
  cases result with
  | error => exact fun _ => ⟨table, hstores, rfl, OperationResult.forall_error⟩
  | success info warnings =>
      refine wp_mono (breakpointInfoForNumber_stores number _ hstores) (fun result s₂ hs₂ hlisted => ?_) fun _ _ h => h
      obtain ⟨hstores', hconfirmed⟩ := hs₂
      obtain ⟨hisSuccess, hinfo⟩ := hconfirmed hlisted
      refine ⟨table.setCondition number condition, hstores', ?_⟩
      cases result with
      | error =>
          have hnone := Option.not_isSome_iff_eq_none.mp (Bool.eq_false_iff.mp hisSuccess.symm)
          rw [BreakpointTable.Allows]
          exact ⟨setCondition_of_find_none hnone, OperationResult.forall_error⟩
      | success found _ =>
          obtain ⟨entry, hentry, hbreakpoint⟩ := hinfo _ _ rfl
          refine ⟨rfl, OperationResult.forall_success.mpr ⟨entry, hentry, ?_⟩⟩
          rw [BreakpointInfo.toValue, hbreakpoint]

/-- A change with a message: the table is the changed one exactly if it succeeds. -/
theorem changeBreakpoint_allowed {command message : String} {changed : BreakpointTable}
    (hcommand : PyStr.startswith command "-" = true) (hrun : table.run command = changed) (h : Stores start s table) :
    wp ((·.serialize SessionMessage.toValue) <$> changeBreakpoint command message)
      (fun result s' => start.ListedBy s'.gdb →
        ∃ table', Stores start s' table' ∧ table' = if result.isSuccess then changed else table)
      (fun _ _ => True) s := by
  refine (wp_map _ _).mpr (wp_mono (changeBreakpoint_stores hcommand message h) (fun result s' hs' _ => ⟨_, hs', ?_⟩)
    fun _ _ h => h.elim)
  rw [hrun]
  cases result with
  | error => rfl
  | success => rfl

theorem request_allowed (request : BreakpointRequest) (h : Stores start s table) :
    wp request.perform
      (fun result s' => start.ListedBy s'.gdb → ∃ table', Stores start s' table' ∧ table.Allows (request, result) table')
      (fun _ _ => True) s := by
  cases request with
  | list kinds enabled => exact queryBreakpoints_allowed kinds enabled h
  | get number => exact (wp_map _ _).mpr (getBreakpoint_allowed number h)
  | update number condition clearCondition => exact (wp_map _ _).mpr (updateBreakpoint_allowed number condition clearCondition h)
  | delete number => exact changeBreakpoint_allowed (PyStr.startswith_append_left rfl _) (table.run_delete number) h
  | deleteWatch number => exact changeBreakpoint_allowed (PyStr.startswith_append_left rfl _) (table.run_delete number) h
  | enable number => exact changeBreakpoint_allowed (PyStr.startswith_append_left rfl _) (table.run_enable number) h
  | disable number => exact changeBreakpoint_allowed (PyStr.startswith_append_left rfl _) (table.run_disable number) h

end Session

/-! ### Runs of requests -/

/-- Whatever requests are made of a session, in whatever order, they are answered as the store answers them: a read tells
what the changes that have succeeded before it have made of the table, and nothing else. -/
theorem breakpoints_refine_store {start : BreakpointTable} {s s' : Session Debugger}
    {labels : List (BreakpointRequest × ToolResult)} (hrun : Runs (Session.Serves start) s labels s')
    (hs : s.runtime.hasController = true) :
    Runs BreakpointTable.Allows (start.behind s.gdb) labels (start.behind s'.gdb) := by
  have hstep : ∀ s label s' table, Session.Stores start s table → Session.Serves start s label s' →
      ∃ table', BreakpointTable.Allows table label table' ∧ Session.Stores start s' table' := by
    intro s label s' table h hserves
    obtain ⟨table', hstores, hallows⟩ := wp_ok (Session.request_allowed label.1 h) hserves.1 hserves.2
    exact ⟨table', hallows, hstores⟩
  obtain ⟨table, hallowed, hstores⟩ := hrun.refines hstep ⟨hs, rfl⟩
  rwa [hstores.table]

/-- A debugger that accepts every command, with the tables that it lists. -/
def storingAnswers (tables : List BreakpointTable) (n : Nat) (_ : String) (_ : Selection) : Answer where
  payload := .dict [("BreakpointTable", .dict [("body", .list ((tables[n]?.getD []).map BreakpointEntry.toValue))])]

def storedEntry (enabled : Bool) : BreakpointEntry := { number := .breakpoint 1, type := "breakpoint", enabled }

/-- The breakpoint beside a watchpoint. -/
def storedTable (enabled : Bool) : BreakpointTable :=
  [storedEntry enabled, { number := .breakpoint 2, type := "hw watchpoint" }]

/-- A session whose debugger has the table, and lists it with the breakpoint disabled. -/
def storingSession : Session Debugger where
  runtime := { transport := { controller := some {} } }
  gdb := { answers := storingAnswers [[], storedTable false], selection := { thread := 1, frame := 0 } }

/-- The breakpoint is disabled, and then looked up. -/
theorem breakpoints_refine_store_disabled :
    ∃ s', Runs (Session.Serves (storedTable true)) storingSession
        [(.disable 1, .success (SessionMessage.toValue ⟨"Breakpoint 1 disabled"⟩)),
          (.get 1, .success (BreakpointInfo.toValue ⟨(storedEntry false).toValue⟩))] s' ∧
      Runs BreakpointTable.Allows (storedTable true)
        [(.disable 1, .success (SessionMessage.toValue ⟨"Breakpoint 1 disabled"⟩)),
          (.get 1, .success (BreakpointInfo.toValue ⟨(storedEntry false).toValue⟩))] ((storedTable true).behind s'.gdb) := by
  have hdisable : Session.Serves (storedTable true) storingSession
      (.disable 1, .success (SessionMessage.toValue ⟨"Breakpoint 1 disabled"⟩))
      ((BreakpointRequest.disable 1).perform.run storingSession).2 := by
    refine ⟨Prod.ext (by rfl) rfl, fun n selection hn => ?_⟩
    have hlog : ((BreakpointRequest.disable 1).perform.run storingSession).2.gdb.log = [("-break-disable 1", ⟨1, 0⟩)] := by
      decide +kernel
    rw [hlog] at hn
    cases n with
    | zero => simp at hn
    | succ n => simp at hn
  have hget : Session.Serves (storedTable true) ((BreakpointRequest.disable 1).perform.run storingSession).2
      (.get 1, .success (BreakpointInfo.toValue ⟨(storedEntry false).toValue⟩))
      ((BreakpointRequest.get 1).perform.run ((BreakpointRequest.disable 1).perform.run storingSession).2).2 := by
    refine ⟨Prod.ext (by rfl) rfl, fun n selection hn => ?_⟩
    have hlog : ((BreakpointRequest.get 1).perform.run ((BreakpointRequest.disable 1).perform.run storingSession).2).2.gdb.log =
        [("-break-disable 1", ⟨1, 0⟩), ("-break-list", ⟨1, 0⟩)] := by decide +kernel
    rw [hlog] at hn
    rcases n with _ | _ | n
    · simp at hn
    · exact ⟨by rfl, by rfl⟩
    · simp at hn
  have hrun := Runs.cons hdisable (.cons hget (.nil _))
  exact ⟨_, hrun, breakpoints_refine_store hrun rfl⟩

end GdbMcp
