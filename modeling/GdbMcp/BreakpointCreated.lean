import GdbMcp.BreakpointDebugger
import GdbMcp.MiOperands

/-! What a session reports when it sets a breakpoint or a catchpoint, against the inventory before. -/

namespace GdbMcp

open Eff Session SessionBreakpointService

/-! ### The lines -/

theorem startswith_breakInsert (location : String) (condition : Option String) (temporary : Bool) :
    PyStr.startswith (breakInsertCommand location condition temporary) "-" = true := by
  rw [breakInsertCommand_eq, breakInsertWords, List.append_assoc, List.append_assoc, List.append_assoc, List.singleton_append,
    List.map_cons]
  generalize List.map _ _ = parts
  cases parts with
  | nil => decide
  | cons part rest =>
      rw [String.intercalate_cons_cons]
      exact PyStr.startswith_append_left (PyStr.startswith_append_left (by decide) _) _

theorem actualCommand_breakInsert (location : String) (condition : Option String) (temporary : Bool) :
    actualCommand (breakInsertCommand location condition temporary) = breakInsertCommand location condition temporary :=
  actualCommand_of_dash (startswith_breakInsert _ _ _)

theorem isCliCommand_breakInsert (location : String) (condition : Option String) (temporary : Bool) :
    isCliCommand (breakInsertCommand location condition temporary) = false := by
  rw [isCliCommand, PyStr.startswith_strip (startswith_breakInsert _ _ _) (by decide)]
  rfl

theorem breakInsert_ne_inventoryLine (location : String) (condition : Option String) (temporary : Bool) :
    breakInsertCommand location condition temporary ≠ inventoryLine := by
  intro heq
  have hsplit := split_breakInsert location condition temporary
  rw [heq, inventoryLine, split_wrapCli, breakInsertWords] at hsplit
  simp at hsplit

theorem startswith_catchCommand (kind : CatchpointType) (argument : Option String) (temporary : Bool) :
    PyStr.startswith (catchCommand kind argument temporary) (if temporary then "tcatch" else "catch") = true := by
  unfold catchCommand
  extract_lets command
  have hcommand : PyStr.startswith command (if temporary then "tcatch" else "catch") = true :=
    PyStr.startswith_append_left (PyStr.startswith_append _ _) _
  cases argument.filter (· ≠ "") with
  | none => exact hcommand
  | some text => exact PyStr.startswith_append_left (PyStr.startswith_append_left hcommand _) _

theorem actualCommand_catch (kind : CatchpointType) (argument : Option String) (temporary : Bool) :
    actualCommand (catchCommand kind argument temporary) = wrapCliCommand (catchCommand kind argument temporary) := by
  have hstart := startswith_catchCommand kind argument temporary
  cases temporary with
  | true => exact actualCommand_cli hstart (by decide) (by decide)
  | false => exact actualCommand_cli hstart (by decide) (by decide)

theorem isCliCommand_catch (kind : CatchpointType) (argument : Option String) (temporary : Bool) :
    isCliCommand (catchCommand kind argument temporary) = true := by
  have hstart := startswith_catchCommand kind argument temporary
  rw [isCliCommand]
  cases temporary with
  | true => rw [PyStr.startswith_apart (PyStr.startswith_strip hstart (by decide)) (by decide)]; rfl
  | false => rw [PyStr.startswith_apart (PyStr.startswith_strip hstart (by decide)) (by decide)]; rfl

theorem catch_ne_inventoryLine (kind : CatchpointType) (argument : Option String) (temporary : Bool) :
    wrapCliCommand (catchCommand kind argument temporary) ≠ inventoryLine := by
  intro heq
  have hstart := startswith_catchCommand kind argument temporary
  rw [wrapCliCommand_injective heq] at hstart
  cases temporary <;> exact absurd hstart (by decide)

/-! ### New breakpoints -/

/-- The record is of none of the rows. -/
def IsNew (inventory : List BreakpointRow) (record : Value) : Prop :=
  ∀ old ∈ inventory, (breakpointRecord record).get "number" ≠ .str old.number.text

theorem isNew_toValue {inventory : List BreakpointRow} {row : BreakpointRow} :
    IsNew inventory row.toValue ↔ ∀ old ∈ inventory, old.number ≠ row.number := by
  refine forall₂_congr fun old _ => not_congr ?_
  rw [BreakpointRow.breakpointRecord_toValue, BreakpointRow.number_toValue, Value.str.injEq]
  exact ⟨fun h => (RowNumber.text_injective h).symm, fun h => congrArg RowNumber.text h.symm⟩

theorem RowNumber.eq_of_value {a b : RowNumber} {n : Int} (ha : a.value = some n) (hb : b.value = some n) : a = b := by
  cases a with
  | location => exact nomatch ha
  | breakpoint i =>
      cases b with
      | location => exact nomatch hb
      | breakpoint j =>
          have hij : (i : Int) = j := (Option.some.inj ha).trans (Option.some.inj hb).symm
          rw [Int.ofNat.inj hij]

theorem isNew_iff_of_value {inventory : List BreakpointRow} {row : BreakpointRow} {n : Int} (hrow : row.number.value = some n) :
    IsNew inventory row.toValue ↔ ∀ old ∈ inventory, old.number.value ≠ some n := by
  rw [isNew_toValue]
  exact forall₂_congr fun old _ => not_congr ⟨fun h => h ▸ hrow, fun h => RowNumber.eq_of_value h hrow⟩

/-- No old breakpoint has the number of the one that is created. -/
theorem BreakpointAnswer.fresh_value {inventory : List BreakpointRow} (answer : BreakpointAnswer inventory) {row : BreakpointRow}
    {n : Int} (hcreated : row ∈ answer.created) (hrow : row.number.value = some n) :
    ∀ old ∈ inventory, old.number.value ≠ some n :=
  fun old hold h => answer.fresh row hcreated old hold (RowNumber.eq_of_value h hrow)

namespace BreakpointDebugger

variable {d : BreakpointDebugger}

theorem inventory_asked {line : String} (h : line ≠ inventoryLine) :
    (d.asked line).inventory = d.inventory ++ (d.answer line).created.toList := if_neg h

/-- A listing changes nothing. -/
theorem inventory_listed : (d.asked "-break-list").inventory = d.inventory := by
  rw [inventory_asked (by decide +kernel), answer, d.honest.listsOnly, Option.toList_none, List.append_nil]

theorem inventory_inserted (location : String) (condition : Option String) (temporary : Bool) :
    (d.asked (breakInsertCommand location condition temporary)).inventory =
      d.inventory ++ (d.answer (breakInsertCommand location condition temporary)).created.toList :=
  inventory_asked (breakInsert_ne_inventoryLine _ _ _)

/-- The answer to the command of a catchpoint, behind the first listing. -/
def catchAnswer (d : BreakpointDebugger) (kind : CatchpointType) (argument : Option String) (temporary : Bool) :
    BreakpointAnswer (d.asked "-break-list").inventory :=
  (d.asked "-break-list").answer (wrapCliCommand (catchCommand kind argument temporary))

end BreakpointDebugger

namespace Session

variable {s s' : Session BreakpointDebugger}

/-! ### Listings -/

/-- What a listing tells, and where it leaves the session. -/
structure Listed (s : Session BreakpointDebugger) (result : OperationResult BreakpointListInfo)
    (s' : Session BreakpointDebugger) : Prop where
  settled : AttachedTo (s.gdb.asked "-break-list") s'
  isSuccess : result.isSuccess = (s.gdb.answer "-break-list").accepted
  value : ∀ listing warnings, result = .success listing warnings →
    listing.breakpoints = s.gdb.inventory.map BreakpointRow.toValue

theorem listBreakpoints_listed (hs : s.runtime.hasController = true) {result : OperationResult BreakpointListInfo}
    (hrun : listBreakpoints.run s = (.ok result, s')) : Listed s result s' := by
  have hline : actualCommand "-break-list" = "-break-list" := actualCommand_of_dash (by decide)
  obtain ⟨first, s₁, hquery, hrest⟩ := ok_of_run_bind hrun
  have htold := query_told hs hquery
  have hfirst := htold.accepted hline
  rcases ok_of_orReturn hrest with ⟨hfails, hresult, rfl⟩ | ⟨info, warnings, rfl, hpure⟩
  · refine ⟨htold.attached hline, (hresult.trans hfails.symm).trans hfirst, ?_⟩
    rintro listing warnings rfl
    exact nomatch hresult
  · obtain ⟨hresult, rfl⟩ := Prod.mk.inj hpure
    obtain rfl := Except.ok.inj hresult
    refine ⟨htold.attached hline, hfirst, fun listing others heq => ?_⟩
    obtain ⟨rfl, -⟩ := OperationResult.success.inj heq
    show breakpointRecords (extractMiResultPayload info) = _
    rw [htold.payload hline (by decide), breakpointRecords, BreakpointDebugger.answer, s.gdb.honest.lists _ _ hfirst.symm,
      asRecordList_rows]

/-! ### Breakpoints -/

theorem ok_of_confirmInsert {location error : String} {blocked : List Int} {records : List Value} {info : BreakpointInfo}
    {warnings : List String} (h : confirmInsert location error blocked records = .ok (.success info warnings)) :
    findBreakpointForLocation records location = some info.breakpoint := by
  obtain ⟨blockedRecords, -, hrest⟩ := ok_of_except_bind h
  cases hfound : findBreakpointForLocation records location with
  | none =>
      rw [hfound] at hrest
      exact nomatch Except.ok.inj hrest
  | some created =>
      rw [hfound] at hrest
      obtain ⟨number, -, hreport⟩ := ok_of_except_bind hrest
      cases hblocked : number.filter (· ∈ blocked) with
      | some k =>
          rw [hblocked] at hreport
          exact nomatch Except.ok.inj hreport
      | none =>
          rw [hblocked] at hreport
          obtain ⟨rfl, -⟩ := OperationResult.success.inj (Except.ok.inj hreport)
          rfl

/-- A success behind a blocked insertion is the first row of the inventory with that location. -/
theorem ok_of_attributeInsertFailure (hs : s.runtime.hasController = true) {location message code : String} {fatal : Bool}
    {details : Payload} {info : BreakpointInfo} {warnings : List String}
    (hrun : (attributeInsertFailure location message fatal details code).run s = (.ok (.success info warnings), s')) :
    ∃ row, s.gdb.inventory.find? (fun row => hasLocation location row.toValue) = some row ∧ info.breakpoint = row.toValue := by
  obtain ⟨blocked, s₁, hblocked, hrest⟩ := ok_of_run_bind hrun
  obtain ⟨-, rfl⟩ := ok_of_narrow hblocked
  split at hrest
  · exact nomatch Except.ok.inj (Prod.mk.inj hrest).1
  · obtain ⟨listing, s₂, hlists, hconfirms⟩ := ok_of_run_bind hrest
    have hlisted := listBreakpoints_listed hs hlists
    cases listing with
    | error message fatal details code => exact nomatch Except.ok.inj (Prod.mk.inj hconfirms).1
    | success listing others =>
        obtain ⟨hconfirm, -⟩ := ok_of_narrow hconfirms
        have hfound := ok_of_confirmInsert hconfirm
        rw [hlisted.value listing others rfl, findBreakpointForLocation_rows] at hfound
        obtain ⟨row, hrow, hvalue⟩ := Option.map_eq_some_iff.mp hfound
        exact ⟨row, hrow, hvalue.symm⟩

theorem ok_of_insertReport {location : String} {command : CommandExecutionInfo} {info : BreakpointInfo}
    {warnings : List String} (h : insertReport location command = .success info warnings) :
    info.breakpoint = breakpointRecord (extractMiResultPayload command) := by
  unfold insertReport at h
  split at h
  · exact nomatch h
  · split at h
    · exact nomatch h
    · obtain ⟨rfl, -⟩ := OperationResult.success.inj h
      rfl

theorem breakpointRecord_of_get {payload : Value} {row : BreakpointRow} (h : payload.get "bkpt" = row.toValue) :
    breakpointRecord payload = row.toValue := by
  cases payload with
  | dict fields =>
      have hfield : (fields.lookup "bkpt").getD .none = row.toValue := h
      cases hlookup : fields.lookup "bkpt" with
      | none =>
          rw [hlookup] at hfield
          exact nomatch hfield
      | some value =>
          rw [hlookup] at hfield
          obtain rfl : value = row.toValue := hfield
          show (((fields.lookup "bkpt").getD _).asDict) = _
          rw [hlookup]
          rfl
  | _ => exact nomatch h

/-- The first row with the location is new exactly if no old row has the location. -/
theorem isNew_find_iff {inventory : List BreakpointRow} {answer : BreakpointAnswer inventory} {p : BreakpointRow → Bool}
    {row : BreakpointRow} (h : (inventory ++ answer.created.toList).find? p = some row) :
    IsNew inventory row.toValue ↔ ∀ old ∈ inventory, p old = false := by
  rw [List.find?_append] at h
  rw [isNew_toValue]
  cases hold : inventory.find? p with
  | some old =>
      rw [hold] at h
      obtain rfl : old = row := Option.some.inj h
      have hmem := List.mem_of_find?_eq_some hold
      refine iff_of_false (fun h => h old hmem rfl) fun h => ?_
      exact absurd ((List.find?_some hold).symm.trans (h old hmem)) (by decide)
  | none =>
      rw [hold, Option.none_or] at h
      refine iff_of_true (answer.fresh row ?_) fun old hmem => ?_
      · exact Option.mem_toList.mp (List.mem_of_find?_eq_some h)
      · simpa using List.find?_eq_none.mp hold old hmem

/-- A breakpoint that is reported is new if GDB takes the insertion, or has no breakpoint at this location yet. -/
theorem setBreakpoint_new (hs : s.runtime.hasController = true) {location : String} {condition : Option String}
    {temporary : Bool} {info : BreakpointInfo} {warnings : List String}
    (hrun : (setBreakpoint location condition temporary).run s = (.ok (.success info warnings), s')) :
    IsNew s.gdb.inventory info.breakpoint ↔
      (s.gdb.answer (breakInsertCommand location condition temporary)).accepted = true ∨
        ∀ old ∈ s.gdb.inventory, hasLocation location old.toValue = false := by
  have hline := actualCommand_breakInsert location condition temporary
  have hinserted := s.gdb.inventory_inserted location condition temporary
  have hinserts := s.gdb.honest.inserts s.gdb.count s.gdb.inventory location condition temporary
  have hmi := isCliCommand_breakInsert location condition temporary
  obtain ⟨first, s₁, hquery, hrest⟩ := ok_of_run_bind hrun
  have htold := query_told hs hquery
  generalize breakInsertCommand location condition temporary = command at *
  have hfirst := htold.accepted hline
  cases first with
  | success value others =>
      refine iff_of_true ?_ (.inl hfirst.symm)
      obtain ⟨hreport, -⟩ := Prod.mk.inj hrest
      obtain ⟨row, hcreated, hget⟩ := hinserts hfirst.symm
      have hrecord : breakpointRecord (extractMiResultPayload value) = row.toValue := by
        rw [htold.payload hline hmi]
        exact breakpointRecord_of_get hget
      rw [ok_of_insertReport (Except.ok.inj hreport), hrecord, isNew_toValue]
      exact (s.gdb.answer command).fresh row hcreated
  | error message fatal details code =>
      have hrefused : ¬(s.gdb.answer command).accepted = true := by rw [← hfirst]; exact Bool.false_ne_true
      have hattached := htold.attached hline
      obtain ⟨row, hfound, hinfo⟩ := ok_of_attributeInsertFailure hattached.hasController hrest
      rw [hattached.gdb, hinserted] at hfound
      rw [hinfo, or_iff_right hrefused]
      exact isNew_find_iff hfound

/-! ### Catchpoints -/

/-- The number is one of a catchpoint. -/
def IsCatch (rows : List BreakpointRow) (n : Int) : Prop :=
  ∃ row ∈ rows, isCatchpoint row.toValue = true ∧ row.number.value = some n

theorem isCatch_append {rows later : List BreakpointRow} {n : Int} :
    IsCatch (rows ++ later) n ↔ IsCatch rows n ∨ IsCatch later n := by
  simp only [IsCatch, List.mem_append, or_and_right, exists_or]

theorem catchpointNumbers_listed (hs : s.runtime.hasController = true) {numbers : Option (List Int)}
    (hrun : catchpointNumbers.run s = (.ok numbers, s')) : AttachedTo (s.gdb.asked "-break-list") s' ∧
      numbers.isSome = (s.gdb.answer "-break-list").accepted ∧
      ∀ known, numbers = some known → ∀ n, n ∈ known ↔ IsCatch s.gdb.inventory n := by
  obtain ⟨listing, s₁, hlists, hrest⟩ := ok_of_run_bind hrun
  have hlisted := listBreakpoints_listed hs hlists
  cases listing with
  | error message fatal details code =>
      obtain ⟨hnumbers, rfl⟩ := Prod.mk.inj hrest
      obtain rfl := Except.ok.inj hnumbers
      exact ⟨hlisted.settled, hlisted.isSuccess, nofun⟩
  | success listing warnings =>
      obtain ⟨known, hread, hnumbers⟩ := ok_of_run_map hrest
      obtain ⟨hknown, rfl⟩ := ok_of_narrow hread
      obtain rfl := hnumbers
      refine ⟨hlisted.settled, hlisted.isSuccess, fun known' heq n => ?_⟩
      obtain rfl := Option.some.inj heq
      rw [hlisted.value listing warnings rfl] at hknown
      exact catchpointNumbersOf_rows hknown n

theorem ok_of_breakpointInfoForNumber (hs : s.runtime.hasController = true) {number : Int} {details : Payload}
    {info : BreakpointInfo} {warnings : List String}
    (hrun : (breakpointInfoForNumber number details).run s = (.ok (.success info warnings), s')) :
    ∃ row ∈ s.gdb.inventory, info.breakpoint = row.toValue ∧ row.number.value = some number := by
  obtain ⟨listing, s₁, hlists, hrest⟩ := ok_of_run_bind hrun
  have hlisted := listBreakpoints_listed hs hlists
  cases listing with
  | error message fatal details code => exact nomatch Except.ok.inj (Prod.mk.inj hrest).1
  | success listing others =>
      obtain ⟨found, s₂, hread, hreport⟩ := ok_of_run_bind hrest
      obtain ⟨hfound, rfl⟩ := ok_of_narrow hread
      rw [hlisted.value listing others rfl] at hfound
      cases found with
      | none => exact nomatch Except.ok.inj (Prod.mk.inj hreport).1
      | some record =>
          obtain ⟨row, hrow, hrecord, hnumber⟩ := findBreakpointRecord_rows hfound
          obtain ⟨rfl, -⟩ := OperationResult.success.inj (Except.ok.inj (Prod.mk.inj hreport).1)
          exact ⟨row, hrow, hrecord, hnumber⟩

/-- The number that is inferred is of no old catchpoint, if these are known; else it is the largest one. -/
theorem newestNumber_new {inventory : List BreakpointRow} (answer : BreakpointAnswer inventory) {previous : Option (List Int)}
    {current : List Int} {n : Int} (hprevious : ∀ known, previous = some known → ∀ m, m ∈ known ↔ IsCatch inventory m)
    (hcurrent : ∀ m, m ∈ current ↔ IsCatch (inventory ++ answer.created.toList) m)
    (hn : newestNumber previous current = some n) :
    (∀ old ∈ inventory, old.number.value ≠ some n) ↔
      previous.isSome = true ∨ ∃ row ∈ answer.created, isCatchpoint row.toValue = true ∧
        ∃ k, row.number.value = some k ∧ ∀ m, IsCatch inventory m → m ≤ k := by
  have hcreated : ∀ m, IsCatch answer.created.toList m ↔
      ∃ row ∈ answer.created, isCatchpoint row.toValue = true ∧ row.number.value = some m := by
    intro m
    simp only [IsCatch, Option.mem_toList]
    rfl
  cases previous with
  | some known =>
      obtain ⟨hmem, -⟩ := List.max?_eq_some_iff.mp hn
      obtain ⟨hnow, hbefore⟩ := List.mem_filter.mp hmem
      have hnew : ¬IsCatch inventory n := fun h => absurd ((hprevious known rfl n).mpr h) (of_decide_eq_true hbefore)
      obtain ⟨row, hrow, -, hvalue⟩ := (hcreated n).mp ((isCatch_append.mp ((hcurrent n).mp hnow)).resolve_left hnew)
      exact iff_of_true (answer.fresh_value hrow hvalue) (.inl rfl)
  | none =>
      obtain ⟨hnow, hmax⟩ := List.max?_eq_some_iff.mp hn
      have hnow' := isCatch_append.mp ((hcurrent n).mp hnow)
      rw [or_iff_right (by decide)]
      constructor
      · intro hnew
        have hnone : ¬IsCatch inventory n := fun ⟨old, hold, _, hvalue⟩ => hnew old hold hvalue
        obtain ⟨row, hrow, hcatch, hvalue⟩ := (hcreated n).mp (hnow'.resolve_left hnone)
        exact ⟨row, hrow, hcatch, n, hvalue, fun m hm => hmax m ((hcurrent m).mpr (isCatch_append.mpr (.inl hm)))⟩
      · rintro ⟨row, hrow, hcatch, k, hvalue, hlargest⟩
        have hk : k ≤ n := hmax k ((hcurrent k).mpr (isCatch_append.mpr (.inr ((hcreated k).mpr ⟨row, hrow, hcatch, hvalue⟩))))
        have hn : n = k := by
          rcases hnow' with hold | hown
          · exact le_antisymm (hlargest n hold) hk
          · obtain ⟨row', hrow', -, hvalue'⟩ := (hcreated n).mp hown
            obtain rfl : row = row' := Option.mem_unique hrow hrow'
            exact Option.some.inj (hvalue'.symm.trans hvalue)
        exact answer.fresh_value hrow (hn ▸ hvalue)

theorem ok_of_confirmCatchpoint (hs : s.runtime.hasController = true) {kind : CatchpointType} {previous : Option (List Int)}
    {output : String} {info : BreakpointInfo} {warnings : List String}
    (hrun : (confirmCatchpoint kind previous output).run s = (.ok (.success info warnings), s')) :
    ∃ (row : BreakpointRow) (n : Int), info.breakpoint = row.toValue ∧ row.number.value = some n ∧
      (extractCatchpointNumber output = .ok (some n) ∨ extractCatchpointNumber output = .ok none ∧
        ∃ current, (∀ m, m ∈ current ↔ IsCatch s.gdb.inventory m) ∧ newestNumber previous current = some n) := by
  obtain ⟨named, s₁, hread, hrest⟩ := ok_of_run_bind hrun
  obtain ⟨hnamed, rfl⟩ := ok_of_narrow hread
  obtain ⟨number, s₂, hnumber, hreports⟩ := ok_of_run_bind hrest
  cases named with
  | some k =>
      obtain ⟨hk, rfl⟩ := Prod.mk.inj hnumber
      obtain rfl := Except.ok.inj hk
      obtain ⟨row, -, hinfo, hvalue⟩ := ok_of_breakpointInfoForNumber hs hreports
      exact ⟨row, k, hinfo, hvalue, .inl hnamed⟩
  | none =>
      obtain ⟨numbers, s₃, hcatches, hinfers⟩ := ok_of_run_bind hnumber
      obtain ⟨hattached, -, hknown⟩ := catchpointNumbers_listed hs hcatches
      cases numbers with
      | none =>
          obtain ⟨hnone, rfl⟩ := Prod.mk.inj hinfers
          obtain rfl := Except.ok.inj hnone
          exact nomatch Except.ok.inj (Prod.mk.inj hreports).1
      | some current =>
          obtain ⟨hnewest, rfl⟩ := Prod.mk.inj hinfers
          obtain rfl := Except.ok.inj hnewest
          cases hnew : newestNumber previous current with
          | none =>
              rw [hnew] at hreports
              exact nomatch Except.ok.inj (Prod.mk.inj hreports).1
          | some n =>
              rw [hnew] at hreports
              obtain ⟨row, -, hinfo, hvalue⟩ := ok_of_breakpointInfoForNumber hattached.hasController hreports
              exact ⟨row, n, hinfo, hvalue, .inr ⟨hnamed, current, hknown current rfl, hnew⟩⟩

/-- A catchpoint that is reported is new if the first listing succeeds, or GDB says its number, or it has the largest
number of all catchpoints. -/
theorem setCatchpoint_new (hs : s.runtime.hasController = true) {kind : CatchpointType} {argument : Option String}
    {temporary : Bool} {info : BreakpointInfo} {warnings : List String}
    (hrun : (setCatchpoint kind argument temporary).run s = (.ok (.success info warnings), s')) :
    IsNew s.gdb.inventory info.breakpoint ↔
      (s.gdb.answer "-break-list").accepted = true ∨
        (∃ n, extractCatchpointNumber (s.gdb.catchAnswer kind argument temporary).output = .ok (some n)) ∨
        ∃ row ∈ (s.gdb.catchAnswer kind argument temporary).created, isCatchpoint row.toValue = true ∧
          ∃ k, row.number.value = some k ∧ ∀ m, IsCatch s.gdb.inventory m → m ≤ k := by
  have hline := actualCommand_catch kind argument temporary
  have hcli := isCliCommand_catch kind argument temporary
  have hasked := (s.gdb.asked "-break-list").inventory_asked (catch_ne_inventoryLine kind argument temporary)
  have hcatches := s.gdb.honest.catches (s.gdb.asked "-break-list").count (s.gdb.asked "-break-list").inventory kind argument
    temporary
  obtain ⟨previous, s₁, hfirst, hrest⟩ := ok_of_run_bind hrun
  obtain ⟨hattached, hsome, hknown⟩ := catchpointNumbers_listed hs hfirst
  obtain ⟨first, s₂, hquery, hconfirms⟩ := ok_of_run_bind hrest
  have htold := query_told hattached.hasController hquery
  have hattached₂ := htold.attached hline
  rcases ok_of_orReturn hconfirms with ⟨-, hfails, -⟩ | ⟨value, others, rfl, hconfirm⟩
  · exact nomatch hfails
  have haccepted := htold.accepted hline
  have houtput := htold.output hline hcli
  rw [hattached.gdb] at hattached₂ haccepted houtput
  rw [houtput] at hconfirm
  obtain ⟨row, n, hinfo, hvalue, hsource⟩ := ok_of_confirmCatchpoint hattached₂.hasController hconfirm
  rw [hattached₂.gdb, hasked] at hsource
  rw [← s.gdb.inventory_listed] at hknown
  rw [← hsome, ← s.gdb.inventory_listed, hinfo, isNew_iff_of_value hvalue]
  rcases hsource with hsaid | ⟨hunsaid, current, hcurrent, hnewest⟩
  · obtain ⟨created, hcreated, hnumber⟩ := hcatches n haccepted.symm hsaid
    exact iff_of_true (BreakpointAnswer.fresh_value _ hcreated hnumber) (.inr (.inl ⟨n, hsaid⟩))
  · rw [newestNumber_new _ hknown hcurrent hnewest]
    refine or_congr_right ⟨.inr, fun h => h.resolve_left ?_⟩
    rintro ⟨m, hsaid⟩
    exact nomatch Except.ok.inj (hunsaid.symm.trans hsaid)

/-! ### Both -/

theorem hasController_of_setBreakpoint {location : String} {condition : Option String} {temporary : Bool} {info : BreakpointInfo}
    {warnings : List String} (hrun : (setBreakpoint location condition temporary).run s = (.ok (.success info warnings), s')) :
    s.runtime.hasController = true := by
  by_contra hdetached
  rw [Bool.not_eq_true] at hdetached
  have hnone : blockedBreakpointNumbers "No active GDB session" = .ok [] := by
    rw [blockedBreakpointNumbers, show insertBlocked "No active GDB session" = [] by decide +kernel]
    rfl
  obtain ⟨first, s₁, hquery, hrest⟩ := ok_of_run_bind hrun
  rw [query, executeCommandResult_detached hdetached] at hquery
  obtain ⟨hfirst, rfl⟩ := Prod.mk.inj hquery
  obtain rfl := Except.ok.inj hfirst
  obtain ⟨blocked, s₂, hblocked, hreport⟩ := ok_of_run_bind hrest
  obtain ⟨hnumbers, rfl⟩ := ok_of_narrow hblocked
  obtain rfl := Except.ok.inj (hnone.symm.trans hnumbers)
  cases Except.ok.inj (Prod.mk.inj hreport).1

theorem hasController_of_setCatchpoint {kind : CatchpointType} {argument : Option String} {temporary : Bool}
    {info : BreakpointInfo} {warnings : List String}
    (hrun : (setCatchpoint kind argument temporary).run s = (.ok (.success info warnings), s')) :
    s.runtime.hasController = true := by
  by_contra hdetached
  rw [Bool.not_eq_true] at hdetached
  have hquery : ∀ command, (query command).run s = (.ok (.error "No active GDB session"), s) := fun command =>
    executeCommandResult_detached hdetached command _ _
  have hlists : (listBreakpoints : SessionM BreakpointDebugger _).run s = (.ok (.error "No active GDB session"), s) := by
    rw [listBreakpoints, run_bind_ok (hquery _)]
    rfl
  have hnumbers : (catchpointNumbers : SessionM BreakpointDebugger _).run s = (.ok none, s) := by
    rw [catchpointNumbers, run_bind_ok hlists]
    rfl
  rw [setCatchpoint, run_bind_ok hnumbers, run_bind_ok (hquery _)] at hrun
  exact nomatch Except.ok.inj (Prod.mk.inj hrun).1

/-- A success reports a new breakpoint, unless the insertion was refused and an old breakpoint has the location, or a
catchpoint without a number in the output is looked up with no listing from before and is not the largest. -/
theorem reported_breakpoint_new_iff (s : Session BreakpointDebugger) :
    (∀ location condition temporary info warnings s',
      (setBreakpoint location condition temporary).run s = (.ok (.success info warnings), s') →
      (IsNew s.gdb.inventory info.breakpoint ↔
        (s.gdb.answer (breakInsertCommand location condition temporary)).accepted = true ∨
          ∀ old ∈ s.gdb.inventory, hasLocation location old.toValue = false)) ∧
    ∀ kind argument temporary info warnings s',
      (setCatchpoint kind argument temporary).run s = (.ok (.success info warnings), s') →
      (IsNew s.gdb.inventory info.breakpoint ↔
        (s.gdb.answer "-break-list").accepted = true ∨
          (∃ n, extractCatchpointNumber (s.gdb.catchAnswer kind argument temporary).output = .ok (some n)) ∨
          ∃ row ∈ (s.gdb.catchAnswer kind argument temporary).created, isCatchpoint row.toValue = true ∧
            ∃ k, row.number.value = some k ∧ ∀ m, IsCatch s.gdb.inventory m → m ≤ k) :=
  ⟨fun _ _ _ _ _ _ hrun => setBreakpoint_new (hasController_of_setBreakpoint hrun) hrun,
    fun _ _ _ _ _ _ hrun => setCatchpoint_new (hasController_of_setCatchpoint hrun) hrun⟩

/-! ### A blocked insertion -/

def rowAt (n : Nat) (location : String) : BreakpointRow where
  number := .breakpoint n
  fields := [("type", .str "breakpoint"), ("original-location", .str location)]

def blockedAnswers : BreakpointAnswers := fun _ line inventory =>
  if line = "-break-list" then
    { payload := .dict [("BreakpointTable", .dict [("body", .list (inventory.map BreakpointRow.toValue))])] }
  else
    { accepted := false
      payload := .dict [("msg", .str "Cannot insert breakpoint 2.\nCannot access memory at address 0x1138")] }

theorem accepted_blockedAnswers {count : Nat} {line : String} {inventory : List BreakpointRow}
    (h : (blockedAnswers count line inventory).accepted = true) : line = "-break-list" := by
  by_contra hne
  rw [blockedAnswers, if_neg hne] at h
  exact nomatch h

theorem honest_blockedAnswers : blockedAnswers.Honest where
  lists := fun _ _ _ => rfl
  listsOnly := fun _ _ => rfl
  inserts := by
    intro count inventory location condition temporary haccepted
    have hsplit := split_breakInsert location condition temporary
    rw [accepted_blockedAnswers haccepted, breakInsertWords] at hsplit
    exact absurd hsplit (by simp [show CString.split "-break-list" = some [.bare "-break-list"] by decide +kernel])
  catches := by
    intro count inventory kind argument temporary n answer haccepted
    have hsplit := split_wrapCli (catchCommand kind argument temporary)
    rw [accepted_blockedAnswers haccepted] at hsplit
    exact absurd hsplit (by simp [show CString.split "-break-list" = some [.bare "-break-list"] by decide +kernel])

/-- A debugger with a breakpoint at `main` and one that it cannot insert, which refuses every insertion. -/
def blockedDebugger : BreakpointDebugger where
  answers := blockedAnswers
  honest := honest_blockedAnswers
  inventory := [rowAt 1 "main", rowAt 2 "*0x1138"]

/-- A session with this debugger. -/
def blockedSession : Session BreakpointDebugger where
  runtime := { transport := { controller := some {} } }
  gdb := blockedDebugger

theorem old_breakpoint_reported : ∃ info warnings s',
    (setBreakpoint "main" none false).run blockedSession = (.ok (.success info warnings), s') ∧
      info.breakpoint = (rowAt 1 "main").toValue ∧ ¬IsNew blockedSession.gdb.inventory info.breakpoint := by
  refine ⟨_, _, _, rfl, rfl, fun h => ?_⟩
  have hnew : IsNew blockedDebugger.inventory (rowAt 1 "main").toValue := h
  exact isNew_toValue.mp hnew (rowAt 1 "main") List.mem_cons_self rfl

end Session

end GdbMcp
