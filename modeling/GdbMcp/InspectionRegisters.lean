import GdbMcp.InspectionSends
import GdbMcp.InspectionSwitch
import GdbMcp.RunnerNarrowing

/-! Which registers are asked for and which are returned. The names are looked up in the table of all names, and a second
listing gives the returned registers their names back, by position. -/

namespace GdbMcp

open Eff

variable {table : List String} {name : String} {numbers : List Int} {records : List Value}

/-! ### The table of the names -/

/-- The names of the table, without those that are empty. -/
def properNames (table : List String) : List String := (table.map PyStr.strip).filter (· ≠ "")

/-- The number of a register name. -/
def numberOf (table : List String) (name : String) : Option Int :=
  if name = "" then none else (table.findIdx? fun raw => PyStr.strip raw = name).map Int.ofNat

/-- The entry at a number. -/
def entryAt (table : List String) (number : Int) : String := if 0 ≤ number then table.getD number.toNat "" else ""

/-- The own name of a register record; a record without a usable number has none. -/
def ownName (table : List String) (record : Value) : String :=
  match asInt (record.get "number") with
  | .ok (some number) => PyStr.strip (entryAt table number)
  | _ => ""

theorem properNames_append (table : List String) (raw : String) :
    properNames (table ++ [raw]) = properNames table ++ properNames [raw] := by
  rw [properNames, List.map_append, List.filter_append]
  rfl

theorem mem_properNames (hname : name ≠ "") : name ∈ properNames table ↔ ∃ raw ∈ table, PyStr.strip raw = name := by
  rw [properNames, List.mem_filter, List.mem_map]
  simp [hname]

theorem numberOf_isSome (hname : name ≠ "") : (numberOf table name).isSome = true ↔ name ∈ properNames table := by
  rw [numberOf, if_neg hname, Option.isSome_map, List.findIdx?_isSome, List.any_eq_true, mem_properNames hname]
  simp

theorem registerNameIndex_append (table : List String) (raw : String) :
    registerNameIndex ((table ++ [raw]).map .str) =
      if PyStr.strip raw = "" then registerNameIndex (table.map .str)
      else (PyStr.strip raw, (table.length : Int)) :: registerNameIndex (table.map .str) := by
  rw [registerNameIndex, List.map_append, List.zipIdx_append, List.foldl_append]
  simp [registerNameIndex]

/-- With distinct names the index is the table, read backwards. -/
theorem lookup_registerNameIndex (hdistinct : (properNames table).Nodup) (name : String) :
    (registerNameIndex (table.map .str)).lookup name = numberOf table name := by
  induction table using List.reverseRecOn with
  | nil => cases name; simp [registerNameIndex, numberOf]
  | append_singleton table raw ih =>
      rw [properNames_append, List.nodup_append] at hdistinct
      obtain ⟨htable, -, hapart⟩ := hdistinct
      have ih := ih htable
      by_cases hempty : PyStr.strip raw = ""
      · rw [registerNameIndex_append, if_pos hempty, ih, numberOf, numberOf, List.findIdx?_append]
        by_cases hname : name = ""
        · rw [if_pos hname, if_pos hname]
        · have hother : ¬PyStr.strip raw = name := fun h => hname (h ▸ hempty)
          simp [hname, hother]
      · rw [registerNameIndex_append, if_neg hempty, List.lookup_cons]
        by_cases hsame : name = PyStr.strip raw
        · subst hsame
          have hnone : (numberOf table (PyStr.strip raw)).isSome = false := by
            rw [← Bool.not_eq_true, numberOf_isSome hempty]
            exact fun hmem => hapart _ hmem _ ((mem_properNames hempty).mpr ⟨raw, List.mem_singleton_self _, rfl⟩) rfl
          rw [numberOf, if_neg hempty, Option.isSome_map, Option.isSome_eq_false_iff, Option.isNone_iff_eq_none] at hnone
          rw [numberOf, if_neg hempty, List.findIdx?_append, hnone]
          simp
        · have hother : (name == PyStr.strip raw) = false := by simpa using hsame
          rw [hother]
          dsimp only
          rw [ih, numberOf, numberOf, List.findIdx?_append]
          have hother : ¬PyStr.strip raw = name := fun h => hsame h.symm
          simp [hother]

/-! ### The requested numbers -/

theorem nodup_foldl_addNumber {selected : List Int} (h : selected.Nodup) : (numbers.foldl addNumber selected).Nodup := by
  induction numbers generalizing selected with
  | nil => exact h
  | cons number rest ih =>
      refine ih ?_
      rw [addNumber]
      split
      · exact h
      · rename_i hnot
        refine List.nodup_append.mpr ⟨h, List.nodup_singleton _, fun x hx y hy => ?_⟩
        obtain rfl := List.mem_singleton.mp hy
        rintro rfl
        exact hnot (List.contains_iff_mem.mpr hx)

theorem foldl_addNumber (numbers : List Int) : numbers.foldl addNumber [] = numbers.eraseDups := by
  induction numbers using List.reverseRecOn with
  | nil => rfl
  | append_singleton numbers number ih =>
      rw [List.foldl_append, ih, List.eraseDups_append, List.foldl_cons, List.foldl_nil, addNumber, List.removeAll]
      by_cases hmem : number ∈ numbers
      · rw [if_pos (List.contains_iff_mem.mpr (List.mem_eraseDups.mpr hmem))]
        simp [hmem]
      · rw [if_neg fun h => hmem (List.mem_eraseDups.mp (List.contains_iff_mem.mp h))]
        simp only [List.filter_cons, List.filter_nil, List.elem_eq_mem, hmem, decide_false, Bool.not_false, if_true]
        rfl

theorem selectNames_eq (index : List (String × Int)) (names : List String) (selected : List Int) :
    selectNames index names selected =
      ((names.filterMap fun name => List.lookup name index).foldl addNumber selected,
        names.filter fun name => (List.lookup name index).isNone) := by
  induction names using List.reverseRecOn with
  | nil => rfl
  | append_singleton names name ih =>
      rw [selectNames, List.foldl_append, ← selectNames, ih, List.filterMap_append, List.filter_append]
      cases hnumber : List.lookup name index <;> simp [hnumber]

/-- The numbers that are asked for: the requested ones and those of the requested names, each where it is first mentioned. -/
def selectedNumbers (table : List String) (a : RegisterFilter) : List Int :=
  (a.registerNumbers ++ a.registerNames.filterMap (numberOf table)).eraseDups

def unknownNames (table : List String) (a : RegisterFilter) : List String :=
  a.registerNames.filter fun name => (numberOf table name).isNone

def unknownNamesMessage (names : List String) : String :=
  "Unknown register names: " ++ String.intercalate ", " (names.mergeSort fun s t => decide (s ≤ t))

theorem nodup_selectedNumbers (table : List String) (a : RegisterFilter) : (selectedNumbers table a).Nodup := by
  rw [selectedNumbers, ← foldl_addNumber]
  exact nodup_foldl_addNumber .nil

theorem mem_selectedNumbers {a : RegisterFilter} {k : Int} :
    k ∈ selectedNumbers table a ↔ k ∈ a.registerNumbers ∨ ∃ name ∈ a.registerNames, numberOf table name = some k := by
  rw [selectedNumbers, List.mem_eraseDups, List.mem_append, List.mem_filterMap]

/-! ### The second listing -/

/-- The numbers of the records are read if and only if none of them is a text of rejected digits. -/
theorem registerNumbersOf_isOk :
    (∃ numbers, registerNumbersOf records = .ok numbers) ↔ ∀ r ∈ records, PlainNumber (r.get "number") := by
  induction records with
  | nil => exact iff_of_true ⟨_, rfl⟩ nofun
  | cons r rest ih =>
      rw [List.forall_mem_cons, ← ih, ← narrows_asInt, registerNumbersOf]
      cases asInt (r.get "number") with
      | error => exact iff_of_false nofun fun h => nomatch h.1
      | ok number =>
          cases registerNumbersOf rest with
          | error => exact iff_of_false nofun fun h => nomatch h.2
          | ok numbers => exact iff_of_true ⟨_, rfl⟩ ⟨⟨_, rfl⟩, ⟨_, rfl⟩⟩

/-- Every record's number is among the numbers read. -/
theorem number_of_mem {r : Value} (h : registerNumbersOf records = .ok numbers) (hr : r ∈ records) :
    ∃ number, asInt (r.get "number") = .ok number ∧ ∀ k ∈ number, k ∈ numbers := by
  induction records generalizing numbers with
  | nil => cases hr
  | cons first rest ih =>
      obtain ⟨number, hnumber, h⟩ := ok_of_except_bind h
      obtain ⟨others, hothers, h⟩ := ok_of_except_bind h
      obtain rfl := Except.ok.inj h
      rcases List.mem_cons.mp hr with rfl | hr
      · exact ⟨number, hnumber, fun k hk => List.mem_append_left _ (Option.mem_toList.mpr hk)⟩
      · obtain ⟨own, hown, hmem⟩ := ih hothers hr
        exact ⟨own, hown, fun k hk => List.mem_append_right _ (hmem k hk)⟩

/-- The listing of the names at some numbers. -/
def namesAt (table : List String) (numbers : List Int) : List Value := numbers.map fun k => .str (entryAt table k)

theorem lookup_foldl_names (k : Int) (numbers : List Int) : ∀ mapping : List (Int × String),
    List.lookup k ((numbers.zip (namesAt table numbers)).foldl
      (fun mapping (number, name) =>
        match name with
        | .str raw => (number, PyStr.strip raw) :: mapping
        | _ => mapping) mapping) =
      if k ∈ numbers then some (PyStr.strip (entryAt table k)) else List.lookup k mapping := by
  induction numbers with
  | nil => exact fun _ => rfl
  | cons first rest ih =>
      intro mapping
      rw [namesAt, List.map_cons, List.zip_cons_cons, List.foldl_cons, ← namesAt, ih]
      by_cases hrest : k ∈ rest
      · rw [if_pos hrest, if_pos (List.mem_cons_of_mem _ hrest)]
      · rw [if_neg hrest, List.lookup_cons]
        by_cases hfirst : k = first
        · subst hfirst
          rw [beq_self_eq_true, if_pos List.mem_cons_self]
        · rw [beq_false_of_ne hfirst, if_neg fun h => (List.mem_cons.mp h).elim hfirst hrest]

theorem lookup_registerNameMap {k : Int} (hk : k ∈ numbers) :
    List.lookup k (registerNameMap numbers (namesAt table numbers)) = some (PyStr.strip (entryAt table k)) :=
  (lookup_foldl_names k numbers []).trans (if_pos hk)

/-- The records that are kept are those whose own names are no vector names. -/
theorem filterVectorRegisters_named (table : List String) {nameMap : List (Int × String)}
    (h : ∀ r ∈ records, ∃ number, asInt (r.get "number") = .ok number ∧
      ∀ k ∈ number, List.lookup k nameMap = some (PyStr.strip (entryAt table k))) :
    filterVectorRegisters nameMap records = .ok (records.filter fun r => !isVectorRegisterName (ownName table r)) := by
  induction records with
  | nil => rfl
  | cons r rest ih =>
      obtain ⟨⟨number, hnumber, hname⟩, hrest⟩ := List.forall_mem_cons.mp h
      have hown : (number.bind fun k => List.lookup k nameMap).getD "" = ownName table r := by
        rw [ownName, hnumber]
        cases number with
        | none => rfl
        | some k => rw [Option.bind_some, hname k rfl]; rfl
      have hempty : isVectorRegisterName "" = false := by decide
      have hvector : (decide (ownName table r ≠ "") && isVectorRegisterName (ownName table r)) =
          isVectorRegisterName (ownName table r) := by
        by_cases hname : ownName table r = ""
        · rw [hname, hempty, Bool.and_false]
        · rw [decide_eq_true hname, Bool.true_and]
      rw [filterVectorRegisters, hnumber, ih hrest, List.filter_cons]
      change Except.ok (if (decide (_ ≠ "") && _) = true then _ else _) = _
      rw [hown, hvector]
      cases isVectorRegisterName (ownName table r) <;> rfl

/-- The records that are left when vector registers may not be wanted. -/
def keptRecords (table : List String) (a : RegisterFilter) (records : List Value) : List Value :=
  if a.includeVectorRegisters then records else records.filter fun r => !isVectorRegisterName (ownName table r)

namespace Session

variable {s s₁ s₂ : Session Debugger} {a : RegisterFilter} {command : String} {lines later : List String}

/-! ### The queries -/

/-- The debugger has been asked some command lines, and is otherwise the same. -/
structure Asks (s s' : Session Debugger) (lines : List String) : Prop where
  log : s'.gdb.log.map Prod.fst = s.gdb.log.map Prod.fst ++ lines
  answers : s'.gdb.answers = s.gdb.answers
  hasController : s'.runtime.hasController = true

theorem Asks.refl (hs : s.runtime.hasController = true) : Asks s s [] := ⟨(List.append_nil _).symm, rfl, hs⟩

theorem Asks.trans (h : Asks s s₁ lines) (h' : Asks s₁ s₂ later) : Asks s s₂ (lines ++ later) :=
  ⟨by rw [h'.log, h.log, List.append_assoc], h'.answers.trans h.answers, h'.hasController⟩

theorem Sent.asks (h : Sent s command s₁) : Asks s s₁ [command] :=
  ⟨by rw [h.gdb, Debugger.asked, List.map_append]; rfl, by rw [h.gdb]; rfl, h.hasController⟩

theorem AnswersWith.asked {P : Value → Prop} (hanswers : AnswersWith s command P) (h : Asks s s₁ lines) :
    AnswersWith s₁ command P := by
  rw [AnswersWith, h.answers]
  exact hanswers

/-- A payload with a listing of names. -/
def ListsNames (names : List Value) (payload : Value) : Prop := payload.get "register-names" = .list names

/-- The debugger lists the names of the table, and those at the numbers of the records that it returns. -/
structure AnswersRegisters (s : Session Debugger) (table : List String) (a : RegisterFilter) (records : List Value) : Prop where
  names : AnswersWith s "-data-list-register-names" (ListsNames (table.map .str))
  values : AnswersWith s (registerValuesCommand a.hex (selectedNumbers table a))
    fun payload => asRecordList (payload.get "register-values") = records
  subset : ∀ numbers, registerNumbersOf records = .ok numbers →
    AnswersWith s ("-data-list-register-names " ++ spaceSeparated numbers) (ListsNames (namesAt table numbers))

theorem registerNames_listed {names : List Value} {payload : Value} (h : ListsNames names payload) :
    registerNames payload = .success names := by
  have hdict : payload.isDict = true := by
    cases payload with
    | dict => rfl
    | _ => exact nomatch h
  rw [registerNames, if_pos hdict, h]

theorem registerNameToNumberIndex_answered (hs : s.runtime.hasController = true)
    (hnames : AnswersWith s "-data-list-register-names" (ListsNames (table.map .str))) :
    wp registerNameToNumberIndex
      (fun result s' => result = .success (registerNameIndex (table.map .str)) ∧ Asks s s' ["-data-list-register-names"])
      (fun _ _ => False) s := by
  rw [registerNameToNumberIndex, wp_bind]
  refine wp_mono (query_answered hs (by decide) hnames) (fun result s₁ ⟨hsent, h⟩ => ?_) fun _ _ h => h
  obtain ⟨info, warnings, rfl, hlisted⟩ := h
  change wp (orReturn (registerNames (extractMiResultPayload info)) _) _ _ s₁
  rw [registerNames_listed hlisted]
  exact ⟨rfl, hsent.asks⟩

/-- The listing of all names, which is needed only where names are requested. -/
def nameLines (a : RegisterFilter) : List String := if a.registerNames.isEmpty then [] else ["-data-list-register-names"]

/-- The requested numbers and names are resolved to the selected numbers, or the unknown names are reported. -/
theorem resolveRegisterNumberFilters_answered (hs : s.runtime.hasController = true)
    (hnames : AnswersWith s "-data-list-register-names" (ListsNames (table.map .str))) (hdistinct : (properNames table).Nodup) :
    wp (resolveRegisterNumberFilters a)
      (fun result s' => result = (if unknownNames table a = [] then .success (selectedNumbers table a)
        else .error (unknownNamesMessage (unknownNames table a))) ∧ Asks s s' (nameLines a))
      (fun _ _ => False) s := by
  have hselect : selectNames (registerNameIndex (table.map .str)) a.registerNames (a.registerNumbers.foldl addNumber []) =
      (selectedNumbers table a, unknownNames table a) := by
    rw [selectNames_eq, ← List.foldl_append, foldl_addNumber, selectedNumbers, unknownNames]
    simp only [lookup_registerNameIndex hdistinct]
  rw [resolveRegisterNumberFilters]
  split
  · rename_i hnone
    have hnone' : a.registerNames = [] := List.isEmpty_iff.mp hnone
    refine (wp_pure _).mpr ⟨?_, by rw [nameLines, if_pos hnone]; exact .refl hs⟩
    rw [unknownNames, selectedNumbers, hnone', foldl_addNumber]
    simp
  · rename_i hsome
    rw [wp_bind]
    refine wp_mono (registerNameToNumberIndex_answered hs hnames) (fun result s₁ ⟨hresult, hasks⟩ => ?_) fun _ _ h => h
    subst hresult
    rw [nameLines, if_neg hsome]
    let selection := selectNames (registerNameIndex (table.map .str)) a.registerNames (a.registerNumbers.foldl addNumber [])
    change wp (if selection.2.isEmpty then pure (OperationResult.success selection.1)
      else pure (OperationResult.error (unknownNamesMessage selection.2))) _ _ s₁
    rw [show selection = _ from hselect]
    dsimp only
    cases unknownNames table a with
    | nil => exact ⟨rfl, hasks⟩
    | cons => exact ⟨rfl, hasks⟩

/-- The listing of the names at some numbers, which is needed only where there are numbers. -/
def listingLines (numbers : List Int) : List String :=
  if numbers.isEmpty then [] else ["-data-list-register-names " ++ spaceSeparated numbers]

def omitLines (records : List Value) : List String :=
  match registerNumbersOf records with
  | .ok numbers => listingLines numbers
  | .error _ => []

theorem wp_narrow {α : Type} {x : Except PyError α} {Q : α → Session Debugger → Prop} {R : PyError → Session Debugger → Prop} :
    wp (narrow x) Q R s ↔ (∀ a, x = .ok a → Q a s) ∧ ∀ e, x = .error e → R e s := by
  rw [narrow, onRuntime, wp_zoom, wp_ofExcept]

theorem loadRegisterNameMap_answered (hs : s.runtime.hasController = true)
    (hnumbers : registerNumbersOf records = .ok numbers)
    (hsubset : AnswersWith s ("-data-list-register-names " ++ spaceSeparated numbers) (ListsNames (namesAt table numbers))) :
    wp (loadRegisterNameMap records)
      (fun result s' => (∃ nameMap, result = .success nameMap ∧
        ∀ k ∈ numbers, List.lookup k nameMap = some (PyStr.strip (entryAt table k))) ∧ Asks s s' (listingLines numbers))
      (fun _ _ => False) s := by
  rw [loadRegisterNameMap, wp_bind, wp_narrow]
  refine ⟨fun read hread => ?_, fun e he => nomatch hnumbers.symm.trans he⟩
  obtain rfl := Except.ok.inj (hnumbers.symm.trans hread)
  rw [listingLines]
  split
  · rename_i hnone
    rw [List.isEmpty_iff] at hnone
    subst hnone
    exact ⟨⟨[], rfl, nofun⟩, .refl hs⟩
  · rw [wp_bind]
    have hcommand := PyStr.startswith_append_left (p := "-data-list-register-names ") (q := "-") (by decide)
      (spaceSeparated numbers)
    refine wp_mono (query_answered hs hcommand hsubset) (fun result s₁ ⟨hsent, h⟩ => ?_) fun _ _ h => h
    obtain ⟨info, warnings, rfl, hlisted⟩ := h
    change wp (orReturn (registerNames (extractMiResultPayload info)) _) _ _ s₁
    rw [registerNames_listed hlisted]
    exact ⟨⟨_, rfl, fun k hk => lookup_registerNameMap hk⟩, hsent.asks⟩

/-- The vector registers are omitted, unless the number of a record is a text of rejected digits. -/
theorem omitVectorRegisters_answered (hs : s.runtime.hasController = true)
    (hsubset : ∀ numbers, registerNumbersOf records = .ok numbers →
      AnswersWith s ("-data-list-register-names " ++ spaceSeparated numbers) (ListsNames (namesAt table numbers))) :
    wp (omitVectorRegisters records)
      (fun result s' => (∀ r ∈ records, PlainNumber (r.get "number")) ∧
        result = .success (records.filter fun r => !isVectorRegisterName (ownName table r)) ∧ Asks s s' (omitLines records))
      (fun _ _ => ¬∀ r ∈ records, PlainNumber (r.get "number")) s := by
  rw [omitVectorRegisters, wp_bind, ← registerNumbersOf_isOk]
  cases hnumbers : registerNumbersOf records with
  | error e =>
      rw [loadRegisterNameMap, wp_bind, wp_narrow, hnumbers]
      exact ⟨nofun, fun _ _ => nofun⟩
  | ok numbers =>
      refine wp_mono (loadRegisterNameMap_answered hs hnumbers (hsubset _ hnumbers))
        (fun result s₁ ⟨hresult, hasks⟩ => ?_) fun _ _ h => h.elim
      obtain ⟨nameMap, rfl, hnames⟩ := hresult
      have hkept := filterVectorRegisters_named table fun r hr => by
        obtain ⟨number, hnumber, hmem⟩ := number_of_mem hnumbers hr
        exact ⟨number, hnumber, fun k hk => hnames k (hmem k hk)⟩
      change wp (narrow (filterVectorRegisters nameMap records) >>= _) _ _ s₁
      rw [wp_bind, wp_narrow, hkept, omitLines, hnumbers]
      refine ⟨fun kept heq => ?_, nofun⟩
      obtain rfl := Except.ok.inj heq
      exact ⟨⟨_, rfl⟩, rfl, hasks⟩

/-- The listings of a selection that may omit the vector registers. -/
def selectLines (a : RegisterFilter) (records : List Value) : List String :=
  if a.includeVectorRegisters then [] else omitLines records

theorem selectRegisters_answered (hs : s.runtime.hasController = true)
    (hsubset : ∀ numbers, registerNumbersOf records = .ok numbers →
      AnswersWith s ("-data-list-register-names " ++ spaceSeparated numbers) (ListsNames (namesAt table numbers))) :
    wp (selectRegisters a records)
      (fun result s' => (a.includeVectorRegisters = true ∨ ∀ r ∈ records, PlainNumber (r.get "number")) ∧
        result = .success (keptRecords table a records) ∧ Asks s s' (selectLines a records))
      (fun _ _ => ¬(a.includeVectorRegisters = true ∨ ∀ r ∈ records, PlainNumber (r.get "number"))) s := by
  rw [selectRegisters, keptRecords, selectLines]
  cases hinclude : a.includeVectorRegisters with
  | true => exact ⟨.inl rfl, rfl, .refl hs⟩
  | false =>
      refine wp_mono (omitVectorRegisters_answered hs hsubset) (fun _ _ h => ?_) fun _ _ h => ?_
      · exact ⟨.inr h.1, h.2.1, h.2.2⟩
      · exact fun hor => hor.elim (fun h => by cases h) h

def returnedRegisters (table : List String) (a : RegisterFilter) (records : List Value) : RegistersInfo :=
  { registers := a.maxRegisters.elim (keptRecords table a records) (sliceTo (keptRecords table a records)) }

/-- The outcome of an exact selection. Unknown names are reported, all of them and no others; else the numbers of the
requested numbers and names are asked for, and of the records those that are wanted are returned. -/
def ExactOutcome (s : Session Debugger) (table : List String) (a : RegisterFilter) (records : List Value)
    (result : OperationResult RegistersInfo) (s' : Session Debugger) : Prop :=
  if unknownNames table a = [] then
    result = .success (returnedRegisters table a records) ∧
      Asks s s' (nameLines a ++ registerValuesCommand a.hex (selectedNumbers table a) :: selectLines a records)
  else result = .error (unknownNamesMessage (unknownNames table a)) ∧ Asks s s' (nameLines a)

def SelectsExactly (s : Session Debugger) (table : List String) (a : RegisterFilter) (records : List Value) : Prop :=
  wp (queryRegisters a) (ExactOutcome s table a records) (fun _ _ => False) s

/-- The records whose numbers matter hold no rejected digits there. -/
def PlainRecords (table : List String) (a : RegisterFilter) (records : List Value) : Prop :=
  unknownNames table a ≠ [] ∨ a.includeVectorRegisters = true ∨ ∀ r ∈ records, PlainNumber (r.get "number")

theorem queryRegisters_answered (hs : s.runtime.hasController = true) (hdistinct : (properNames table).Nodup)
    (hanswers : AnswersRegisters s table a records) :
    wp (queryRegisters a) (fun result s' => PlainRecords table a records ∧ ExactOutcome s table a records result s')
      (fun _ _ => ¬PlainRecords table a records) s := by
  rw [queryRegisters, wp_bind]
  refine wp_mono (resolveRegisterNumberFilters_answered hs hanswers.names hdistinct) (fun result s₁ ⟨hresult, hasks⟩ => ?_)
    fun _ _ h => h.elim
  subst hresult
  by_cases hunknown : unknownNames table a = []
  · rw [if_pos hunknown]
    simp only [ExactOutcome, if_pos hunknown]
    change wp (query (registerValuesCommand a.hex (selectedNumbers table a)) >>= _) _ _ s₁
    rw [wp_bind]
    have hcommand := PyStr.startswith_trans (startswith_registerValuesCommand a.hex (selectedNumbers table a))
      (by decide : PyStr.startswith "-data-list-register-values" "-" = true)
    refine wp_mono (query_answered hasks.hasController hcommand (hanswers.values.asked hasks))
      (fun result s₂ ⟨hsent, h⟩ => ?_) fun _ _ h => h.elim
    obtain ⟨info, warnings, rfl, hrecords⟩ := h
    have hasked := hasks.trans hsent.asks
    change wp (selectRegisters a (asRecordList ((extractMiResultPayload info).get "register-values")) >>= _) _ _ s₂
    rw [hrecords, wp_bind]
    refine wp_mono (selectRegisters_answered hasked.hasController fun numbers hnumbers =>
      (hanswers.subset numbers hnumbers).asked hasked) (fun result s₃ ⟨hplain, hresult, hlast⟩ => ?_) fun _ _ h => ?_
    · subst hresult
      refine ⟨.inr hplain, rfl, ?_⟩
      have hall := hasked.trans hlast
      rwa [List.append_assoc] at hall
    · exact fun hplain => hplain.elim (fun h => h hunknown) h
  · rw [if_neg hunknown]
    simp only [ExactOutcome, if_neg hunknown]
    exact ⟨.inl hunknown, rfl, hasks⟩

theorem selectsExactly_iff (hs : s.runtime.hasController = true) (hdistinct : (properNames table).Nodup)
    (hanswers : AnswersRegisters s table a records) : SelectsExactly s table a records ↔ PlainRecords table a records :=
  wp_iff_of_wp (queryRegisters_answered hs hdistinct hanswers) (fun _ _ ⟨hplain, hexact⟩ => iff_of_true hexact hplain)
    fun _ _ hplain => iff_of_false id hplain

/-- The selected numbers are the requested ones and those of the requested names, each once, and a selection is exact if
and only if the records whose numbers matter hold no rejected digits there. -/
theorem register_selection_exact_iff (hs : s.runtime.hasController = true) (hdistinct : (properNames table).Nodup)
    (hanswers : AnswersRegisters s table a records) :
    (selectedNumbers table a).Nodup ∧
      (∀ k, k ∈ selectedNumbers table a ↔ k ∈ a.registerNumbers ∨ ∃ name ∈ a.registerNames, numberOf table name = some k) ∧
      (SelectsExactly s table a records ↔ PlainRecords table a records) :=
  ⟨nodup_selectedNumbers table a, fun _ => mem_selectedNumbers, selectsExactly_iff hs hdistinct hanswers⟩

/-! ### A debugger with three registers -/

def threeNames : List String := ["rax", "", "xmm0"]

/-- A request that wants no vector registers. -/
def scalarFilter : RegisterFilter :=
  { registerNumbers := [2, 2], registerNames := ["rax", "xmm0"], includeVectorRegisters := false }

/-- The records of a request, the last of which has the given number. -/
def threeRecords (last : String) : List Value :=
  [.dict [("number", .str "2")], .dict [("number", .str "0")], .dict [("number", .str last)]]

def threeRegisters (last : String) : Session Debugger where
  runtime := { transport := { controller := some {} } }
  gdb :=
    { answers := fun _ line _ =>
        { payload :=
            if line = "-data-list-register-names" then .dict [("register-names", .list (threeNames.map .str))]
            else if PyStr.startswith line "-data-list-register-names " then
              .dict [("register-names", .list (namesAt threeNames [2, 0]))]
            else .dict [("register-values", .list (threeRecords last))] }
      selection := { thread := 1, frame := 0 } }

theorem answersRegisters_three {last : String}
    (hlast : ∀ numbers, registerNumbersOf (threeRecords last) = .ok numbers → numbers = [2, 0]) :
    AnswersRegisters (threeRegisters last) threeNames scalarFilter (threeRecords last) := by
  have hvalues : registerValuesCommand scalarFilter.hex (selectedNumbers threeNames scalarFilter) =
      "-data-list-register-values x 2 0" := by decide
  refine ⟨fun _ _ => ⟨rfl, rfl⟩, fun _ _ => ⟨rfl, ?_⟩, fun numbers hnumbers => ?_⟩
  · rw [hvalues]
    rfl
  · obtain rfl := hlast numbers hnumbers
    exact fun _ _ => ⟨rfl, rfl⟩

theorem register_selection_exact_iff_three :
    (selectedNumbers threeNames scalarFilter).Nodup ∧
      (∀ k, k ∈ selectedNumbers threeNames scalarFilter ↔ k ∈ scalarFilter.registerNumbers ∨
        ∃ name ∈ scalarFilter.registerNames, numberOf threeNames name = some k) ∧
      (SelectsExactly (threeRegisters "none") threeNames scalarFilter (threeRecords "none") ↔
        PlainRecords threeNames scalarFilter (threeRecords "none")) :=
  register_selection_exact_iff rfl (by decide)
    (answersRegisters_three fun _ h => (Except.ok.inj h).symm)

/-- The number of the last record is a superscript: the selection raises and returns no record. -/
theorem superscript_number_raises :
    AnswersRegisters (threeRegisters "²") threeNames scalarFilter (threeRecords "²") ∧
      ¬SelectsExactly (threeRegisters "²") threeNames scalarFilter (threeRecords "²") := by
  have hanswers : AnswersRegisters (threeRegisters "²") threeNames scalarFilter (threeRecords "²") :=
    answersRegisters_three fun _ h => nomatch h
  refine ⟨hanswers, ?_⟩
  rw [selectsExactly_iff rfl (by decide) hanswers]
  rintro (hunknown | hinclude | hplain)
  · exact hunknown (by decide)
  · exact nomatch hinclude
  · have hlast := hplain (.dict [("number", .str "²")]) (by simp [threeRecords]) "²" rfl
    exact absurd hlast (by decide)

end Session

end GdbMcp
