import GdbMcp.BaseDigits
import GdbMcp.InspectionMemory
import GdbMcp.InspectionSwitch

/-! The two ways of reading memory. A table of cells of which all behind some first ones are marked unreadable, and one
run of the bytes in these first cells, are reported as the same read. -/

namespace GdbMcp

open Eff

variable {bytes : List UInt8} {cells : List Value} {payload : Value} {address start : String} {offset : Int} {first k : Nat}

/-! ### Cells -/

/-- The two hexadecimal digits of a byte. -/
def hexByte (b : UInt8) : String := String.ofList [Nat.digitChar (b.toNat / 16), Nat.digitChar (b.toNat % 16)]

def hexBytes (bytes : List UInt8) : String := PyStr.join (bytes.map hexByte)

/-- A cell that shows a byte, with both digits or without a leading zero. -/
inductive PrintsByte : Value → UInt8 → Prop
  | padded (b : UInt8) : PrintsByte (.str ("0x" ++ hexByte b)) b
  | unpadded (b : UInt8) (h : b.toNat < 16) : PrintsByte (.str ("0x" ++ String.ofList [Nat.digitChar b.toNat])) b

/-- A table of the bytes from an address, of which only the first `k` could be read, in rows of any lengths. -/
structure PrintsTable (payload : Value) (start : String) (bytes : List UInt8) (k : Nat) : Prop where
  addr : payload.get "addr" = .str start
  rows : ∃ (rows : List Value) (table : List (List Value)) (readable : List Value), payload.get "memory" = .list rows ∧
    List.Forall₂ (fun row cells => row.get "data" = .list cells) rows table ∧
    List.Forall₂ PrintsByte readable (bytes.take k) ∧
    table.flatten = readable ++ List.replicate (bytes.length - k) (.str "N/A")

theorem legacyCellText_hex (text : String) : legacyCellText (.str ("0x" ++ text)) = some (zfillTwo text) := by
  have hstart : PyStr.startswith ("0x" ++ text) "0x" = true := PyStr.startswith_append _ _
  have hne : "0x" ++ text ≠ "N/A" := fun h => by
    rw [h] at hstart
    exact absurd hstart (by decide)
  have hmarked : PyStr.lower "0x" = "0x" := by decide
  have hlower := PyStr.startswith_lower hstart
  have hdrop : PyStr.dropPrefix ("0x" ++ text) 2 = text := by
    have hmark : "0x".toList = ['0', 'x'] := rfl
    rw [PyStr.dropPrefix, String.toList_append, hmark]
    exact String.ofList_toList
  rw [hmarked] at hlower
  rw [legacyCellText, if_neg hne, if_pos hlower, hdrop]

theorem PrintsByte.text {cell : Value} {b : UInt8} (h : PrintsByte cell b) : legacyCellText cell = some (hexByte b) := by
  cases h with
  | padded =>
      rw [legacyCellText_hex, zfillTwo, hexByte, String.toList_ofList]
  | unpadded _ h =>
      have hsign : ∀ d < 16, ¬(Nat.digitChar d = '+' ∨ Nat.digitChar d = '-') := by decide
      rw [legacyCellText_hex, zfillTwo, String.toList_ofList, hexByte, Nat.div_eq_of_lt h, Nat.mod_eq_of_lt h]
      dsimp only
      rw [if_neg (hsign _ h)]
      rfl

theorem readablePrefix_cells (h : List.Forall₂ PrintsByte cells bytes) (n : Nat) :
    readablePrefix (cells ++ List.replicate n (.str "N/A")) = bytes.map hexByte := by
  induction h with
  | nil => cases n <;> rfl
  | cons hcell _ ih =>
      rw [List.cons_append, readablePrefix, hcell.text, List.map_cons, ← ih]

/-- However the cells are split into rows, they are read one after the other. -/
theorem legacyCells_rows {rows : List Value} {table : List (List Value)} (hmemory : payload.get "memory" = .list rows)
    (hrows : List.Forall₂ (fun row cells => row.get "data" = .list cells) rows table) :
    legacyCells payload = table.flatten := by
  rw [legacyCells, hmemory]
  dsimp only
  clear hmemory
  induction hrows with
  | nil => rfl
  | cons hrow _ ih => rw [List.flatMap_cons, List.flatten_cons, hrow, ih]

theorem PrintsTable.contents (h : PrintsTable payload start bytes k) :
    legacyMemoryContents payload = hexBytes (bytes.take k) := by
  obtain ⟨rows, table, readable, hmemory, hrows, hreadable, hflat⟩ := h.rows
  rw [legacyMemoryContents, legacyCells_rows hmemory hrows, hflat, readablePrefix_cells hreadable, hexBytes]

theorem length_hexBytes (bytes : List UInt8) : (hexBytes bytes).length = 2 * bytes.length := by
  have hjoin : ∀ begun : String,
      ((bytes.map hexByte).foldl (· ++ ·) begun).length = begun.length + 2 * bytes.length := by
    induction bytes with
    | nil => exact fun _ => rfl
    | cons b rest ih =>
        intro begun
        have hbyte : (hexByte b).length = 2 := by rw [hexByte, String.length_ofList]; rfl
        rw [List.map_cons, List.foldl_cons, ih, String.length_append, hbyte, List.length_cons]
        omega
  exact (hjoin "").trans (Nat.zero_add _)

theorem hexBytes_eq_empty : hexBytes bytes = "" ↔ bytes = [] := by
  constructor
  · intro h
    have hlength := length_hexBytes bytes
    rw [h] at hlength
    exact List.eq_nil_of_length_eq_zero (by simpa using hlength.symm)
  · rintro rfl
    rfl

/-! ### Reports -/

/-- The block of some readable bytes, as the older command's reader builds it. -/
def prefixBlock (start : String) (first : Nat) (bytes : List UInt8) : Value :=
  .dict [("offset", .str "0x0"), ("contents", .str (hexBytes bytes)), ("begin", .str start),
    ("end", .str (PyStr.hex (first + bytes.length)))]

/-- A read of bytes of which the first `k` could be read. -/
def prefixRead (address start : String) (offset : Int) (first : Nat) (bytes : List UInt8) (k : Nat) : MemoryReadInfo :=
  { address, count := bytes.length, offset
    blocks := if k = 0 then [] else [prefixBlock start first (bytes.take k)]
    blockCount := if k = 0 then 0 else 1
    capturedBytes := k }

def prefixWarnings (bytes : List UInt8) (k : Nat) : List String :=
  if k < bytes.length then [s!"Partial read: captured {k} of {(bytes.length : Int)} bytes"] else []

theorem take_eq_nil_iff_of_le (hk : k ≤ bytes.length) : bytes.take k = [] ↔ k = 0 := by
  rw [List.take_eq_nil_iff]
  constructor
  · rintro (h | rfl)
    · exact h
    · exact Nat.le_zero.mp hk
  · exact .inl

theorem hexInt_natCast (n : Nat) : hexInt n = PyStr.hex n := by
  rw [hexInt, if_neg (by omega), Int.natAbs_natCast]

theorem legacyReadMemoryReport_reads (hk : k ≤ bytes.length) (hstart : PyStr.int 16 start = .ok first)
    (h : PrintsTable payload start bytes k) :
    legacyReadMemoryReport address bytes.length offset payload = prefixRead address start offset first bytes k := by
  have hlength : (hexBytes (bytes.take k)).length / 2 = k := by
    rw [length_hexBytes, Nat.mul_div_cancel_left _ (by decide), List.length_take_of_le hk]
  have hblock : legacyMemoryBlock payload (hexBytes (bytes.take k)) = prefixBlock start first (bytes.take k) := by
    have hlength' : ((hexBytes (bytes.take k)).length : Int) / 2 = k := by exact_mod_cast hlength
    have haddr : asText (payload.get "addr") = some start := by rw [h.addr]; rfl
    rw [legacyMemoryBlock, haddr]
    dsimp only [Option.elim_some]
    rw [hstart]
    dsimp only
    rw [hlength', ← Int.natCast_add, hexInt_natCast, prefixBlock, List.length_take_of_le hk]
    rfl
  rw [legacyReadMemoryReport, h.contents, prefixRead]
  simp only [hexBytes_eq_empty, take_eq_nil_iff_of_le hk, hblock, hlength]
  split <;> rfl

theorem readMemoryWarnings_reads :
    readMemoryWarnings (prefixRead address start offset first bytes k) = prefixWarnings bytes k := by
  have hblocks : ¬1 < (if k = 0 then 0 else 1) := by split <;> decide
  rw [readMemoryWarnings, prefixWarnings, prefixRead]
  dsimp only
  rw [if_neg hblocks, List.nil_append]
  simp only [Int.ofNat_lt]

/-- A field that reads as a number, however it is padded. -/
def ReadsAs (value : Value) (n : Nat) : Prop := ∃ text, value = .str text ∧ PyStr.int 16 text = .ok n

/-- The block of one run of bytes from an address. -/
structure BlockAt (block : Value) (first : Nat) (bytes : List UInt8) : Prop where
  offset : ReadsAs (block.get "offset") 0
  begins : ReadsAs (block.get "begin") first
  ends : ReadsAs (block.get "end") (first + bytes.length)
  contents : block.get "contents" = .str (hexBytes bytes)

/-- An answer with one readable run of bytes, or with none. -/
def PrintsRun (payload : Value) (first : Nat) (bytes : List UInt8) : Prop :=
  ∃ blocks, payload.get "memory" = .list blocks ∧
    ((bytes = [] ∧ blocks = []) ∨ bytes ≠ [] ∧ ∃ block, blocks = [block] ∧ BlockAt block first bytes)

/-- Blocks with the same bytes and, as numbers, the same bounds. -/
structure SameBlock (block other : Value) : Prop where
  contents : block.get "contents" = other.get "contents"
  bounds : ∀ key ∈ ["offset", "begin", "end"], ∃ n, ReadsAs (block.get key) n ∧ ReadsAs (other.get key) n

structure SameRead (info other : MemoryReadInfo) : Prop where
  address : info.address = other.address
  count : info.count = other.count
  offset : info.offset = other.offset
  blocks : List.Forall₂ SameBlock info.blocks other.blocks
  blockCount : info.blockCount = other.blockCount
  capturedBytes : info.capturedBytes = other.capturedBytes

theorem SameRead.warnings {info other : MemoryReadInfo} (h : SameRead info other) :
    readMemoryWarnings info = readMemoryWarnings other := by
  rw [readMemoryWarnings, readMemoryWarnings, h.blockCount, h.capturedBytes, h.count]

theorem blockAt_prefixBlock (hstart : PyStr.int 16 start = .ok first) : BlockAt (prefixBlock start first bytes) first bytes :=
  ⟨⟨_, rfl, by decide⟩, ⟨_, rfl, hstart⟩, ⟨_, rfl, PyStr.int_hex _⟩, rfl⟩

theorem BlockAt.same {block other : Value} (h : BlockAt block first bytes) (h' : BlockAt other first bytes) :
    SameBlock block other := by
  refine ⟨h.contents.trans h'.contents.symm, ?_⟩
  simp only [List.forall_mem_cons]
  exact ⟨⟨_, h.offset, h'.offset⟩, ⟨_, h.begins, h'.begins⟩, ⟨_, h.ends, h'.ends⟩, nofun⟩

variable (address offset) in
theorem readMemoryReport_same (hk : k ≤ bytes.length) (hstart : PyStr.int 16 start = .ok first)
    (h : PrintsRun payload first (bytes.take k)) :
    SameRead (prefixRead address start offset first bytes k) (readMemoryReport address bytes.length offset payload) := by
  obtain ⟨blocks, hmemory, ⟨hnone, rfl⟩ | ⟨hsome, block, rfl, hblock⟩⟩ := h
  · obtain rfl := (take_eq_nil_iff_of_le hk).mp hnone
    rw [readMemoryReport, hmemory]
    exact ⟨rfl, rfl, rfl, .nil, rfl, rfl⟩
  · have hpos : k ≠ 0 := fun h => hsome ((take_eq_nil_iff_of_le hk).mpr h)
    have hdict : asRecordList (.list [block]) = [block] := by
      have hisDict : block.isDict = true := by
        have hcontents := hblock.contents
        cases block with
        | dict => rfl
        | _ => exact nomatch hcontents
      exact List.filter_eq_self.mpr (List.forall_mem_singleton.mpr hisDict)
    have htext : (asText (block.get "contents")).getD "" = hexBytes (bytes.take k) := by rw [hblock.contents]; rfl
    rw [readMemoryReport, hmemory, hdict, prefixRead, if_neg hpos, if_neg hpos]
    refine ⟨rfl, rfl, rfl, .cons ((blockAt_prefixBlock hstart).same hblock) .nil, rfl, ?_⟩
    rw [List.map_singleton, htext, length_hexBytes, Nat.mul_div_cancel_left _ (by decide), List.length_take_of_le hk, List.sum_singleton]

namespace Session

variable {s t : Session Debugger} {command : String} {report : Value → MemoryReadInfo}

/-! ### Reads -/

/-- The answer to `-list-features` lists the newer command. -/
def ListsReadMemoryBytes (answer : Answer) : Prop :=
  answer.accepted = true ∧ ∃ features, answer.payload.get "features" = .list features ∧
    .str "data-read-memory-bytes" ∈ features

/-- The newer command is known from an earlier probe, or the probe will find it. -/
def KnowsReadMemoryBytes (s : Session Debugger) : Prop :=
  s.runtime.readMemoryBytesSupported = some true ∨
    s.runtime.readMemoryBytesSupported = none ∧ ListsReadMemoryBytes (s.answerTo "-list-features")

theorem any_str_iff {feature : String} {features : List Value} :
    (features.any fun | .str s => s == feature | _ => false) = true ↔ .str feature ∈ features := by
  rw [List.any_eq_true]
  constructor
  · rintro ⟨value, hmem, hvalue⟩
    cases value with
    | str text =>
        obtain rfl := beq_iff_eq.mp hvalue
        exact hmem
    | _ => exact nomatch hvalue
  · exact fun h => ⟨_, h, beq_self_eq_true _⟩

theorem listsFeature_iff {info : CommandExecutionInfo} {warnings : List String} {feature : String} :
    listsFeature feature (.success info warnings) = true ↔
      ∃ features, (extractMiResultPayload info).get "features" = .list features ∧ .str feature ∈ features := by
  rw [listsFeature]
  split
  · rename_i features hfeatures
    refine any_str_iff.trans ?_
    exact ⟨fun h => ⟨features, hfeatures, h⟩, fun ⟨_, hsame, h⟩ => (Value.list.inj (hfeatures.symm.trans hsame)) ▸ h⟩
  · rename_i hnone
    exact iff_of_false nofun fun ⟨features, hfeatures, _⟩ => hnone features hfeatures

theorem supportsReadMemoryBytes_spec (hs : s.runtime.hasController = true) :
    wp supportsReadMemoryBytes (fun supported s' => (supported = true ↔ KnowsReadMemoryBytes s) ∧
      s'.runtime.hasController = true ∧ s'.gdb.answers = s.gdb.answers) (fun _ _ => False) s := by
  rw [supportsReadMemoryBytes, wp_bind, read, wp_gets]
  cases hcached : s.runtime.readMemoryBytesSupported with
  | some cached =>
      refine (wp_pure _).mpr ⟨?_, hs, rfl⟩
      rw [KnowsReadMemoryBytes, hcached]
      simp
  | none =>
      dsimp only
      rw [wp_bind]
      refine wp_mono (query_mi hs (by decide)) (fun result s' hsent => ?_) fun _ _ h => h
      obtain ⟨hsent, hsuccess, hpayload⟩ := hsent
      refine ⟨?_, hsent.hasController, (hsent.attended (by decide)).answers⟩
      rw [KnowsReadMemoryBytes, hcached, ListsReadMemoryBytes, ← hsuccess]
      cases result with
      | error => simp [listsFeature, OperationResult.isSuccess]
      | success info warnings =>
          rw [listsFeature_iff, hpayload _ _ rfl]
          simp [OperationResult.isSuccess]

/-- A read whose command is answered reports what the answer prints. -/
theorem readMemoryWith_answered {P : Value → Prop} (hs : s.runtime.hasController = true)
    (hcommand : PyStr.startswith command "-" = true) (hanswers : AnswersWith s command P) :
    wp (readMemoryWith command report)
      (fun result _ => ∃ payload, P payload ∧ result = .success (report payload) (readMemoryWarnings (report payload)))
      (fun _ _ => False) s := by
  rw [readMemoryWith, wp_bind]
  refine wp_mono (query_answered hs hcommand hanswers) (fun result s' ⟨_, h⟩ => ?_) fun _ _ h => h
  obtain ⟨info, warnings, rfl, hprinted⟩ := h
  exact ⟨_, hprinted, rfl⟩

theorem startswith_readMemory {p : String} (hp : PyStr.startswith p "-" = true) (a b c d : String) :
    PyStr.startswith (p ++ a ++ b ++ c ++ d) "-" = true :=
  PyStr.startswith_append_left (PyStr.startswith_append_left (PyStr.startswith_append_left
    (PyStr.startswith_append_left hp a) b) c) d

theorem startswith_legacyReadMemoryCommand (address : String) (count offset : Int) :
    PyStr.startswith (legacyReadMemoryCommand address count offset) "-" = true := by
  have hopening : PyStr.startswith "-data-read-memory " "-" = true := by decide
  exact startswith_readMemory hopening _ _ _ _

theorem startswith_buildReadMemoryCommand (address : String) (count offset : Int) :
    PyStr.startswith (buildReadMemoryCommand address count offset) "-" = true := by
  have hopening : PyStr.startswith "-data-read-memory-bytes " "-" = true := by decide
  exact startswith_readMemory hopening _ _ _ _

/-- A read through the older command. -/
theorem readMemory_legacy {P : Value → Prop} {count : Int} (hs : s.runtime.hasController = true)
    (hold : ¬KnowsReadMemoryBytes s) (hanswers : AnswersWith s (legacyReadMemoryCommand address count offset) P) :
    wp (readMemory address count offset)
      (fun result _ => ∃ payload, P payload ∧
        result = .success (legacyReadMemoryReport address count offset payload)
          (readMemoryWarnings (legacyReadMemoryReport address count offset payload)))
      (fun _ _ => False) s := by
  rw [readMemory, wp_bind]
  refine wp_mono (supportsReadMemoryBytes_spec hs) (fun supported s' ⟨hsupported, hs', hsame⟩ => ?_) fun _ _ h => h
  rw [if_neg fun h => hold (hsupported.mp h)]
  exact readMemoryWith_answered hs' (startswith_legacyReadMemoryCommand _ _ _) fun n selection => hsame ▸ hanswers n selection

/-- A read through the newer one. -/
theorem readMemory_bytes {P : Value → Prop} {count : Int} (hs : s.runtime.hasController = true)
    (hnew : KnowsReadMemoryBytes s) (hanswers : AnswersWith s (buildReadMemoryCommand address count offset) P) :
    wp (readMemory address count offset)
      (fun result _ => ∃ payload, P payload ∧
        result = .success (readMemoryReport address count offset payload)
          (readMemoryWarnings (readMemoryReport address count offset payload)))
      (fun _ _ => False) s := by
  rw [readMemory, wp_bind]
  refine wp_mono (supportsReadMemoryBytes_spec hs) (fun supported s' ⟨hsupported, hs', hsame⟩ => ?_) fun _ _ h => h
  rw [if_pos (hsupported.mpr hnew)]
  exact readMemoryWith_answered hs' (startswith_buildReadMemoryCommand _ _ _) fun n selection => hsame ▸ hanswers n selection

/-- On a debugger that prints a table of cells, readable up to `k`, a read reports the bytes of these cells, in one block
from the printed address unless there are none, and warns if and only if cells are missing. It is the same read as on a
debugger that prints one run of these bytes. -/
theorem readMemory_reads_prefix (hs : s.runtime.hasController = true) (ht : t.runtime.hasController = true)
    (hold : ¬KnowsReadMemoryBytes s) (hnew : KnowsReadMemoryBytes t) (hk : k ≤ bytes.length)
    (hstart : PyStr.int 16 start = .ok first)
    (htable : AnswersWith s (legacyReadMemoryCommand address bytes.length offset) (PrintsTable · start bytes k))
    (hrun : AnswersWith t (buildReadMemoryCommand address bytes.length offset) (PrintsRun · first (bytes.take k))) :
    wp (readMemory address bytes.length offset)
        (fun result _ => result = .success (prefixRead address start offset first bytes k) (prefixWarnings bytes k))
        (fun _ _ => False) s ∧
      wp (readMemory address bytes.length offset)
        (fun result _ => ∃ info, result = .success info (prefixWarnings bytes k) ∧
          SameRead (prefixRead address start offset first bytes k) info) (fun _ _ => False) t := by
  constructor
  · refine wp_mono (readMemory_legacy hs hold htable) (fun result _ h => ?_) fun _ _ h => h
    obtain ⟨payload, hpayload, rfl⟩ := h
    rw [legacyReadMemoryReport_reads hk hstart hpayload, readMemoryWarnings_reads]
  · refine wp_mono (readMemory_bytes ht hnew hrun) (fun result _ h => ?_) fun _ _ h => h
    obtain ⟨payload, hpayload, rfl⟩ := h
    have hsame := readMemoryReport_same address offset hk hstart hpayload
    exact ⟨_, by rw [← hsame.warnings, readMemoryWarnings_reads], hsame⟩

def holeBytes : List UInt8 := [0x0a, 0xbb, 0xcc, 0xdd]

/-- The answer of an older debugger that could read two of the bytes. -/
def holeTable : Value :=
  .dict [("addr", .str "0x2000"), ("memory", .list [.dict [("data", .list [.str "0xa"])],
    .dict [("data", .list [.str "0xbb", .str "N/A"])], .dict [("data", .list [.str "N/A"])]])]

/-- The answer of a newer one. -/
def holeRun : Value :=
  .dict [("memory", .list [.dict [("begin", .str "0x0000000000002000"), ("offset", .str "0x0000000000000000"),
    ("end", .str "0x0000000000002002"), ("contents", .str "0abb")]])]

/-- A session with a debugger that answers every command in one way. -/
def answeringSession (payload : Value) (supported : Bool) : Session Debugger where
  runtime := { transport := { controller := some {} }, readMemoryBytesSupported := some supported }
  gdb := { answers := fun _ _ _ => { payload }, selection := { thread := 1, frame := 0 } }

theorem printsTable_hole : PrintsTable holeTable "0x2000" holeBytes 2 := by
  refine ⟨rfl, _, [[.str "0xa"], [.str "0xbb", .str "N/A"], [.str "N/A"]], [.str "0xa", .str "0xbb"], rfl, ?_, ?_, rfl⟩
  · exact .cons rfl (.cons rfl (.cons rfl .nil))
  · exact .cons (.unpadded 0x0a (by decide)) (.cons (.padded 0xbb) .nil)

theorem printsRun_hole : PrintsRun holeRun 0x2000 (holeBytes.take 2) := by
  refine ⟨_, rfl, .inr ⟨List.cons_ne_nil _ _, _, rfl, ?_⟩⟩
  exact ⟨⟨_, rfl, by decide⟩, ⟨_, rfl, by decide⟩, ⟨_, rfl, by decide⟩, rfl⟩

theorem readMemory_reads_prefix_hole :
    wp (readMemory "&hole" holeBytes.length 0)
        (fun result _ => result = .success (prefixRead "&hole" "0x2000" 0 0x2000 holeBytes 2) (prefixWarnings holeBytes 2))
        (fun _ _ => False) (answeringSession holeTable false) ∧
      wp (readMemory "&hole" holeBytes.length 0)
        (fun result _ => ∃ info, result = .success info (prefixWarnings holeBytes 2) ∧
          SameRead (prefixRead "&hole" "0x2000" 0 0x2000 holeBytes 2) info) (fun _ _ => False)
        (answeringSession holeRun true) := by
  have hstart : PyStr.int 16 "0x2000" = .ok ((0x2000 : Nat) : Int) := by decide
  exact readMemory_reads_prefix (s := answeringSession holeTable false) (t := answeringSession holeRun true) rfl rfl
    (fun h => by rcases h with h | ⟨h, -⟩ <;> exact nomatch h) (.inl rfl) (by decide) hstart
    (fun _ _ => ⟨rfl, printsTable_hole⟩) fun _ _ => ⟨rfl, printsRun_hole⟩

end Session
end GdbMcp
