import GdbMcp.InspectionDisassembly
import Mathlib.Algebra.GroupWithZero.Nat

/-! Reads of target memory, through `-data-read-memory-bytes` or, where GDB does not know it, through the older
`-data-read-memory`. -/

namespace GdbMcp

structure MemoryReadInfo where
  address : String
  count : Int
  offset : Int := 0
  blocks : List Value := []
  blockCount : Nat := 0
  capturedBytes : Nat := 0

/-- `hex(n)`. -/
def hexInt (n : Int) : String := if n < 0 then "-" ++ PyStr.hex n.natAbs else PyStr.hex n.natAbs

/-- `text.zfill(2)`. -/
def zfillTwo (text : String) : String :=
  match text.toList with
  | [] => "00"
  | [c] => if c = '+' ∨ c = '-' then String.ofList [c, '0'] else String.ofList ['0', c]
  | _ => text

/-- The text of one cell, if it could be read. -/
def legacyCellText : Value → Option String
  | .str text =>
    if text = "N/A" then none
    else if PyStr.startswith (PyStr.lower text) "0x" then some (zfillTwo (PyStr.dropPrefix text 2))
    else some text
  | _ => none

def legacyCells (payload : Value) : List Value :=
  match payload.get "memory" with
  | .list rows => rows.flatMap fun row =>
    match row.get "data" with
    | .list values => values
    | _ => []
  | _ => []

/-- The cells before the first one that could not be read. -/
def readablePrefix : List Value → List String
  | [] => []
  | cell :: rest =>
    match legacyCellText cell with
    | some text => text :: readablePrefix rest
    | none => []

/-- Flatten a `-data-read-memory` table into one hex string. -/
def legacyMemoryContents (payload : Value) : String := PyStr.join (readablePrefix (legacyCells payload))

/-- Build one bytes-style block from a `-data-read-memory` payload. -/
def legacyMemoryBlock (payload : Value) (contents : String) : Value :=
  let bounds := (asText (payload.get "addr")).elim [] fun start =>
    ("begin", Value.str start) ::
      match PyStr.int 16 start with
      | .ok first => [("end", .str (hexInt (first + contents.length / 2)))]
      | .error _ => []
  .dict ([("offset", .str "0x0"), ("contents", .str contents)] ++ bounds)

/-- Warn when a read did not return every requested byte in one contiguous run. -/
def readMemoryWarnings (info : MemoryReadInfo) : List String :=
  (if 1 < info.blockCount then [s!"Discontinuous read: {info.blockCount} blocks returned"] else []) ++
    if info.capturedBytes < info.count then [s!"Partial read: captured {info.capturedBytes} of {info.count} bytes"] else []

def legacyReadMemoryCommand (address : String) (count offset : Int) : String :=
  let offsetArgs := if offset ≠ 0 then s!"-o {offset} " else ""
  s!"-data-read-memory {offsetArgs}{quoteMiString address} x 1 1 {count}"

/-- What a read through `-data-read-memory-bytes` reports. -/
def readMemoryReport (address : String) (count offset : Int) (payload : Value) : MemoryReadInfo :=
  let blocks := asRecordList (payload.get "memory")
  { address, count, offset, blocks
    blockCount := blocks.length
    capturedBytes := (blocks.map fun block => ((asText (block.get "contents")).getD "").length / 2).sum }

/-- What a read through `-data-read-memory` reports. -/
def legacyReadMemoryReport (address : String) (count offset : Int) (payload : Value) : MemoryReadInfo :=
  let contents := legacyMemoryContents payload
  let blocks := if contents = "" then [] else [legacyMemoryBlock payload contents]
  { address, count, offset, blocks, blockCount := blocks.length, capturedBytes := contents.length / 2 }

namespace Session

variable {W : Type} [Gdb W]

/-- Return whether this GDB supports `-data-read-memory-bytes`. -/
def supportsReadMemoryBytes : SessionM W Bool := do
  match ← read SessionRuntime.readMemoryBytesSupported with
  | some cached => return cached
  | none => do
    let supported := listsFeature "data-read-memory-bytes" (← query "-list-features")
    update fun rt => { rt with readMemoryBytesSupported := some supported }
    return supported

/-- Read memory through one of the two commands. -/
def readMemoryWith (command : String) (report : Value → MemoryReadInfo) : SessionM W (OperationResult MemoryReadInfo) := do
  orReturn (← query command) fun info =>
    let memory := report (extractMiResultPayload info)
    return .success memory (readMemoryWarnings memory)

/-- Read raw target memory bytes from one address expression. -/
def readMemory (address : String) (count offset : Int) : SessionM W (OperationResult MemoryReadInfo) := do
  if ← supportsReadMemoryBytes then
    readMemoryWith (buildReadMemoryCommand address count offset) (readMemoryReport address count offset)
  else
    readMemoryWith (legacyReadMemoryCommand address count offset) (legacyReadMemoryReport address count offset)

end Session
end GdbMcp
