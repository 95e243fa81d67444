import GdbMcp.BaseUtf8

/-! The line source of the stdio transport. Its thread reads the descriptor in chunks, cuts them into lines and hands
the decoded lines to the event loop; at the end of the input it hands over what is left and one end marker. -/

namespace GdbMcp

/-- One read of the descriptor: bytes, which are none at the end of the input, or an error. -/
inductive DescriptorRead where
  | data (bytes : List UInt8)
  | failed
  deriving DecidableEq, Repr

/-- The chunk that the pump goes on with. -/
def DescriptorRead.chunk : DescriptorRead → List UInt8
  | .data bytes => bytes
  | .failed => []

/-- The items handed to the event loop: lines, and `none` for the end of the input. A loop that is closed takes no more,
as from the number of items in `closedAt` on. -/
structure LineQueue where
  items : List (Option String) := []
  closedAt : Option Nat := none
  deriving DecidableEq, Repr

def newline : UInt8 := 10

/-- Whether the loop has taken the item. -/
def emit (item : Option String) (queue : LineQueue) : Bool × LineQueue :=
  if queue.closedAt = some queue.items.length then (false, queue)
  else (true, { queue with items := queue.items ++ [item] })

/-- Emit raw lines with their newlines, until one is refused. -/
def emitLines : List (List UInt8) → LineQueue → Bool × LineQueue
  | [], queue => (true, queue)
  | raw :: rest, queue =>
    match emit (some (Utf8.decode raw ++ "\n")) queue with
    | (true, queue) => emitLines rest queue
    | (false, queue) => (false, queue)

/-- What the pump does when it has read nothing. -/
def emitEnd (buffer : List UInt8) (queue : LineQueue) : LineQueue :=
  if buffer.isEmpty then (emit none queue).2
  else
    match emit (some (Utf8.decode buffer)) queue with
    | (true, queue) => (emit none queue).2
    | (false, queue) => queue

/-- The thread of the line source over the reads that return. -/
def pump : List UInt8 → List DescriptorRead → LineQueue → LineQueue
  | _, [], queue => queue
  | buffer, read :: reads, queue =>
    if read.chunk.isEmpty then emitEnd buffer queue
    else
      let pieces := (buffer ++ read.chunk).splitOn newline
      match emitLines pieces.dropLast queue with
      | (true, queue) => pump (pieces.getLast (List.splitOn_ne_nil _ _)) reads queue
      | (false, queue) => queue

/-! ### Lines of a stream -/

/-- A stream of bytes is lines that a newline ends, and a remainder. -/
structure Lined (stream : List UInt8) (lines : List (List UInt8)) (remainder : List UInt8) : Prop where
  whole : stream = (lines.map (· ++ [newline])).flatten ++ remainder
  line : ∀ line ∈ lines, newline ∉ line
  remainder : newline ∉ remainder

/-- The item of a line, which has its newline. -/
def lineItem (line : List UInt8) : Option String := some (Utf8.decode (line ++ [newline]))

/-- The items of a stream: its lines, the remainder if there is one, and the end marker. -/
def streamItems (lines : List (List UInt8)) (remainder : List UInt8) : List (Option String) :=
  lines.map lineItem ++ (if remainder = [] then [] else [some (Utf8.decode remainder)]) ++ [none]

/-- The items that a loop takes before it is closed. -/
def taken (closedAt : Option Nat) (items : List (Option String)) : List (Option String) :=
  match closedAt with
  | none => items
  | some n => items.take n

variable {stream buffer remainder : List UInt8} {lines lines' : List (List UInt8)} {queue : LineQueue}

theorem decode_line (line : List UInt8) : Utf8.decode (line ++ [newline]) = Utf8.decode line ++ "\n" := by
  have hnewline : newline.toNat < 0x80 := by decide
  rw [Utf8.decode, Utf8.decodeFrom_ascii hnewline, String.ofList_append, Utf8.decode]
  rfl

theorem exists_lined (stream : List UInt8) : ∃ lines remainder, Lined stream lines remainder := by
  induction stream with
  | nil => exact ⟨[], [], rfl, by simp, by simp⟩
  | cons b rest ih =>
      obtain ⟨lines, remainder, hwhole, hlines, hremainder⟩ := ih
      by_cases hb : b = newline
      · refine ⟨[] :: lines, remainder, by simp [hwhole, hb], fun line hline => ?_, hremainder⟩
        rcases List.mem_cons.mp hline with rfl | hline
        · exact List.not_mem_nil
        · exact hlines line hline
      · cases lines with
        | nil =>
            refine ⟨[], b :: remainder, by simpa using hwhole, by simp, ?_⟩
            exact fun hmem => (List.mem_cons.mp hmem).elim (fun heq => hb heq.symm) hremainder
        | cons first others =>
            refine ⟨(b :: first) :: others, remainder, by simpa using hwhole, fun line hline => ?_, hremainder⟩
            rcases List.mem_cons.mp hline with rfl | hline
            · intro hmem
              exact (List.mem_cons.mp hmem).elim (fun heq => hb heq.symm) (hlines first List.mem_cons_self)
            · exact hlines line (List.mem_cons_of_mem _ hline)

theorem Lined.splitOn (h : Lined stream lines remainder) : stream.splitOn newline = lines ++ [remainder] := by
  obtain ⟨rfl, hlines, hremainder⟩ := h
  induction lines with
  | nil => exact List.splitOn_eq_singleton hremainder
  | cons line others ih =>
      rw [List.map_cons, List.flatten_cons, List.append_assoc, List.append_assoc, List.singleton_append,
        List.splitOn_append_cons_self_of_not_mem (hlines line List.mem_cons_self),
        ih fun other hother => hlines other (List.mem_cons_of_mem _ hother), List.cons_append]

theorem Lined.unique {remainder' : List UInt8} (h : Lined stream lines remainder) (h' : Lined stream lines' remainder') :
    lines = lines' ∧ remainder = remainder' := by
  have heq := h.splitOn.symm.trans h'.splitOn
  exact ⟨List.append_inj_left' heq rfl, List.singleton_inj.mp (List.append_inj_right' heq rfl)⟩

/-- The lines of a stream go on behind the remainder of a first part of it. -/
theorem Lined.append {rest remainder' : List UInt8} (h : Lined stream lines remainder)
    (h' : Lined (remainder ++ rest) lines' remainder') : Lined (stream ++ rest) (lines ++ lines') remainder' := by
  constructor
  · rw [h.whole, List.append_assoc, h'.whole, List.map_append, List.flatten_append, List.append_assoc]
  · intro line hline
    exact (List.mem_append.mp hline).elim (h.line line) (h'.line line)
  · exact h'.remainder

/-! ### What a loop takes -/

/-- The queue with the items that the loop takes of those offered. -/
def offered (items : List (Option String)) (queue : LineQueue) : LineQueue :=
  { queue with items := taken queue.closedAt (queue.items ++ items) }

/-- A queue holds no more than its loop has taken. -/
def LineQueue.Within (queue : LineQueue) : Prop := ∀ n, queue.closedAt = some n → queue.items.length ≤ n

theorem taken_append (closedAt : Option Nat) (items items' : List (Option String)) :
    taken closedAt (taken closedAt items ++ items') = taken closedAt (items ++ items') := by
  cases closedAt with
  | none => rfl
  | some n =>
      simp only [taken, List.take_append, List.length_take]
      rw [List.take_take, Nat.min_self]
      congr 2
      omega

theorem offered_offered (items items' : List (Option String)) (queue : LineQueue) :
    offered items' (offered items queue) = offered (items ++ items') queue := by
  simp only [offered, taken_append, List.append_assoc]

theorem within_offered (items : List (Option String)) (queue : LineQueue) : (offered items queue).Within := by
  intro n hn
  have hclosed : queue.closedAt = some n := hn
  simp only [offered, hclosed, taken, List.length_take]
  exact Nat.min_le_left _ _

theorem offered_full {n : Nat} (h : queue.closedAt = some n) (hfull : n = queue.items.length) (items : List (Option String)) :
    offered items queue = queue := by
  obtain ⟨before, closedAt⟩ := queue
  obtain rfl : closedAt = some n := h
  simp only [offered, taken, hfull, List.take_left]

theorem emit_eq (h : queue.Within) (item : Option String) :
    emit item queue = (decide (queue.closedAt ≠ some queue.items.length), offered [item] queue) := by
  unfold emit
  split
  · rename_i hclosed
    rw [offered_full hclosed rfl]
    simp [hclosed]
  · rename_i hopen
    have htaken : taken queue.closedAt (queue.items ++ [item]) = queue.items ++ [item] := by
      cases hclosed : queue.closedAt with
      | none => rfl
      | some n =>
          have hlt : queue.items.length ≠ n := fun heq => hopen (by rw [hclosed, heq])
          have hle := h n hclosed
          exact List.take_of_length_le (by simp only [List.length_append, List.length_singleton]; omega)
    simp [offered, htaken, hopen]

theorem offered_nil (h : queue.Within) : offered [] queue = queue := by
  obtain ⟨before, closedAt⟩ := queue
  cases closedAt with
  | none => simp [offered, taken]
  | some n => simp [offered, taken, List.take_of_length_le (h n rfl)]

/-- Lines are offered in order. When one is refused, so is everything behind it. -/
theorem emitLines_eq (raws : List (List UInt8)) (h : queue.Within) :
    ∃ took, emitLines raws queue = (took, offered (raws.map lineItem) queue) ∧
      (took = false → ∀ items, offered items (offered (raws.map lineItem) queue) = offered (raws.map lineItem) queue) := by
  induction raws generalizing queue with
  | nil => exact ⟨true, by rw [emitLines, List.map_nil, offered_nil h], fun hfalse => nomatch hfalse⟩
  | cons raw rest ih =>
      have hitem : some (Utf8.decode raw ++ "\n") = lineItem raw := by rw [lineItem, decode_line]
      have hcons : offered (lineItem raw :: rest.map lineItem) queue =
          offered (rest.map lineItem) (offered [lineItem raw] queue) := by
        rw [offered_offered, List.singleton_append]
      rw [emitLines, hitem, emit_eq h, List.map_cons, hcons]
      by_cases hclosed : queue.closedAt = some queue.items.length
      · have hfull := offered_full hclosed rfl
        simp only [hfull, hclosed, ne_eq, not_true, decide_false]
        exact ⟨false, rfl, fun _ _ => trivial⟩
      · simp only [ne_eq, hclosed, not_false_eq_true, decide_true]
        exact ih (within_offered _ _)

theorem emitEnd_eq (buffer : List UInt8) (h : queue.Within) :
    emitEnd buffer queue = offered (streamItems [] buffer) queue := by
  unfold emitEnd streamItems
  cases buffer with
  | nil =>
      rw [if_pos rfl, emit_eq h]
      rfl
  | cons b rest =>
      rw [if_neg (by simp), emit_eq h, if_neg (List.cons_ne_nil _ _), List.map_nil, List.nil_append, ← offered_offered]
      by_cases hclosed : queue.closedAt = some queue.items.length
      · simp [hclosed, offered_full hclosed rfl]
      · simp only [ne_eq, hclosed, not_false_eq_true, decide_true]
        rw [emit_eq (within_offered _ _)]

theorem streamItems_append (first : List (List UInt8)) (lines : List (List UInt8)) (remainder : List UInt8) :
    streamItems (first ++ lines) remainder = first.map lineItem ++ streamItems lines remainder := by
  simp only [streamItems, List.map_append, List.append_assoc]

/-- Over a buffer that holds no newline, the pump offers the items of the buffer and everything read behind it. -/
theorem pump_eq (chunks : List (List UInt8)) (hchunks : ∀ chunk ∈ chunks, chunk ≠ []) {ending : DescriptorRead}
    (hending : ending.chunk = []) (later : List DescriptorRead) (hbuffer : newline ∉ buffer)
    (h : Lined (buffer ++ chunks.flatten) lines remainder) (hqueue : queue.Within) :
    pump buffer (chunks.map .data ++ ending :: later) queue = offered (streamItems lines remainder) queue := by
  induction chunks generalizing buffer lines queue with
  | nil =>
      have hrest : Lined (buffer ++ [].flatten) [] buffer := ⟨by simp, by simp, hbuffer⟩
      obtain ⟨rfl, rfl⟩ := h.unique hrest
      have hempty : ending.chunk.isEmpty = true := by rw [hending, List.isEmpty_nil]
      rw [List.map_nil, List.nil_append, pump, if_pos hempty, emitEnd_eq _ hqueue]
  | cons chunk chunks ih =>
      obtain ⟨first, carried, hfirst⟩ := exists_lined (buffer ++ chunk)
      obtain ⟨others, last, hothers⟩ := exists_lined (carried ++ chunks.flatten)
      have hwhole := hfirst.append hothers
      rw [List.append_assoc, ← List.flatten_cons] at hwhole
      obtain ⟨rfl, rfl⟩ := h.unique hwhole
      have hchunk : (DescriptorRead.data chunk).chunk.isEmpty = false := by
        simpa [DescriptorRead.chunk] using hchunks chunk List.mem_cons_self
      obtain ⟨took, hemitted, hrefused⟩ := emitLines_eq first hqueue
      rw [List.map_cons, List.cons_append, pump, hchunk, if_neg Bool.false_ne_true]
      simp only [DescriptorRead.chunk, hfirst.splitOn, List.dropLast_concat, List.getLast_concat, hemitted]
      rw [streamItems_append, ← offered_offered]
      cases took with
      | true =>
          exact ih (fun other hother => hchunks other (List.mem_cons_of_mem _ hother)) hfirst.remainder hothers
            (within_offered _ _)
      | false => exact (hrefused rfl _).symm

theorem lineItem_chars (line rest : List UInt8) :
    Utf8.decodeFrom none (line ++ [newline] ++ rest) =
      (Utf8.decode (line ++ [newline])).toList ++ Utf8.decodeFrom none rest := by
  have hnewline : newline.toNat < 0x80 := by decide
  rw [Utf8.decode, String.toList_ofList, List.append_assoc, List.singleton_append, Utf8.decodeFrom_ascii hnewline,
    Utf8.decodeFrom_ascii hnewline, List.append_assoc]
  rfl

/-- The items are the whole stream, decoded. -/
theorem streamItems_chars (h : Lined stream lines remainder) :
    ((streamItems lines remainder).filterMap id).flatMap String.toList = (Utf8.decode stream).toList := by
  rw [h.whole, Utf8.decode, String.toList_ofList]
  clear h
  induction lines with
  | nil =>
      by_cases hremainder : remainder = []
      · simp [streamItems, hremainder, Utf8.decodeFrom]
      · simp [streamItems, hremainder, Utf8.decode]
  | cons line others ih =>
      have hitems := streamItems_append [line] others remainder
      rw [List.singleton_append] at hitems
      rw [hitems, List.filterMap_append, List.flatMap_append, ih, List.map_cons (l := others), List.flatten_cons,
        List.append_assoc, lineItem_chars]
      simp [lineItem]

/-- Every stream has its lines and its remainder. However it is cut into chunks, and whether the end of the input or an
error ends it, the pump hands over each line with its newline, in order, the remainder if there is one, and one end
marker, as far as the loop takes them; together they are the decoded stream. -/
theorem stdin_items (stream : List UInt8) : ∃ lines remainder, Lined stream lines remainder ∧
    (∀ (chunks : List (List UInt8)) (ending : DescriptorRead) (later : List DescriptorRead) (closedAt : Option Nat),
      (∀ chunk ∈ chunks, chunk ≠ []) → chunks.flatten = stream → ending.chunk = [] →
      (pump [] (chunks.map .data ++ ending :: later) { closedAt }).items = taken closedAt (streamItems lines remainder)) ∧
    ((streamItems lines remainder).filterMap id).flatMap String.toList = (Utf8.decode stream).toList := by
  obtain ⟨lines, remainder, h⟩ := exists_lined stream
  refine ⟨lines, remainder, h, fun chunks ending later closedAt hchunks hstream hending => ?_, streamItems_chars h⟩
  have hempty : LineQueue.Within { closedAt } := fun n _ => Nat.zero_le n
  rw [pump_eq chunks hchunks hending later List.not_mem_nil (by rwa [List.nil_append, hstream]) hempty]
  rfl

/-! ### Lines of text -/

theorem newline_notMem_encode {text : String} (h : '\n' ∉ text.toList) : newline ∉ Utf8.encode text := by
  intro hmem
  obtain ⟨c, hc, hbyte⟩ := List.mem_flatMap.mp hmem
  have hnat : c.toNat = newline.toNat := Utf8.toNat_of_ascii_mem (by decide) hbyte
  obtain rfl : c = '\n' := Char.toNat_inj.mp hnat
  exact h hc

/-- The lines that a peer has written arrive as they are, one item each, and so does a last one without a newline:
however the stream is cut into chunks, none is lost, doubled, split or joined to another one. -/
theorem lines_arrive {texts : List String} {last : String} (htexts : ∀ text ∈ texts, '\n' ∉ text.toList)
    (hlast : '\n' ∉ last.toList) {chunks : List (List UInt8)} (hchunks : ∀ chunk ∈ chunks, chunk ≠ [])
    (hstream : chunks.flatten = (texts.map fun text => Utf8.encode text ++ [newline]).flatten ++ Utf8.encode last)
    {ending : DescriptorRead} (hending : ending.chunk = []) (later : List DescriptorRead) :
    (pump [] (chunks.map .data ++ ending :: later) {}).items =
      texts.map (fun text => some (text ++ "\n")) ++ (if last = "" then [] else [some last]) ++ [none] := by
  have hlined : Lined ([] ++ chunks.flatten) (texts.map Utf8.encode) (Utf8.encode last) := by
    refine ⟨?_, fun line hline => ?_, newline_notMem_encode hlast⟩
    · rw [List.nil_append, hstream, List.map_map]
      rfl
    · obtain ⟨text, htext, rfl⟩ := List.mem_map.mp hline
      exact newline_notMem_encode (htexts text htext)
  have hempty : LineQueue.Within {} := fun n _ => Nat.zero_le n
  have hitem : lineItem ∘ Utf8.encode = fun text => some (text ++ "\n") := by
    funext text
    rw [Function.comp_apply, lineItem, decode_line, Utf8.encode, Utf8.decode_encode]
  have hremainder : Utf8.encode last = [] ↔ last = "" := by
    constructor
    · intro hnil
      rw [← Utf8.decode_encode last]
      exact congrArg Utf8.decode hnil
    · rintro rfl
      rfl
  rw [pump_eq chunks hchunks hending later List.not_mem_nil hlined hempty]
  change streamItems (texts.map Utf8.encode) (Utf8.encode last) = _
  rw [streamItems, List.map_map, hitem]
  simp only [hremainder]
  rw [Utf8.encode, Utf8.decode_encode]

/-- Two requests, the first of which lies in two chunks. -/
theorem lines_arrive_split :
    (pump [] (([[0x7B, 0x7D], [0x0A, 0x7B, 0x7D, 0x0A]] : List (List UInt8)).map .data ++ [.data []]) {}).items =
      [some "\x7b\x7d\n", some "\x7b\x7d\n", none] :=
  @lines_arrive ["\x7b\x7d", "\x7b\x7d"] "" (by decide) (by decide) _ (by decide) (by decide) _ rfl []

/-- A character and a line that lie in two chunks. -/
example : (pump [] [.data [0x6F, 0x6E, 0x65, 0x0A, 0xC3], .data [0xA9, 0x0A, 0x0A, 0x74], .failed] {}).items =
    [some "one\n", some "é\n", some "\n", some "t", none] := by decide

end GdbMcp
