import GdbMcp.BaseDigits
import GdbMcp.CampaignRequest
import Mathlib.Data.List.TakeWhile

/-! The shorthand of memory ranges, `<address>:<count>` with an optional `@<offset>`. The address may contain colons, at
signs and digits; the last colon of the text is the one that ends it, so a text spells at most one range. -/

namespace GdbMcp
namespace PyStr

/-! ### Blanks and numerals -/

/-- A text of blanks. -/
def Blank (s : String) : Prop := ∀ c ∈ s.toList, isSpace c = true

theorem strip_blanks {before s after : String} (hbefore : Blank before) (hs : solid s = true) (hafter : Blank after) :
    strip (before ++ s ++ after) = s := by
  obtain ⟨hfirst, hlast⟩ := Bool.and_eq_true_iff.mp hs
  have hfront : ∀ t : List Char, t.head?.any (!isSpace ·) = true →
      (before.toList ++ t).dropWhile isSpace = t := fun t ht => by
    rw [List.dropWhile_append_of_pos hbefore, dropWhile_eq_self_of_head ht]
  have hne : s.toList ≠ [] := by
    intro hnil
    rw [hnil] at hfirst
    exact nomatch hfirst
  have hhead : (s.toList ++ after.toList).head?.any (!isSpace ·) = true := by
    rwa [List.head?_append_of_ne_nil _ hne]
  have hback : (after.toList.reverse ++ s.toList.reverse).dropWhile isSpace = s.toList.reverse := by
    rw [List.dropWhile_append_of_pos fun c hc => hafter c (List.mem_reverse.mp hc),
      dropWhile_eq_self_of_head (by rw [List.head?_reverse]; exact hlast)]
  rw [strip, String.toList_append, String.toList_append, List.append_assoc, hfront _ hhead, List.reverse_append, hback,
    List.reverse_reverse, String.ofList_toList]

theorem exists_blanks (s : String) : ∃ before after, Blank before ∧ Blank after ∧ s = before ++ strip s ++ after := by
  have hfront := List.takeWhile_append_dropWhile (p := isSpace) (l := s.toList)
  have hback := List.takeWhile_append_dropWhile (p := isSpace) (l := (s.toList.dropWhile isSpace).reverse)
  refine ⟨String.ofList (s.toList.takeWhile isSpace),
    String.ofList ((s.toList.dropWhile isSpace).reverse.takeWhile isSpace).reverse, ?_, ?_, ?_⟩
  · intro c hc
    rw [String.toList_ofList] at hc
    exact List.mem_takeWhile_imp hc
  · intro c hc
    rw [String.toList_ofList, List.mem_reverse] at hc
    exact List.mem_takeWhile_imp hc
  · apply String.toList_inj.mp
    rw [strip, String.toList_append, String.toList_append, String.toList_ofList, String.toList_ofList,
      String.toList_ofList, List.append_assoc, ← List.reverse_append, hback, List.reverse_reverse, hfront]

/-- A numeral with zeros in front of it. -/
def padded (zeros n : Nat) : List Char := List.replicate zeros '0' ++ Nat.toDigits 10 n

theorem exists_digitChar {c : Char} (h : c ∈ asciiDigits) : ∃ d < 10, c = Nat.digitChar d := by
  have hall : (asciiDigits.all fun c => (List.range 10).any fun d => c == Nat.digitChar d) = true := by decide
  obtain ⟨d, hd, hc⟩ := List.any_eq_true.mp (List.all_eq_true.mp hall c h)
  exact ⟨d, List.mem_range.mp hd, eq_of_beq hc⟩

/-- Digits are a numeral with zeros in front of it. -/
theorem exists_padded {cs : List Char} (hne : cs ≠ []) (hcs : ∀ c ∈ cs, c ∈ asciiDigits) :
    ∃ zeros n, cs = padded zeros n ∧ digitsValue 10 cs false 0 = some n := by
  induction cs using List.reverseRecOn with
  | nil => exact absurd rfl hne
  | append_singleton front c ih =>
      obtain ⟨d, hd, rfl⟩ := exists_digitChar (hcs c (by simp))
      by_cases hfront : front = []
      · subst hfront
        refine ⟨0, d, ?_, ?_⟩
        · rw [padded, Nat.toDigits_of_lt_base hd]
          rfl
        · rw [List.nil_append, digitsValue_digitChar hd]
          simp
      · obtain ⟨zeros, n, hpadded, hvalue⟩ := ih hfront fun c hc => hcs c (List.mem_append_left _ hc)
        rw [digitsValue_append hvalue, digitsValue_digitChar hd]
        by_cases hn : n = 0
        · subst hn
          refine ⟨zeros + 1, d, ?_, by simp⟩
          rw [hpadded, padded, padded, Nat.toDigits_zero, Nat.toDigits_of_lt_base hd, List.replicate_succ']
        · refine ⟨zeros, 10 * n + d, ?_, by rw [Nat.mul_comm]⟩
          have happend := Nat.toDigits_append_toDigits (b := 10) (by decide) (Nat.pos_of_ne_zero hn) hd
          rw [Nat.toDigits_of_lt_base hd] at happend
          rw [hpadded, padded, padded, List.append_assoc, happend]

theorem int_padded {s : String} (hne : s.toList ≠ []) (hs : ∀ c ∈ s.toList, c ∈ asciiDigits) {k : Int} (h : int 10 s = .ok k) :
    ∃ zeros n, s.toList = padded zeros n ∧ k = (n : Nat) := by
  obtain ⟨zeros, n, hpadded, hvalue⟩ := exists_padded hne hs
  exact ⟨zeros, n, hpadded, int_of_asciiDigits hs hvalue h⟩

/-- The decimal digits among the ASCII characters. -/
theorem mem_asciiDigits {c : Char} (hascii : c.toNat < 128) (h : isDecimal c = true) : c ∈ asciiDigits := by
  have hall : ∀ n < 128, isDecimal (Char.ofNat n) = true → Char.ofNat n ∈ asciiDigits := by decide
  have hc := hall c.toNat hascii
  rw [Char.ofNat_toNat] at hc
  exact hc h

end PyStr

/-! ### The pattern -/

/-- What stands behind the count. -/
def offsetSuffix : Option (List Char) → List Char
  | none => []
  | some offset => '@' :: offset

/-- Digits of any script, at least one. -/
def Digits (cs : List Char) : Prop := cs ≠ [] ∧ ∀ c ∈ cs, PyStr.isDecimal c = true

/-- A text of the form of the shorthand, with its groups. -/
structure Shorthand (text address count : List Char) (offset : Option (List Char)) : Prop where
  text : text = address ++ ':' :: (count ++ offsetSuffix offset)
  nonempty : address ≠ []
  line : '\n' ∉ address
  count : Digits count
  offset : ∀ digits, offset = some digits → Digits digits

variable {text address count rest address' count' : List Char} {offset offset' : Option (List Char)}

theorem Digits.not_mem {c : Char} (h : Digits count) (hc : PyStr.isDecimal c = false) : c ∉ count := fun hmem => by
  rw [h.2 c hmem] at hc
  exact nomatch hc

theorem Shorthand.not_mem_tail {c : Char} (h : Shorthand text address count offset) (hc : PyStr.isDecimal c = false)
    (hat : c ≠ '@') : c ∉ count ++ offsetSuffix offset := by
  intro hmem
  rcases List.mem_append.mp hmem with hcount | hsuffix
  · exact h.count.not_mem hc hcount
  · cases hoffset : offset with
    | none =>
        rw [hoffset] at hsuffix
        exact absurd hsuffix List.not_mem_nil
    | some digits =>
        rw [hoffset] at hsuffix
        rcases List.mem_cons.mp hsuffix with heq | hdigits
        · exact hat heq
        · exact (h.offset digits hoffset).not_mem hc hdigits

/-- The last occurrence of a character cuts a text in one way. -/
theorem append_cons_inj_of_last {c : Char} {front front' back back' : List Char} (hback : c ∉ back) (hback' : c ∉ back')
    (h : front ++ c :: back = front' ++ c :: back') : front = front' ∧ back = back' := by
  rcases List.append_eq_append_iff.mp h with ⟨between, rfl, heq⟩ | ⟨between, rfl, heq⟩
  · cases between with
    | nil => exact ⟨(List.append_nil _).symm, (List.cons.inj heq).2⟩
    | cons d more =>
        refine absurd ?_ hback
        rw [(List.cons.inj heq).2]
        exact List.mem_append_right _ List.mem_cons_self
  · cases between with
    | nil => exact ⟨List.append_nil _, (List.cons.inj heq).2.symm⟩
    | cons d more =>
        refine absurd ?_ hback'
        rw [(List.cons.inj heq).2]
        exact List.mem_append_right _ List.mem_cons_self

theorem Shorthand.takeWhile_tail (h : Shorthand text address count offset) :
    (count ++ offsetSuffix offset).takeWhile (· != '@') = count := by
  have hcount : ∀ c ∈ count, (c != '@') = true := by
    intro c hc
    rw [bne_iff_ne]
    rintro rfl
    exact h.count.not_mem (by decide) hc
  rw [List.takeWhile_append_of_pos hcount]
  cases offset <;> simp [offsetSuffix]

theorem offsetSuffix_injective (h : offsetSuffix offset = offsetSuffix offset') : offset = offset' := by
  cases offset <;> cases offset' <;> simp_all [offsetSuffix]

/-- A text has the form of the shorthand in one way: its last colon ends the address, and the first at sign behind that
one ends the count. -/
theorem Shorthand.unique (h : Shorthand text address count offset) (h' : Shorthand text address' count' offset') :
    address = address' ∧ count = count' ∧ offset = offset' := by
  have hcolon := h.not_mem_tail (c := ':') (by decide) (by decide)
  have hcolon' := h'.not_mem_tail (c := ':') (by decide) (by decide)
  obtain ⟨haddress, htail⟩ := append_cons_inj_of_last hcolon hcolon' (h.text.symm.trans h'.text)
  have hcount : count = count' := by
    rw [← h.takeWhile_tail, htail, h'.takeWhile_tail]
  subst hcount
  exact ⟨haddress, rfl, offsetSuffix_injective (List.append_cancel_left htail)⟩

/-- A text of this form does not end with a newline. -/
theorem Shorthand.no_newline (h : Shorthand text address count offset) (front : List Char) : text ≠ front ++ ['\n'] := by
  intro heq
  have hlast := congrArg List.getLast? (h.text.symm.trans heq)
  rw [List.getLast?_append_of_ne_nil _ (List.cons_ne_nil _ _), List.getLast?_append_of_ne_nil _ (List.cons_ne_nil _ _),
    List.getLast?_singleton] at hlast
  rcases List.mem_cons.mp (List.mem_of_getLast? hlast) with hcolon | htail
  · exact absurd hcolon (by decide)
  · exact h.not_mem_tail (by decide) (by decide) htail

theorem mem_shorthandPattern {groups : String × String × Option String} :
    (groups, rest) ∈ shorthandPattern text ↔ ∃ front address count offset, Shorthand front address count offset ∧
      groups = (String.ofList address, String.ofList count, offset.map String.ofList) ∧
      text = front ++ rest ∧ (rest = [] ∨ rest = ['\n']) := by
  simp only [shorthandPattern, Pattern.mem_bind, Pattern.mem_plus, Pattern.mem_lit, Pattern.mem_opt, Pattern.mem_finish,
    Pattern.mem_pure]
  constructor
  · rintro ⟨address, behind, ⟨rfl, hne, hline⟩, -, tail, rfl, count, suffix, ⟨rfl, hcount⟩, offset, rest', hoffset, -,
      rest'', ⟨hend, rfl⟩, rfl, rfl⟩
    have hline' : '\n' ∉ address := fun hmem => absurd (hline _ hmem) (by decide)
    rcases hoffset with ⟨digits, rfl, -, -, rfl, rfl, hdigits⟩ | ⟨rfl, rfl⟩
    · refine ⟨_, address, count, some digits, ⟨rfl, hne, hline', hcount, ?_⟩, rfl, ?_, hend⟩
      · rintro _ ⟨⟩
        exact hdigits
      · simp [offsetSuffix]
    · refine ⟨_, address, count, none, ⟨rfl, hne, hline', hcount, fun _ heq => nomatch heq⟩, rfl, ?_, hend⟩
      simp [offsetSuffix]
  · rintro ⟨front, address, count, offset, h, rfl, rfl, hend⟩
    have hline : ∀ c ∈ address, (c != '\n') = true := fun c hc => by
      rw [bne_iff_ne]
      rintro rfl
      exact h.line hc
    refine ⟨address, ':' :: (count ++ offsetSuffix offset ++ rest), ⟨by simp [h.text], h.nonempty, hline⟩, (), _, rfl, count,
      offsetSuffix offset ++ rest, ⟨by simp, h.count⟩, offset, rest, ?_, (), rest, ⟨hend, rfl⟩, rfl, rfl⟩
    cases hoffset : offset with
    | none => exact .inr ⟨rfl, rfl⟩
    | some digits => exact .inl ⟨digits, rfl, (), digits ++ rest, rfl, rfl, h.offset digits hoffset⟩

theorem matchShorthand_eq (h : Shorthand text address count offset) :
    matchShorthand (String.ofList text) =
      some (String.ofList address, String.ofList count, offset.map String.ofList) := by
  rw [matchShorthand, String.toList_ofList]
  have hself : ((String.ofList address, String.ofList count, offset.map String.ofList), []) ∈ shorthandPattern text :=
    mem_shorthandPattern.mpr ⟨text, address, count, offset, h, rfl, by simp, .inl rfl⟩
  refine Pattern.first_eq hself ?_
  intro groups rest' hway
  obtain ⟨front, address', count', offset', h', rfl, htext, hend | hend⟩ := mem_shorthandPattern.mp hway
  · rw [hend, List.append_nil] at htext
    subst htext
    obtain ⟨rfl, rfl, rfl⟩ := h.unique h'
    rfl
  · rw [hend] at htext
    exact absurd htext (h.no_newline front)

theorem exists_shorthand {s a c : String} {o : Option String} (h : matchShorthand s = some (a, c, o))
    (hend : ∀ front, s.toList ≠ front ++ ['\n']) :
    ∃ address count offset, Shorthand s.toList address count offset ∧ a = String.ofList address ∧
      c = String.ofList count ∧ o = offset.map String.ofList := by
  obtain ⟨rest, hway⟩ := Pattern.exists_of_first h
  obtain ⟨front, address, count, offset, hshorthand, hgroups, htext, rfl | rfl⟩ := mem_shorthandPattern.mp hway
  · rw [List.append_nil] at htext
    obtain ⟨rfl, hrest⟩ := Prod.mk.inj hgroups
    obtain ⟨rfl, rfl⟩ := Prod.mk.inj hrest
    exact ⟨address, count, offset, htext ▸ hshorthand, rfl, rfl, rfl⟩
  · exact absurd htext (hend front)

/-! ### The numbers -/

/-- An address expression: one line that neither starts nor ends with a blank. -/
structure Address (s : String) : Prop where
  solid : PyStr.solid s = true
  line : '\n' ∉ s.toList

/-- The text of a range, of which the offset may be left out. -/
def spelled (address : String) (count : Nat) : Option Nat → String
  | none => address ++ ":" ++ toString count
  | some offset => address ++ ":" ++ toString count ++ "@" ++ toString offset

theorem spelled_shorthand {address : String} (h : Address address) (count : Nat) (offset : Option Nat) :
    Shorthand (spelled address count offset).toList address.toList (Nat.toDigits 10 count)
      (offset.map (Nat.toDigits 10 ·)) := by
  have hdigits : ∀ n, Digits (Nat.toDigits 10 n) := fun n =>
    ⟨PyStr.toDigits_ne_nil n, PyStr.forall_mem_toDigits (by decide) n⟩
  have hsolid := (Bool.and_eq_true_iff.mp h.solid).1
  constructor
  · cases offset with
    | none => simp [spelled, offsetSuffix, Nat.toList_repr]
    | some offset => simp [spelled, offsetSuffix, Nat.toList_repr]
  · intro hnil
    rw [hnil] at hsolid
    exact nomatch hsolid
  · exact h.line
  · exact hdigits count
  · intro digits hoffset
    obtain ⟨n, -, rfl⟩ := Option.map_eq_some_iff.mp hoffset
    exact hdigits n

theorem solid_spelled {address : String} (h : Address address) (count : Nat) (offset : Option Nat) :
    PyStr.solid (spelled address count offset) = true := by
  have htext := (spelled_shorthand h count offset).text
  have hne : address.toList ≠ [] := (spelled_shorthand h count offset).nonempty
  refine Bool.and_eq_true_iff.mpr ⟨?_, ?_⟩
  · rw [htext, List.head?_append_of_ne_nil _ hne]
    exact (Bool.and_eq_true_iff.mp h.solid).1
  · rw [htext, List.getLast?_append_of_ne_nil _ (List.cons_ne_nil _ _)]
    cases offset with
    | none =>
        rw [Option.map_none, offsetSuffix, List.append_nil, ← List.singleton_append,
          List.getLast?_append_of_ne_nil _ (PyStr.toDigits_ne_nil count)]
        exact PyStr.getLast_toDigits count
    | some offset =>
        rw [Option.map_some, offsetSuffix, ← List.singleton_append (l := Nat.toDigits 10 offset), ← List.append_assoc,
          ← List.cons_append, List.getLast?_append_of_ne_nil _ (PyStr.toDigits_ne_nil offset)]
        exact PyStr.getLast_toDigits offset

def readOffset : Option (List Char) → Except PyError Int
  | some digits => PyStr.int 10 (String.ofList digits)
  | none => .ok 0

theorem parse_of_shorthand {value s : String} (hstrip : PyStr.strip value = s)
    (h : Shorthand s.toList address count offset) (index : Nat) :
    parseMemoryRangeShorthand value index =
      if PyStr.strip (String.ofList address) = "" then
        .ok (.error (memoryRangeError s!"Invalid memory_ranges[{index}] shorthand: missing address expression"))
      else do
        let count ← PyStr.int 10 (String.ofList count)
        let offset ← readOffset offset
        return .ok { address := PyStr.strip (String.ofList address), count, offset } := by
  have hne : s ≠ "" := by
    rintro rfl
    exact absurd h.text.symm (by simp)
  have hmatch := matchShorthand_eq h
  rw [String.ofList_toList] at hmatch
  rw [parseMemoryRangeShorthand, hstrip, if_neg hne, hmatch]
  cases offset <;> rfl

theorem ofList_toDigits (n : Nat) : String.ofList (Nat.toDigits 10 n) = toString (n : Int) := by
  rw [← PyStr.toList_toString_natCast, String.ofList_toList]

theorem parse_spelled {address before after : String} (h : Address address) (hbefore : PyStr.Blank before)
    (hafter : PyStr.Blank after) (count : Nat) (offset : Option Nat) (index : Nat) :
    parseMemoryRangeShorthand (before ++ spelled address count offset ++ after) index = do
      let count ← PyStr.int 10 (toString (count : Int))
      let offset ← readOffset (offset.map (Nat.toDigits 10 ·))
      return .ok { address, count, offset } := by
  have hne : address ≠ "" := by
    rintro rfl
    exact absurd h.solid (by decide)
  rw [parse_of_shorthand (PyStr.strip_blanks hbefore (solid_spelled h count offset) hafter) (spelled_shorthand h count offset),
    String.ofList_toList, PyStr.strip_of_solid h.solid, if_neg hne, ofList_toDigits]

theorem parse_spelled_ok {address before after : String} (h : Address address) (hbefore : PyStr.Blank before)
    (hafter : PyStr.Blank after) {count : Nat} (hcount : count < 10 ^ PyStr.maxStrDigits) {offset : Option Nat}
    (hoffset : ∀ o, offset = some o → o < 10 ^ PyStr.maxStrDigits) (index : Nat) :
    parseMemoryRangeShorthand (before ++ spelled address count offset ++ after) index =
      .ok (.ok { address, count, offset := offset.getD 0 }) := by
  rw [parse_spelled h hbefore hafter, PyStr.int_toString hcount]
  cases offset with
  | none => rfl
  | some offset =>
      rw [Option.map_some, readOffset, ofList_toDigits, PyStr.int_toString (hoffset offset rfl)]
      rfl

/-- A count that the interpreter does not convert makes no range. -/
theorem parse_spelled_long {address : String} (h : Address address) {count : Nat} (hcount : 10 ^ PyStr.maxStrDigits ≤ count)
    (offset : Option Nat) (index : Nat) (range : MemoryCaptureRange) :
    parseMemoryRangeShorthand (spelled address count offset) index ≠ .ok (.ok range) := by
  intro hparse
  have hblank : PyStr.Blank "" := fun c hc => absurd hc List.not_mem_nil
  have hspelled := parse_spelled h hblank hblank count offset index
  rw [String.empty_append, String.append_empty, hparse] at hspelled
  obtain ⟨k, hk, -⟩ := Eff.ok_of_except_bind hspelled.symm
  exact absurd ((PyStr.int_isOk_toString count).mp ⟨k, hk⟩) (not_lt.mpr hcount)

/-- A text spells a range: up to blanks around it or around the address, and zeros in front of the numbers, it is the
text of the range, in which an offset of zero may be left out. -/
def Spells (value : String) (range : MemoryCaptureRange) : Prop :=
  ∃ (before gap after : String) (zeros count : Nat) (offset : Option (Nat × Nat)),
    PyStr.Blank before ∧ PyStr.Blank gap ∧ PyStr.Blank after ∧
      value.toList = before.toList ++ range.address.toList ++ gap.toList ++ ':' :: (PyStr.padded zeros count ++
        offsetSuffix (offset.map fun o => PyStr.padded o.1 o.2)) ++ after.toList ∧
      Address range.address ∧ range.count = count ∧ range.offset = (offset.map (·.2)).getD 0 ∧ range.name = none

theorem int_digits {cs : List Char} (h : Digits cs) (hascii : ∀ c ∈ cs, c.toNat < 128) {k : Int}
    (hint : PyStr.int 10 (String.ofList cs) = .ok k) : ∃ zeros n, cs = PyStr.padded zeros n ∧ k = (n : Nat) := by
  have hdigits : ∀ c ∈ (String.ofList cs).toList, c ∈ PyStr.asciiDigits := by
    rw [String.toList_ofList]
    exact fun c hc => PyStr.mem_asciiDigits (hascii c hc) (h.2 c hc)
  have hread := PyStr.int_padded (by rw [String.toList_ofList]; exact h.1) hdigits hint
  rwa [String.toList_ofList] at hread

theorem blank_append {s t : String} (hs : PyStr.Blank s) (ht : PyStr.Blank t) : PyStr.Blank (s ++ t) := by
  intro c hc
  rw [String.toList_append] at hc
  exact (List.mem_append.mp hc).elim (hs c) (ht c)

theorem parse_spells {value : String} {index : Nat} {range : MemoryCaptureRange}
    (hascii : ∀ c ∈ value.toList, c.toNat < 128) (h : parseMemoryRangeShorthand value index = .ok (.ok range)) :
    Spells value range := by
  obtain ⟨before, after, hbefore, hafter, hvalue⟩ := PyStr.exists_blanks value
  have hne : PyStr.strip value ≠ "" := by
    intro hempty
    rw [parseMemoryRangeShorthand, if_pos hempty] at h
    exact nomatch Except.ok.inj h
  have hend : ∀ front, (PyStr.strip value).toList ≠ front ++ ['\n'] := by
    intro front heq
    have hsolid := (Bool.and_eq_true_iff.mp (PyStr.solid_strip hne)).2
    rw [heq, List.getLast?_append_of_ne_nil _ (List.cons_ne_nil _ _)] at hsolid
    exact absurd hsolid (by decide)
  obtain ⟨⟨a, c, o⟩, hmatch⟩ : ∃ groups, matchShorthand (PyStr.strip value) = some groups := by
    cases hmatch : matchShorthand (PyStr.strip value) with
    | some groups => exact ⟨groups, rfl⟩
    | none =>
        rw [parseMemoryRangeShorthand, if_neg hne, hmatch] at h
        exact nomatch Except.ok.inj h
  obtain ⟨address, count, offset, hshorthand, -⟩ := exists_shorthand hmatch hend
  rw [parse_of_shorthand rfl hshorthand] at h
  split at h
  · exact nomatch Except.ok.inj h
  rename_i haddress
  obtain ⟨k, hcount, h⟩ := Eff.ok_of_except_bind h
  obtain ⟨l, hoffset, h⟩ := Eff.ok_of_except_bind h
  obtain rfl := Except.ok.inj (Except.ok.inj h)
  have htext := hshorthand.text
  have hin : ∀ c ∈ address ++ ':' :: (count ++ offsetSuffix offset), c ∈ value.toList := fun c hc =>
    PyStr.mem_of_mem_strip (htext ▸ hc)
  obtain ⟨zeros, n, hn, hk⟩ := int_digits hshorthand.count (fun c hc => hascii c (hin c (by simp [hc]))) hcount
  obtain ⟨front, gap, hfront, hgap, hexpression⟩ := PyStr.exists_blanks (String.ofList address)
  have haddress' : Address (PyStr.strip (String.ofList address)) := by
    refine ⟨PyStr.solid_strip haddress, fun hmem => hshorthand.line ?_⟩
    have := PyStr.mem_of_mem_strip hmem
    rwa [String.toList_ofList] at this
  have hchars : address = front.toList ++ (PyStr.strip (String.ofList address)).toList ++ gap.toList := by
    rw [← String.toList_append, ← String.toList_append, ← hexpression, String.toList_ofList]
  have hcut : value.toList = (before ++ front).toList ++ (PyStr.strip (String.ofList address)).toList ++ gap.toList ++
      ':' :: (count ++ offsetSuffix offset) ++ after.toList := by
    rw [hvalue, String.toList_append, String.toList_append, htext, String.toList_append]
    nth_rewrite 1 [hchars]
    simp only [List.append_assoc]
  cases hoffset' : offset with
  | none =>
      rw [hoffset'] at hoffset hcut
      refine ⟨before ++ front, gap, after, zeros, n, none, blank_append hbefore hfront, hgap, hafter, ?_, haddress', hk,
        (Except.ok.inj hoffset).symm, rfl⟩
      rw [hcut, hn]
      rfl
  | some digits =>
      rw [hoffset'] at hoffset hcut
      have hdigits : ∀ c ∈ digits, c.toNat < 128 := fun c hc =>
        hascii c (hin c (by simp [hoffset', offsetSuffix, hc]))
      obtain ⟨zeros', m, hm, hl⟩ := int_digits (hshorthand.offset digits hoffset') hdigits hoffset
      refine ⟨before ++ front, gap, after, zeros, n, some (zeros', m), blank_append hbefore hfront, hgap, hafter, ?_,
        haddress', hk, hl, rfl⟩
      rw [hcut, hn, hm]
      rfl

/-- The shorthand is read back. The text of a range whose numbers the interpreter converts, with or without an offset and
with blanks around it, is parsed as that range, whatever colons, at signs and digits its address holds; and a text of
ASCII characters that is accepted spells the range that it is parsed as. -/
theorem shorthand_read_back (index : Nat) :
    (∀ (address before after : String) (count offset : Nat), Address address → PyStr.Blank before → PyStr.Blank after →
      count < 10 ^ PyStr.maxStrDigits → offset < 10 ^ PyStr.maxStrDigits →
      parseMemoryRangeShorthand (before ++ (address ++ ":" ++ toString count ++ "@" ++ toString offset) ++ after) index =
        .ok (.ok { address, count, offset }) ∧
      parseMemoryRangeShorthand (before ++ (address ++ ":" ++ toString count) ++ after) index =
        .ok (.ok { address, count, offset := 0 })) ∧
    (∀ (value : String) (range : MemoryCaptureRange), (∀ c ∈ value.toList, c.toNat < 128) →
      parseMemoryRangeShorthand value index = .ok (.ok range) → Spells value range) := by
  refine ⟨fun address before after count offset h hbefore hafter hcount hoffset => ⟨?_, ?_⟩, fun _ _ => parse_spells⟩
  · have hsome : ∀ o, some offset = some o → o < 10 ^ PyStr.maxStrDigits := fun o ho => by rwa [← Option.some.inj ho]
    exact parse_spelled_ok h hbefore hafter hcount hsome index
  · have hnone : ∀ o : Nat, none = some o → o < 10 ^ PyStr.maxStrDigits := fun o ho => nomatch ho
    exact parse_spelled_ok h hbefore hafter hcount hnone index

/-- A count of more digits than the interpreter converts. -/
theorem long_count_unread :
    parseMemoryRangeShorthand ("buffer" ++ ":" ++ toString (10 ^ PyStr.maxStrDigits) ++ "@" ++ toString 0) 0 ≠
      .ok (.ok { address := "buffer", count := (10 ^ PyStr.maxStrDigits : Nat), offset := 0 }) := by
  have haddress : Address "buffer" := ⟨by decide, by decide⟩
  exact parse_spelled_long haddress le_rfl (some 0) 0 _

end GdbMcp
