import GdbMcp.BaseText
import Mathlib.Tactic.IntervalCases

/-! Prefixes and numerals: what stripping and lowering keep of the start of a text, and that a number is
read back from its decimal text. -/

namespace GdbMcp.PyStr

/-! ### Prefixes -/

/-- Neither text is a prefix of the other. -/
def apart (p q : String) : Bool := !startswith p q && !startswith q p

/-- A text that neither starts nor ends with a blank. -/
def solid (p : String) : Bool :=
  p.toList.head?.any (!isSpace ·) && p.toList.getLast?.any (!isSpace ·)

theorem startswith_iff {s p : String} : startswith s p = true ↔ ∃ rest, s.toList = p.toList ++ rest := by
  rw [startswith, List.isPrefixOf_iff_prefix]
  exact ⟨fun ⟨rest, h⟩ => ⟨rest, h.symm⟩, fun ⟨rest, h⟩ => ⟨rest, h.symm⟩⟩

theorem startswith_append (p t : String) : startswith (p ++ t) p = true := by
  rw [startswith_iff]
  exact ⟨t.toList, String.toList_append⟩

theorem startswith_trans {s p q : String} (h : startswith s p = true) (h' : startswith p q = true) :
    startswith s q = true := by
  rw [startswith, List.isPrefixOf_iff_prefix] at h h' ⊢
  exact h'.trans h

theorem startswith_append_left {p q : String} (h : startswith p q = true) (t : String) :
    startswith (p ++ t) q = true :=
  startswith_trans (startswith_append p t) h

theorem startswith_apart {s p q : String} (h : startswith s p = true) (hpq : apart p q = true) :
    startswith s q = false := by
  rw [apart, Bool.and_eq_true, Bool.not_eq_true', Bool.not_eq_true'] at hpq
  by_contra hq
  rw [Bool.not_eq_false] at hq
  rw [startswith, List.isPrefixOf_iff_prefix] at h hq
  rcases List.prefix_or_prefix_of_prefix h hq with hle | hle <;>
    rw [← List.isPrefixOf_iff_prefix] at hle
  · exact absurd hle (by rw [show p.toList.isPrefixOf q.toList = false from hpq.2]; decide)
  · exact absurd hle (by rw [show q.toList.isPrefixOf p.toList = false from hpq.1]; decide)

/-- A text that starts with a text apart from all of a list starts with none of the list. -/
theorem any_startswith_apart {s p : String} {prefixes : List String} (h : startswith s p = true)
    (hprefixes : ∀ q ∈ prefixes, apart p q = true) : prefixes.any (startswith s) = false := by
  rw [List.any_eq_false]
  intro q hq
  rw [startswith_apart h (hprefixes q hq)]
  exact Bool.false_ne_true

theorem startswith_strip {s p : String} (h : startswith s p = true) (hp : solid p = true) :
    startswith (strip s) p = true := by
  obtain ⟨rest, hs⟩ := startswith_iff.mp h
  rw [solid, Bool.and_eq_true] at hp
  have hstart : s.toList.dropWhile isSpace = p.toList ++ rest := by
    rw [hs]
    cases hcs : p.toList with
    | nil => rw [hcs] at hp; exact absurd hp.1 (by decide)
    | cons c cs =>
        have hc : ¬isSpace c = true := by rw [hcs] at hp; simpa using hp.1
        rw [List.cons_append, List.dropWhile_cons_of_neg hc]
  have hend : p.toList.reverse.dropWhile isSpace = p.toList.reverse := by
    cases hcs : p.toList.reverse with
    | nil => rfl
    | cons c cs =>
        have hlast : p.toList.getLast? = some c := by
          rw [← List.head?_reverse, hcs]
          rfl
        have hc : ¬isSpace c = true := by rw [hlast] at hp; simpa using hp.2
        rw [List.dropWhile_cons_of_neg hc]
  rw [startswith_iff, strip, hstart, List.reverse_append, List.dropWhile_append, String.toList_ofList]
  split
  · exact ⟨[], by rw [hend]; simp⟩
  · exact ⟨_, by rw [List.reverse_append, List.reverse_reverse]⟩

theorem dropWhile_eq_self_of_head {cs : List Char} (h : cs.head?.any (!isSpace ·) = true) : cs.dropWhile isSpace = cs := by
  cases cs with
  | nil => rfl
  | cons c rest => exact List.dropWhile_cons_of_neg (by simpa using h)

theorem strip_of_solid {s : String} (h : solid s = true) : strip s = s := by
  obtain ⟨hfirst, hlast⟩ := Bool.and_eq_true_iff.mp h
  have hend : s.toList.reverse.dropWhile isSpace = s.toList.reverse :=
    dropWhile_eq_self_of_head (by rw [List.head?_reverse]; exact hlast)
  rw [strip, dropWhile_eq_self_of_head hfirst, hend, List.reverse_reverse, String.ofList_toList]

theorem solid_strip {s : String} (h : strip s ≠ "") : solid (strip s) = true := by
  have hne : (strip s).toList ≠ [] := by
    intro hnil
    exact h (String.toList_inj.mp hnil)
  have hdrop : ∀ cs : List Char, (cs.dropWhile isSpace) ≠ [] → (cs.dropWhile isSpace).head?.any (!isSpace ·) = true := by
    intro cs hcs
    rw [List.head?_eq_some_head hcs, Option.any_some]
    simpa using List.head_dropWhile_not isSpace hcs
  rw [strip, String.toList_ofList] at hne
  have hinner : s.toList.dropWhile isSpace ≠ [] := by
    intro hnil
    rw [hnil] at hne
    exact hne rfl
  refine Bool.and_eq_true_iff.mpr ⟨?_, ?_⟩
  · have hback := List.takeWhile_append_dropWhile (p := isSpace) (l := (s.toList.dropWhile isSpace).reverse)
    have hhead := hdrop s.toList hinner
    rw [← List.reverse_reverse (s.toList.dropWhile isSpace), ← hback, List.reverse_append,
      List.head?_append_of_ne_nil _ hne] at hhead
    rwa [strip, String.toList_ofList]
  · rw [strip, String.toList_ofList, List.getLast?_reverse]
    exact hdrop _ (by simpa using hne)

theorem startswith_lower {s p : String} (h : startswith s p = true) :
    startswith (lower s) (lower p) = true := by
  obtain ⟨rest, hs⟩ := startswith_iff.mp h
  rw [startswith_iff]
  exact ⟨rest.flatMap lowerChar, by simp [lower, hs]⟩

theorem contains_of_startswith {s p : String} (h : startswith s p = true) : contains s p = true := by
  have hself : s.toList ∈ s.toList.tails := by cases s.toList <;> simp
  exact List.any_eq_true.mpr ⟨s.toList, hself, h⟩

/-! ### Numerals -/

theorem digitsValue_append {base : Nat} {xs ys : List Char} {afterDigit : Bool} {acc n : Nat}
    (h : digitsValue base xs afterDigit acc = some n) :
    digitsValue base (xs ++ ys) afterDigit acc = digitsValue base ys true n := by
  induction xs generalizing afterDigit acc with
  | nil =>
      cases afterDigit with
      | false => exact nomatch h
      | true =>
          obtain rfl : acc = n := by simpa [digitsValue] using h
          rfl
  | cons c rest ih =>
      by_cases hc : c = '_'
      · subst hc
        cases afterDigit with
        | false => exact nomatch h
        | true => exact ih h
      · rw [List.cons_append]
        rw [digitsValue] at h ⊢
        · cases hd : digitValue base c with
          | none => simp [hd] at h
          | some d =>
              simp only [hd] at h ⊢
              exact ih h
        · exact fun h => hc h
        · exact fun h => hc h

theorem digitsValue_digitChar {d : Nat} (hd : d < 10) (afterDigit : Bool) (acc : Nat) :
    digitsValue 10 [Nat.digitChar d] afterDigit acc = some (acc * 10 + d) := by
  interval_cases d <;> rfl

theorem digitsValue_toDigits (n : Nat) : digitsValue 10 (Nat.toDigits 10 n) false 0 = some n := by
  induction n using Nat.strong_induction_on with
  | _ n ih =>
      rw [Nat.toDigits_eq_if (by decide)]
      split
      · rename_i hn
        simpa using digitsValue_digitChar hn false 0
      · rename_i hn
        rw [digitsValue_append (ih (n / 10) (by omega)), digitsValue_digitChar (Nat.mod_lt _ (by decide))]
        congr 1
        omega

/-- The number that a text with an optional sign spells. -/
def readInt (cs : List Char) : Option Int :=
  let (sign, digits) := splitSign cs
  (digitsValue 10 digits false 0).map (sign * ·)

/-- A number is read back from its text. -/
theorem readInt_toString (k : Int) : readInt (toString k).toList = some k := by
  cases k with
  | ofNat n =>
      have hchars : (toString (Int.ofNat n)).toList = Nat.toDigits 10 n := Nat.toList_repr
      have hdigit : ∀ c rest, Nat.toDigits 10 n = c :: rest → c.isDigit = true := fun c rest h =>
        Nat.isDigit_of_mem_toDigits (by decide) (by decide) (h ▸ List.mem_cons_self)
      have hsign : splitSign (Nat.toDigits 10 n) = (1, Nat.toDigits 10 n) := by
        cases hcs : Nat.toDigits 10 n with
        | nil => rfl
        | cons c rest =>
            have hc := hdigit c rest hcs
            unfold splitSign
            split
            · simp_all
            · simp_all
            · rfl
      rw [hchars, readInt, hsign]
      simp [digitsValue_toDigits]
  | negSucc n =>
      have hchars : (toString (Int.negSucc n)).toList = '-' :: Nat.toDigits 10 (n + 1) := by
        change ("-" ++ Nat.repr (n + 1)).toList = _
        rw [String.toList_append, Nat.toList_repr]
        rfl
      rw [hchars, readInt, splitSign]
      simp [digitsValue_toDigits, Int.negSucc_eq]

/-! ### Digits -/

theorem toList_toString_natCast (n : Nat) : (toString (n : Int)).toList = Nat.toDigits 10 n := Nat.toList_repr

def asciiDigits : List Char := ['0', '1', '2', '3', '4', '5', '6', '7', '8', '9']

/-- The digits in which a number is written, in a base up to ten. -/
theorem mem_toDigits {b : Nat} (hb : 1 < b) (hten : b ≤ 10) {n : Nat} {c : Char} (h : c ∈ Nat.toDigits b n) :
    c ∈ asciiDigits := by
  induction n using Nat.strong_induction_on with
  | _ n ih =>
      rw [Nat.toDigits_eq_if hb] at h
      have hdigit : ∀ d < 10, Nat.digitChar d ∈ asciiDigits := by
        intro d hd
        interval_cases d <;> decide
      split at h
      · rename_i hn
        obtain rfl := List.mem_singleton.mp h
        exact hdigit n (by omega)
      · rename_i hn
        rcases List.mem_append.mp h with h | h
        · exact ih (n / b) (Nat.div_lt_self (by omega) hb) h
        · obtain rfl := List.mem_singleton.mp h
          exact hdigit _ ((Nat.mod_lt _ (by omega)).trans_le hten)

/-- What holds of all digits holds of the characters of a number. -/
theorem forall_mem_toDigits {p : Char → Bool} (h : asciiDigits.all p = true) (n : Nat) :
    ∀ c ∈ Nat.toDigits 10 n, p c = true :=
  fun _ hc => List.all_eq_true.mp h _ (mem_toDigits (by decide) (by decide) hc)

theorem flatMap_toDigits {f : Char → List Char} (h : asciiDigits.all (fun c => f c == [c]) = true) (n : Nat) :
    (Nat.toDigits 10 n).flatMap f = Nat.toDigits 10 n := by
  have hsame : ∀ c ∈ Nat.toDigits 10 n, f c = [c] := fun c hc => by simpa using forall_mem_toDigits h n c hc
  rw [List.flatMap_congr hsame]
  exact List.flatMap_singleton' _

theorem toDigits_ne_nil (n : Nat) : Nat.toDigits 10 n ≠ [] := by
  intro h
  have hread := digitsValue_toDigits n
  rw [h] at hread
  exact nomatch hread

theorem getLast_toDigits (n : Nat) : ((Nat.toDigits 10 n).getLast?).any (!isSpace ·) = true := by
  rw [List.getLast?_eq_getLast_of_ne_nil (toDigits_ne_nil n), Option.any_some]
  exact forall_mem_toDigits (p := (!isSpace ·)) (by decide) n _ (List.getLast_mem _)

theorem solid_append_natCast {p : String} (hp : p.toList.head?.any (!isSpace ·) = true) (n : Nat) :
    solid (p ++ toString (n : Int)) = true := by
  rw [solid, String.toList_append, toList_toString_natCast]
  cases hcs : p.toList with
  | nil =>
      rw [hcs] at hp
      exact nomatch hp
  | cons c rest =>
      rw [hcs] at hp
      rw [List.getLast?_append_of_ne_nil _ (toDigits_ne_nil n)]
      exact Bool.and_eq_true_iff.mpr ⟨hp, getLast_toDigits n⟩

theorem solid_natCast (n : Nat) : solid (toString (n : Int)) = true := by
  rw [solid, toList_toString_natCast]
  refine Bool.and_eq_true_iff.mpr ⟨?_, getLast_toDigits n⟩
  rw [List.head?_eq_some_head (toDigits_ne_nil n), Option.any_some]
  exact forall_mem_toDigits (p := (!isSpace ·)) (by decide) n _ (List.head_mem _)

theorem forall_asciiDigits {p : Char → Bool} (h : asciiDigits.all p = true) {cs : List Char}
    (hcs : ∀ c ∈ cs, c ∈ asciiDigits) : ∀ c ∈ cs, p c = true :=
  fun c hc => List.all_eq_true.mp h c (hcs c hc)

theorem solid_of_asciiDigits {s : String} (hne : s.toList ≠ []) (hs : ∀ c ∈ s.toList, c ∈ asciiDigits) : solid s = true := by
  have hsolid := forall_asciiDigits (p := (!isSpace ·)) (by decide) hs
  refine Bool.and_eq_true_iff.mpr ⟨?_, ?_⟩
  · rw [List.head?_eq_some_head hne, Option.any_some]
    exact hsolid _ (List.head_mem _)
  · rw [List.getLast?_eq_getLast_of_ne_nil hne, Option.any_some]
    exact hsolid _ (List.getLast_mem _)

theorem isdigit_of_asciiDigits {s : String} (hne : s.toList ≠ []) (hs : ∀ c ∈ s.toList, c ∈ asciiDigits) :
    isdigit s = true := by
  refine Bool.and_eq_true_iff.mpr ⟨by simpa using hne, List.all_eq_true.mpr ?_⟩
  exact forall_asciiDigits (by decide) hs

/-- A text of digits is read as the number that they spell, if it is read. -/
theorem int_of_asciiDigits {s : String} {m : Nat} {k : Int} (hs : ∀ c ∈ s.toList, c ∈ asciiDigits)
    (hvalue : digitsValue 10 s.toList false 0 = some m) (h : int 10 s = .ok k) : k = m := by
  have hne : s.toList ≠ [] := by
    intro hnil
    rw [hnil] at hvalue
    exact nomatch hvalue
  have hascii : s.toList.map asciiDigit = s.toList := by
    have hsame : ∀ c ∈ s.toList, asciiDigit c = id c := fun c hc => by
      simpa using forall_asciiDigits (p := fun c => asciiDigit c == c) (by decide) hs c hc
    rw [List.map_congr_left hsame, List.map_id]
  have hsign : splitSign s.toList = (1, s.toList) := by
    have hplain := forall_asciiDigits (p := fun c => c != '-' && c != '+') (by decide) hs
    cases hcs : s.toList with
    | nil => rfl
    | cons c rest =>
        have hc := hplain c (hcs ▸ List.mem_cons_self)
        unfold splitSign
        split
        · simp_all
        · simp_all
        · rfl
  rw [int, strip_of_solid (solid_of_asciiDigits hne hs), hascii, hsign] at h
  simp only [unsignedValue, Nat.reduceEqDiff, if_false, hvalue] at h
  split at h
  · exact nomatch h
  · rw [← Except.ok.inj h]
    exact one_mul _

/-- A number that is read back from its text is the same, if it is read. -/
theorem int_natCast {n : Nat} {k : Int} (h : int 10 (toString (n : Int)) = .ok k) : k = n := by
  apply int_of_asciiDigits ?_ ?_ h
  · rw [toList_toString_natCast]
    exact fun _ => mem_toDigits (by decide) (by decide)
  · rw [toList_toString_natCast]
    exact digitsValue_toDigits n

theorem mem_of_mem_strip {s : String} {c : Char} (h : c ∈ (strip s).toList) : c ∈ s.toList := by
  rw [strip, String.toList_ofList, List.mem_reverse] at h
  have hback := (List.dropWhile_sublist (p := isSpace)).subset h
  rw [List.mem_reverse] at hback
  exact (List.dropWhile_sublist (p := isSpace)).subset hback

theorem decimalValue_lt {c : Char} {d : Nat} (h : decimalValue c = some d) : d < 10 := by
  obtain ⟨z, hz, rfl⟩ := Option.map_eq_some_iff.mp h
  have hrange := List.find?_some hz
  simp only [Bool.and_eq_true, decide_eq_true_eq] at hrange
  omega

theorem asciiDigit_ne_minus {c : Char} (h : isDigitChar c = true) : asciiDigit c ≠ '-' := by
  rw [asciiDigit]
  cases hvalue : decimalValue c with
  | none =>
      rintro (rfl : c = '-')
      exact absurd h (by decide)
  | some d =>
      have hd := decimalValue_lt hvalue
      show Nat.digitChar d ≠ '-'
      interval_cases d <;> decide

theorem splitSign_fst {cs : List Char} (h : '-' ∉ cs) : (splitSign cs).1 = 1 := by
  unfold splitSign
  split
  · exact absurd List.mem_cons_self h
  · rfl
  · rfl

/-- Digits are no negative number. -/
theorem int_nonneg {s : String} {k : Int} (hs : isdigit s = true) (h : int 10 s = .ok k) : 0 ≤ k := by
  have hdigits : ∀ c ∈ s.toList, isDigitChar c = true := List.all_eq_true.mp (Bool.and_eq_true_iff.mp hs).2
  have hminus : '-' ∉ (strip s).toList.map asciiDigit := by
    intro hmem
    obtain ⟨c, hc, heq⟩ := List.mem_map.mp hmem
    exact asciiDigit_ne_minus (hdigits c (mem_of_mem_strip hc)) heq
  have hsign := splitSign_fst hminus
  rw [int] at h
  rcases hsplit : splitSign ((strip s).toList.map asciiDigit) with ⟨sign, body⟩
  rw [hsplit] at h hsign
  obtain rfl : sign = 1 := hsign
  simp only at h
  split at h
  · split at h
    · exact nomatch h
    · rw [← Except.ok.inj h, Int.one_mul]
      exact Int.natCast_nonneg _
  · exact nomatch h

end GdbMcp.PyStr
