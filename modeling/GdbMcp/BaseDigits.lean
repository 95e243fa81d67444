import GdbMcp.BaseTextFacts

/-! The digits that `str.isdigit` accepts and `int` rejects, and hexadecimal numbers, which are read back. -/

namespace GdbMcp.PyStr

/-- The code points of blanks. -/
def blanks : List Nat :=
  [9, 10, 11, 12, 13, 28, 29, 30, 31, 32, 0x85, 0xA0, 0x1680, 0x2000, 0x2001, 0x2002, 0x2003, 0x2004, 0x2005, 0x2006,
    0x2007, 0x2008, 0x2009, 0x200A, 0x2028, 0x2029, 0x202F, 0x205F, 0x3000]

theorem mem_blanks {c : Char} (h : isSpace c = true) : c.toNat ∈ blanks := by
  simp only [isSpace, Bool.or_eq_true, Bool.and_eq_true, decide_eq_true_eq, beq_iff_eq] at h
  simp only [blanks, List.mem_cons, List.not_mem_nil, or_false]
  omega

theorem blanks_not_digits : ∀ n ∈ blanks, (decimalZeros.any fun z => z ≤ n && n < z + 10) = false ∧
    (otherDigits.any fun (lo, hi) => lo ≤ n && n ≤ hi) = false := by decide

/-- No blank is a digit. -/
theorem not_isDigitChar_of_isSpace {c : Char} (h : isSpace c = true) : isDigitChar c = false := by
  obtain ⟨hdecimal, hother⟩ := blanks_not_digits _ (mem_blanks h)
  rw [isDigitChar, hother, decimalValue, Option.isSome_map, Bool.or_false, ← Bool.not_eq_true, List.find?_isSome]
  rw [List.any_eq_false] at hdecimal
  simpa using hdecimal

theorem isSpace_of_isDigitChar {c : Char} (h : isDigitChar c = true) : isSpace c = false := by
  cases hspace : isSpace c with
  | false => rfl
  | true => exact absurd h (by rw [not_isDigitChar_of_isSpace hspace]; decide)

/-- Digits that `int` does not read: one of them is no decimal digit, or there are too many. -/
def rejectedDigits (s : String) : Bool :=
  isdigit s && ((s.toList.any fun c => (decimalValue c).isNone) || maxStrDigits < s.toList.length)

theorem solid_of_isdigit {s : String} (h : isdigit s = true) : solid s = true := by
  obtain ⟨hne, hall⟩ := Bool.and_eq_true_iff.mp h
  have hne : s.toList ≠ [] := by simpa using hne
  have hdigit := List.all_eq_true.mp hall
  refine Bool.and_eq_true_iff.mpr ⟨?_, ?_⟩
  · rw [List.head?_eq_some_head hne, Option.any_some, isSpace_of_isDigitChar (hdigit _ (List.head_mem _))]
    rfl
  · rw [List.getLast?_eq_getLast_of_ne_nil hne, Option.any_some, isSpace_of_isDigitChar (hdigit _ (List.getLast_mem _))]
    rfl

theorem asciiDigit_of_some {c : Char} {d : Nat} (h : decimalValue c = some d) : asciiDigit c = Nat.digitChar d := by
  rw [asciiDigit, h]
  rfl

theorem asciiDigit_of_none {c : Char} (h : decimalValue c = none) : asciiDigit c = c := by
  rw [asciiDigit, h]
  rfl

/-- A sign is no digit, and neither is an underscore. -/
theorem asciiDigit_ne {c : Char} (h : isDigitChar c = true) {sign : Char} (hsign : sign ∈ ['-', '+', '_']) :
    asciiDigit c ≠ sign := by
  cases hvalue : decimalValue c with
  | none =>
      rw [asciiDigit_of_none hvalue]
      rintro rfl
      have hnone : (['-', '+', '_'].all fun s => !isDigitChar s) = true := by decide
      exact absurd (List.all_eq_true.mp hnone _ hsign) (by rw [h]; decide)
  | some d =>
      have hd := decimalValue_lt hvalue
      rw [asciiDigit_of_some hvalue]
      have hdigit : ∀ d < 10, (['-', '+', '_'].all fun s => Nat.digitChar d != s) = true := by decide
      exact bne_iff_ne.mp (List.all_eq_true.mp (hdigit d hd) sign hsign)

theorem digitValue_asciiDigit (c : Char) : digitValue 10 (asciiDigit c) = decimalValue c := by
  cases hvalue : decimalValue c with
  | none =>
      rw [asciiDigit_of_none hvalue, digitValue, hvalue]
      dsimp only
      split
      · exact Option.filter_eq_none_iff.mpr (by simp)
      · split
        · exact Option.filter_eq_none_iff.mpr (by simp)
        · rfl
  | some d =>
      have hdigit : ∀ d < 10, digitValue 10 (Nat.digitChar d) = some d := by decide
      rw [asciiDigit_of_some hvalue]
      exact hdigit d (decimalValue_lt hvalue)

theorem decimalValue_asciiDigit {c : Char} (h : (decimalValue c).isSome = true) :
    (decimalValue (asciiDigit c)).isSome = true := by
  obtain ⟨d, hd⟩ := Option.isSome_iff_exists.mp h
  have hdigit : ∀ d < 10, (decimalValue (Nat.digitChar d)).isSome = true := by decide
  rw [asciiDigit_of_some hd]
  exact hdigit d (decimalValue_lt hd)

theorem isSome_digitsValue {cs : List Char} (h : ∀ c ∈ cs, isDigitChar c = true) (afterDigit : Bool) (acc : Nat) :
    (digitsValue 10 (cs.map asciiDigit) afterDigit acc).isSome =
      ((afterDigit || !cs.isEmpty) && cs.all fun c => (decimalValue c).isSome) := by
  induction cs generalizing afterDigit acc with
  | nil => cases afterDigit <;> rfl
  | cons c rest ih =>
      obtain ⟨hc, hrest⟩ := List.forall_mem_cons.mp h
      rw [List.map_cons, digitsValue, digitValue_asciiDigit]
      · cases hvalue : decimalValue c with
        | none => simp [hvalue]
        | some d => simp [hvalue, ih hrest]
      · exact asciiDigit_ne hc (by decide)

/-- Of the digits, `int` reads those that are not rejected. -/
theorem int_isOk_iff {s : String} (h : isdigit s = true) : (∃ k, int 10 s = .ok k) ↔ rejectedDigits s = false := by
  have hdigit : ∀ c ∈ s.toList, isDigitChar c = true := List.all_eq_true.mp (Bool.and_eq_true_iff.mp h).2
  have hne : s.toList.isEmpty = false := by simpa using (Bool.and_eq_true_iff.mp h).1
  have hsign : splitSign (s.toList.map asciiDigit) = (1, s.toList.map asciiDigit) := by
    cases hcs : s.toList with
    | nil => rfl
    | cons c rest =>
        have hc := hdigit c (hcs ▸ List.mem_cons_self)
        rw [List.map_cons]
        unfold splitSign
        split
        · rename_i heq
          exact absurd (List.cons.inj heq).1 (asciiDigit_ne hc (by decide))
        · rename_i heq
          exact absurd (List.cons.inj heq).1 (asciiDigit_ne hc (by decide))
        · rfl
  have hread := isSome_digitsValue hdigit false 0
  rw [hne] at hread
  rw [int, strip_of_solid (solid_of_isdigit h), hsign, rejectedDigits, h]
  simp only [unsignedValue, Nat.reduceEqDiff, if_false]
  cases hvalue : digitsValue 10 (s.toList.map asciiDigit) false 0 with
  | none =>
      rw [hvalue] at hread
      have hother : (s.toList.any fun c => (decimalValue c).isNone) = true := by
        simpa [List.all_eq_not_any_not] using hread
      simp [hother]
  | some n =>
      rw [hvalue] at hread
      have hall : ∀ c ∈ s.toList, (decimalValue c).isSome = true := by simpa using hread
      have hnone : (s.toList.any fun c => (decimalValue c).isNone) = false := by
        rw [List.any_eq_false]
        intro c hc
        simpa using Option.isSome_iff_ne_none.mp (hall c hc)
      have hmany : tooManyDigits 10 (s.toList.map asciiDigit) = decide (maxStrDigits < s.toList.length) := by
        rw [tooManyDigits, List.filter_eq_self.mpr, List.length_map]
        · rfl
        · intro c hc
          obtain ⟨c', hc', rfl⟩ := List.mem_map.mp hc
          exact decimalValue_asciiDigit (hall c' hc')
      dsimp only
      rw [hmany, hnone, Bool.false_or, Bool.true_and]
      split
      · rename_i hlong
        simp [hlong]
      · rename_i hshort
        simp [hshort]

/-- The texts of the numbers below the limit are the ones that `int` reads. -/
theorem int_isOk_toString (n : Nat) : (∃ k, int 10 (toString (n : Int)) = .ok k) ↔ n < 10 ^ maxStrDigits := by
  have hne : (toString (n : Int)).toList ≠ [] := by
    rw [toList_toString_natCast]
    exact toDigits_ne_nil n
  have hdigits : ∀ c ∈ (toString (n : Int)).toList, c ∈ asciiDigits := by
    rw [toList_toString_natCast]
    exact fun _ => mem_toDigits (by decide) (by decide)
  have hdecimal : ((toString (n : Int)).toList.any fun c => (decimalValue c).isNone) = false := by
    rw [List.any_eq_false]
    intro c hc
    have hsome := forall_asciiDigits (p := fun c => (decimalValue c).isSome) (by decide) hdigits c hc
    simpa using Option.isSome_iff_ne_none.mp hsome
  have hdigit := isdigit_of_asciiDigits hne hdigits
  rw [int_isOk_iff hdigit, rejectedDigits, hdigit, hdecimal, Bool.false_or, Bool.true_and, decide_eq_false_iff_not,
    toList_toString_natCast, not_lt, Nat.length_toDigits_le_iff (by decide) (by decide)]

theorem int_toString {n : Nat} (hn : n < 10 ^ maxStrDigits) : int 10 (toString (n : Int)) = .ok n := by
  obtain ⟨k, hk⟩ := (int_isOk_toString n).mpr hn
  rw [hk, int_natCast hk]

/-! ### Hexadecimal numbers -/

def hexDigits : List Char := ['0', '1', '2', '3', '4', '5', '6', '7', '8', '9', 'a', 'b', 'c', 'd', 'e', 'f']

theorem digitChar_mem {d : Nat} (hd : d < 16) : Nat.digitChar d ∈ hexDigits := by
  interval_cases d <;> decide

theorem mem_toDigits_hex {n : Nat} {c : Char} (h : c ∈ Nat.toDigits 16 n) : c ∈ hexDigits := by
  induction n using Nat.strong_induction_on with
  | _ n ih =>
      rw [Nat.toDigits_eq_if (by decide)] at h
      split at h
      · rename_i hn
        obtain rfl := List.mem_singleton.mp h
        exact digitChar_mem hn
      · rename_i hn
        rcases List.mem_append.mp h with h | h
        · exact ih (n / 16) (by omega) h
        · obtain rfl := List.mem_singleton.mp h
          exact digitChar_mem (Nat.mod_lt _ (by decide))

theorem digitsValue_toDigits_hex (n : Nat) : digitsValue 16 (Nat.toDigits 16 n) false 0 = some n := by
  have hdigit : ∀ d < 16, ∀ afterDigit acc,
      digitsValue 16 [Nat.digitChar d] afterDigit acc = some (acc * 16 + d) := by
    intro d hd afterDigit acc
    interval_cases d <;> rfl
  induction n using Nat.strong_induction_on with
  | _ n ih =>
      rw [Nat.toDigits_eq_if (by decide)]
      split
      · rename_i hn
        simpa using hdigit n hn false 0
      · rename_i hn
        rw [digitsValue_append (ih (n / 16) (by omega)), hdigit _ (Nat.mod_lt _ (by decide))]
        congr 1
        omega

/-- A number is read back from the text of `hex`. -/
theorem int_hex (n : Nat) : int 16 (hex n) = .ok n := by
  have hall : ∀ p : Char → Bool, hexDigits.all p = true → ∀ c ∈ Nat.toDigits 16 n, p c = true :=
    fun _ h _ hc => List.all_eq_true.mp h _ (mem_toDigits_hex hc)
  have hread := digitsValue_toDigits_hex n
  have hchars : (hex n).toList = '0' :: 'x' :: Nat.toDigits 16 n := by
    simp only [hex, String.toList_append, String.toList_ofList]
    rfl
  have hsame : (hex n).toList.map asciiDigit = '0' :: 'x' :: Nat.toDigits 16 n := by
    have hdigits : (Nat.toDigits 16 n).map asciiDigit = Nat.toDigits 16 n :=
      (List.map_congr_left fun c hc => beq_iff_eq.mp (hall (fun c => asciiDigit c == c) (by decide) c hc)).trans
        (List.map_id _)
    rw [hchars, List.map_cons, List.map_cons, hdigits]
    rfl
  have hsolid : solid (hex n) = true := by
    rw [solid, hchars]
    cases hds : Nat.toDigits 16 n with
    | nil => rfl
    | cons d ds =>
        rw [List.getLast?_cons_cons, List.getLast?_cons_cons, ← hds]
        have hne : Nat.toDigits 16 n ≠ [] := by rw [hds]; exact List.cons_ne_nil _ _
        rw [List.getLast?_eq_getLast_of_ne_nil hne, Option.any_some]
        exact Bool.and_eq_true_iff.mpr ⟨rfl, hall (!isSpace ·) (by decide) _ (List.getLast_mem hne)⟩
  have hprefix : dropHexPrefix ('0' :: 'x' :: Nat.toDigits 16 n) = Nat.toDigits 16 n := by
    cases hds : Nat.toDigits 16 n with
    | nil => rfl
    | cons d ds =>
        have hd : d ≠ '_' := by
          have := hall (· != '_') (by decide) d (hds ▸ List.mem_cons_self)
          simpa using this
        unfold dropHexPrefix
        split
        · rename_i heq
          simp_all
        · rename_i heq
          simp_all
        · rename_i heq
          simp_all
        · rename_i heq
          simp_all
        · rename_i hnot _
          exact absurd rfl (hnot _)
  have hsign : splitSign ('0' :: 'x' :: Nat.toDigits 16 n) = (1, '0' :: 'x' :: Nat.toDigits 16 n) := rfl
  rw [int, strip_of_solid hsolid, hsame, hsign]
  dsimp only
  rw [unsignedValue, if_pos rfl, hprefix, hread, tooManyDigits]
  simp

end GdbMcp.PyStr
