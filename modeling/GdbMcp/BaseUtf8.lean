import Mathlib.Tactic.Common

/-! The decoding of UTF-8 with replacement: the longest part of a sequence that could still have become a character is
replaced as one, when another byte or the end follows it. Nothing here refers to a particular program. -/

namespace GdbMcp
namespace Utf8

def replacement : Char := Char.ofNat 0xFFFD

/-- A character of several bytes that has begun: the bounds of its next byte, how many follow that one, and the bits of
the bytes so far. -/
structure Pending where
  low : Nat
  high : Nat
  more : Nat
  bits : Nat
  low_ge : 0x80 ≤ low

/-- The characters that a byte ends, and what it begins, when no character has begun before it. -/
def start (b : UInt8) : List Char × Option Pending :=
  if b.toNat < 0x80 then ([Char.ofNat b.toNat], none)
  else if b.toNat < 0xC2 then ([replacement], none)
  else if b.toNat < 0xE0 then ([], some ⟨0x80, 0xBF, 0, b.toNat - 0xC0, Nat.le_refl _⟩)
  else if b.toNat < 0xF0 then
    -- Overlong forms begin below the bounds of the second byte, and surrogates above them.
    ([], some ⟨if b.toNat = 0xE0 then 0xA0 else 0x80, if b.toNat = 0xED then 0x9F else 0xBF, 1, b.toNat - 0xE0,
      by split <;> decide⟩)
  else if b.toNat < 0xF5 then
    ([], some ⟨if b.toNat = 0xF0 then 0x90 else 0x80, if b.toNat = 0xF4 then 0x8F else 0xBF, 2, b.toNat - 0xF0,
      by split <;> decide⟩)
  else ([replacement], none)

def step : Option Pending → UInt8 → List Char × Option Pending
  | none, b => start b
  | some pending, b =>
    if pending.low ≤ b.toNat ∧ b.toNat ≤ pending.high then
      let bits := pending.bits * 0x40 + (b.toNat - 0x80)
      match pending.more with
      | 0 => ([Char.ofNat bits], none)
      | more + 1 => ([], some ⟨0x80, 0xBF, more, bits, Nat.le_refl _⟩)
    else (replacement :: (start b).1, (start b).2)

def decodeFrom : Option Pending → List UInt8 → List Char
  | none, [] => []
  | some _, [] => [replacement]
  | pending, b :: rest => (step pending b).1 ++ decodeFrom (step pending b).2 rest

/-- `bytes.decode("utf-8", errors="replace")`. -/
def decode (bytes : List UInt8) : String := String.ofList (decodeFrom none bytes)

variable {b : UInt8}

theorem start_ascii (hb : b.toNat < 0x80) : start b = ([Char.ofNat b.toNat], none) := if_pos hb

theorem step_ascii (hb : b.toNat < 0x80) (pending : Option Pending) (rest : List UInt8) :
    decodeFrom pending (b :: rest) = decodeFrom pending [] ++ Char.ofNat b.toNat :: decodeFrom none rest := by
  cases pending with
  | none => simp only [decodeFrom, step, start_ascii hb, List.nil_append, List.singleton_append]
  | some pending =>
      have hlow : ¬(pending.low ≤ b.toNat ∧ b.toNat ≤ pending.high) := by
        have := pending.low_ge
        omega
      simp only [decodeFrom, step, if_neg hlow, start_ascii hb]
      rfl

/-- An ASCII byte is decoded by itself, whatever is in front of it. -/
theorem decodeFrom_ascii (hb : b.toNat < 0x80) (pending : Option Pending) (front rest : List UInt8) :
    decodeFrom pending (front ++ b :: rest) =
      decodeFrom pending front ++ Char.ofNat b.toNat :: decodeFrom none rest := by
  induction front generalizing pending with
  | nil => exact step_ascii hb pending rest
  | cons c front ih =>
      rw [List.cons_append, decodeFrom, decodeFrom, ih, List.append_assoc]

theorem decodeFrom_start (b : UInt8) (rest : List UInt8) :
    decodeFrom none (b :: rest) = (start b).1 ++ decodeFrom (start b).2 rest := rfl

theorem toNat_ofNat {n : Nat} (h : n < 0x100) : (UInt8.ofNat n).toNat = n := by
  simp [Nat.mod_eq_of_lt h]

/-- A byte within its bounds is taken into the character. -/
theorem decodeFrom_taken {n : Nat} {pending : Pending} (hlow : pending.low ≤ n) (hhigh : n ≤ pending.high) (hn : n < 0x100)
    (rest : List UInt8) :
    decodeFrom (some pending) (UInt8.ofNat n :: rest) =
      match pending.more with
      | 0 => Char.ofNat (pending.bits * 0x40 + (n - 0x80)) :: decodeFrom none rest
      | more + 1 => decodeFrom (some ⟨0x80, 0xBF, more, pending.bits * 0x40 + (n - 0x80), Nat.le_refl _⟩) rest := by
  rw [decodeFrom, step, toNat_ofNat hn, if_pos ⟨hlow, hhigh⟩]
  cases pending.more <;> rfl

theorem start_two {n : Nat} (hlow : 0xC2 ≤ n) (hhigh : n < 0xE0) :
    start (UInt8.ofNat n) = ([], some ⟨0x80, 0xBF, 0, n - 0xC0, Nat.le_refl _⟩) := by
  simp only [start, toNat_ofNat (show n < 0x100 by omega)]
  rw [if_neg (by omega), if_neg (by omega), if_pos hhigh]

theorem start_three {n : Nat} (hlow : 0xE0 ≤ n) (hhigh : n < 0xF0) :
    start (UInt8.ofNat n) = ([], some ⟨if n = 0xE0 then 0xA0 else 0x80, if n = 0xED then 0x9F else 0xBF, 1, n - 0xE0,
      by split <;> decide⟩) := by
  simp only [start, toNat_ofNat (show n < 0x100 by omega)]
  rw [if_neg (by omega), if_neg (by omega), if_neg (by omega), if_pos hhigh]

theorem start_four {n : Nat} (hlow : 0xF0 ≤ n) (hhigh : n < 0xF5) :
    start (UInt8.ofNat n) = ([], some ⟨if n = 0xF0 then 0x90 else 0x80, if n = 0xF4 then 0x8F else 0xBF, 2, n - 0xF0,
      by split <;> decide⟩) := by
  simp only [start, toNat_ofNat (show n < 0x100 by omega)]
  rw [if_neg (by omega), if_neg (by omega), if_neg (by omega), if_neg (by omega), if_pos hhigh]

/-- The encoding of a code point that is no surrogate is decoded to it. -/
theorem decodeFrom_bytes {n : Nat} (hn : n < 0xD800 ∨ 0xDFFF < n ∧ n < 0x110000) (rest : List UInt8) :
    decodeFrom none
      ((if n ≤ 0x7f then [UInt8.ofNat n]
        else if n ≤ 0x7ff then [UInt8.ofNat (n / 64 % 0x20 + 0xc0), UInt8.ofNat (n % 0x40 + 0x80)]
        else if n ≤ 0xffff then
          [UInt8.ofNat (n / 4096 % 0x10 + 0xe0), UInt8.ofNat (n / 64 % 0x40 + 0x80), UInt8.ofNat (n % 0x40 + 0x80)]
        else [UInt8.ofNat (n / 262144 % 0x08 + 0xf0), UInt8.ofNat (n / 4096 % 0x40 + 0x80),
          UInt8.ofNat (n / 64 % 0x40 + 0x80), UInt8.ofNat (n % 0x40 + 0x80)]) ++ rest) =
      Char.ofNat n :: decodeFrom none rest := by
  split
  · have hascii : (UInt8.ofNat n).toNat < 0x80 := by
      rw [toNat_ofNat (by omega)]
      omega
    rw [List.cons_append, step_ascii hascii, toNat_ofNat (by omega)]
    rfl
  split
  · rw [List.cons_append, decodeFrom_start, start_two (by omega) (by omega), List.cons_append, List.nil_append,
      decodeFrom_taken (by dsimp only; omega) (by dsimp only; omega) (by omega)]
    dsimp only
    rw [show (n / 64 % 0x20 + 0xc0 - 0xC0) * 0x40 + (n % 0x40 + 0x80 - 0x80) = n by omega]
    rfl
  split
  · rw [List.cons_append, decodeFrom_start, start_three (by omega) (by omega), List.cons_append, List.nil_append,
      decodeFrom_taken (by dsimp only; split <;> omega) (by dsimp only; split <;> omega) (by omega)]
    dsimp only
    rw [List.cons_append, decodeFrom_taken (by dsimp only; omega) (by dsimp only; omega) (by omega)]
    dsimp only
    rw [show ((n / 4096 % 0x10 + 0xe0 - 0xE0) * 0x40 + (n / 64 % 0x40 + 0x80 - 0x80)) * 0x40 +
      (n % 0x40 + 0x80 - 0x80) = n by omega]
    rfl
  · rw [List.cons_append, decodeFrom_start, start_four (by omega) (by omega), List.cons_append, List.nil_append,
      decodeFrom_taken (by dsimp only; split <;> omega) (by dsimp only; split <;> omega) (by omega)]
    dsimp only
    rw [List.cons_append, decodeFrom_taken (by dsimp only; omega) (by dsimp only; omega) (by omega)]
    dsimp only
    rw [List.cons_append, decodeFrom_taken (by dsimp only; omega) (by dsimp only; omega) (by omega)]
    dsimp only
    rw [show (((n / 262144 % 0x08 + 0xf0 - 0xF0) * 0x40 + (n / 4096 % 0x40 + 0x80 - 0x80)) * 0x40 +
      (n / 64 % 0x40 + 0x80 - 0x80)) * 0x40 + (n % 0x40 + 0x80 - 0x80) = n by omega]
    rfl

theorem decodeFrom_encode (c : Char) (rest : List UInt8) :
    decodeFrom none (String.utf8EncodeChar c ++ rest) = c :: decodeFrom none rest :=
  (decodeFrom_bytes c.valid rest).trans (by rw [show Char.ofNat c.val.toNat = c from Char.ofNat_toNat c])

/-- Only an ASCII character has an ASCII byte in its encoding. -/
theorem toNat_of_ascii_mem {c : Char} {b : UInt8} (hb : b.toNat < 0x80) (h : b ∈ String.utf8EncodeChar c) :
    c.toNat = b.toNat := by
  have hlarge : ∀ n, 0x80 ≤ n → n < 0x100 → b ≠ UInt8.ofNat n := by
    rintro n hlow hhigh rfl
    rw [toNat_ofNat hhigh] at hb
    omega
  simp only [String.utf8EncodeChar] at h
  split at h
  · rename_i hn
    rw [List.mem_singleton] at h
    rw [h, toNat_ofNat (by omega)]
    rfl
  split at h
  · simp only [List.mem_cons, List.not_mem_nil, or_false] at h
    rcases h with h | h <;> exact absurd h (hlarge _ (by omega) (by omega))
  split at h
  · simp only [List.mem_cons, List.not_mem_nil, or_false] at h
    rcases h with h | h | h <;> exact absurd h (hlarge _ (by omega) (by omega))
  · simp only [List.mem_cons, List.not_mem_nil, or_false] at h
    rcases h with h | h | h | h <;> exact absurd h (hlarge _ (by omega) (by omega))

def encode (text : String) : List UInt8 := text.toList.flatMap String.utf8EncodeChar

/-- The encoding of a text is decoded to it. -/
theorem decode_encode (text : String) : decode (text.toList.flatMap String.utf8EncodeChar) = text := by
  have hchars : ∀ cs : List Char, decodeFrom none (cs.flatMap String.utf8EncodeChar) = cs := by
    intro cs
    induction cs with
    | nil => rfl
    | cons c rest ih => rw [List.flatMap_cons, decodeFrom_encode, ih]
  rw [decode, hchars, String.ofList_toList]

end Utf8
end GdbMcp
