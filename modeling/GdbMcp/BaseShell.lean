import GdbMcp.BaseText
import Mathlib.Algebra.GroupWithZero.Nat
import Mathlib.Tactic.Common

/-! `shlex.split`: a line is split into words as a POSIX shell does, without expansions and comments. Nothing here
refers to a particular program. -/

namespace GdbMcp
namespace Shlex

def isWhitespace (c : Char) : Bool := c == ' ' || c == '\t' || c == '\r' || c == '\n'

def isQuote (c : Char) : Bool := c == '"' || c == PyStr.apostrophe

def isEscape (c : Char) : Bool := c == '\\'

/-- What the scanner is in. A backslash in double quotes goes back to them, any other one to the word. -/
inductive State where
  | between
  | word
  | quoted (quote : Char)
  | escaped (outer : Option Char)

/-- A token in front of the tokens behind it, unless it is empty and nothing of it was quoted. -/
def emit (token : List Char) (sawQuote : Bool) (rest : List String) : List String :=
  if !token.isEmpty || sawQuote then String.ofList token :: rest else rest

/-- The tokens of a text, from a state and the part of a token that has been read. -/
def scan : State → List Char → Bool → List Char → Except PyError (List String)
  | .between, _, _, [] => .ok []
  | .between, _, _, c :: rest =>
    if isWhitespace c then scan .between [] false rest
    else if isEscape c then scan (.escaped none) [] false rest
    else if isQuote c then scan (.quoted c) [] false rest
    else scan .word [c] false rest
  | .word, token, sawQuote, [] => .ok (emit token sawQuote [])
  | .word, token, sawQuote, c :: rest =>
    if isWhitespace c then emit token sawQuote <$> scan .between [] false rest
    else if isQuote c then scan (.quoted c) token sawQuote rest
    else if isEscape c then scan (.escaped none) token sawQuote rest
    else scan .word (token ++ [c]) sawQuote rest
  | .quoted _, _, _, [] => .error (.valueError "No closing quotation")
  | .quoted q, token, _, c :: rest =>
    if c == q then scan .word token true rest
    else if isEscape c && q == '"' then scan (.escaped (some q)) token true rest
    else scan (.quoted q) (token ++ [c]) true rest
  | .escaped _, _, _, [] => .error (.valueError "No escaped character")
  | .escaped none, token, sawQuote, c :: rest => scan .word (token ++ [c]) sawQuote rest
  | .escaped (some q), token, sawQuote, c :: rest =>
    -- in quotes a backslash stays in front of anything but the quote and itself
    scan (.quoted q) (token ++ (if isEscape c || c == q then [c] else ['\\', c])) sawQuote rest

/-- `shlex.split`. -/
def split (s : String) : Except PyError (List String) := scan .between [] false s.toList

/-! ### The characters of the words -/

/-- The number of characters of some words, and one more for each. -/
def extent (words : List String) : Nat := (words.map fun word => word.length + 1).sum

theorem extent_emit (token : List Char) (sawQuote : Bool) (rest : List String) :
    extent (emit token sawQuote rest) ≤ token.length + 1 + extent rest := by
  rw [emit]
  split
  · simp [extent]
  · omega

/-- The characters that a state may still add to what the text holds. -/
def State.slack : State → Nat
  | .escaped _ => 2
  | _ => 1

/-- The words and the gaps between them are not longer than the text. -/
theorem extent_scan {state : State} {token : List Char} {sawQuote : Bool} {text : List Char} {words : List String}
    (h : scan state token sawQuote text = .ok words) : extent words ≤ token.length + text.length + state.slack := by
  induction text generalizing state token sawQuote words with
  | nil =>
      cases state with
      | between =>
          obtain rfl := Except.ok.inj h
          exact Nat.zero_le _
      | word =>
          obtain rfl := Except.ok.inj h
          exact extent_emit token sawQuote []
      | quoted q => exact nomatch h
      | escaped outer =>
          cases outer <;> exact nomatch h
  | cons c rest ih =>
      rw [List.length_cons]
      cases state with
      | between =>
          rw [scan] at h
          split_ifs at h <;> have hrest := ih h <;> simp only [State.slack, List.length_nil, List.length_cons] at * <;>
            omega
      | word =>
          rw [scan] at h
          split_ifs at h
          · cases htail : scan .between [] false rest with
            | error e => exact nomatch htail ▸ h
            | ok tail =>
                rw [htail] at h
                obtain rfl := Except.ok.inj h
                have hrest := ih htail
                have htoken := extent_emit token sawQuote tail
                simp only [State.slack, List.length_nil] at *
                omega
          all_goals
            have hrest := ih h
            simp only [State.slack, List.length_append, List.length_cons, List.length_nil] at *
            omega
      | quoted q =>
          rw [scan] at h
          split_ifs at h <;> have hrest := ih h <;>
            simp only [State.slack, List.length_append, List.length_cons, List.length_nil] at * <;> omega
      | escaped outer =>
          cases outer with
          | none =>
              have hrest := ih h
              simp only [State.slack, List.length_append, List.length_cons, List.length_nil] at *
              omega
          | some q =>
              rw [scan] at h
              have hrest := ih h
              have hkept : (if isEscape c || c == q then [c] else ['\\', c]).length ≤ 2 := by
                split <;> simp
              simp only [State.slack, List.length_append] at *
              omega

/-- A character that stands for itself wherever it is. -/
def isPlain (c : Char) : Bool := !(isWhitespace c || isEscape c || isQuote c)

theorem scan_singleton (c : Char) :
    scan .between [] false [c] = .ok [String.ofList [c]] ↔ isPlain c = true := by
  simp only [scan, isPlain]
  cases isWhitespace c <;> cases isEscape c <;> cases isQuote c <;> simp [emit]

theorem extent_chars (text : List Char) : extent (text.map fun c => String.ofList [c]) = 2 * text.length := by
  induction text with
  | nil => rfl
  | cons c rest ih =>
      have hone : (String.ofList [c]).length = 1 := by simp
      simp only [extent, List.map_cons, List.sum_cons, List.length_cons, hone] at ih ⊢
      omega

/-- A line is split into its characters only if it is empty or one plain character. -/
theorem split_eq_chars (s : String) :
    split s = .ok (s.toList.map fun c => String.ofList [c]) ↔
      s.toList = [] ∨ ∃ c, s.toList = [c] ∧ isPlain c = true := by
  rw [split]
  generalize s.toList = text
  constructor
  · intro h
    have hbound : 2 * text.length ≤ 0 + text.length + 1 := by
      rw [← extent_chars]
      exact extent_scan h
    match text, hbound with
    | [], _ => exact .inl rfl
    | [c], _ => exact .inr ⟨c, rfl, (scan_singleton c).mp h⟩
    | _ :: _ :: rest, hbound =>
        simp only [List.length_cons] at hbound
        omega
  · rintro (rfl | ⟨c, rfl, hplain⟩)
    · rfl
    · exact (scan_singleton c).mpr hplain

end Shlex
end GdbMcp
