import Mathlib.Tactic.Common

/-! How a POSIX shell reads a line of words in double quotes, and which of them it reads as they were written. Nothing
here refers to a particular program. -/

namespace GdbMcp
namespace Posix

/-- What the shell is in, with the part of a word that has been read. -/
inductive State where
  | between
  | word (token : List Char)
  | quoted (token : List Char)
  /-- Behind a backslash in double quotes. -/
  | escaped (token : List Char)

def isBlank (c : Char) : Bool := c == ' ' || c == '\t'

/-- The characters that begin an expansion, also in double quotes. -/
def isExpansion (c : Char) : Bool := c == '$' || c == '`'

/-- What a backslash in double quotes and the character behind it stand for. -/
def unescape (c : Char) : List Char :=
  if c = '\n' then [] else if isExpansion c || c == '"' || c == '\\' then [c] else ['\\', c]

/-- The words of a text, if none of it is expanded. Only words in double quotes are read. -/
def scan : State → List Char → Option (List String)
  | .between, [] => some []
  | .between, c :: rest => if isBlank c then scan .between rest else if c = '"' then scan (.quoted []) rest else none
  | .word token, [] => some [String.ofList token]
  | .word token, c :: rest =>
    if isBlank c then (String.ofList token :: ·) <$> scan .between rest
    else if c = '"' then scan (.quoted token) rest else none
  | .quoted _, [] => none
  | .quoted token, c :: rest =>
    if c = '"' then scan (.word token) rest
    else if c = '\\' then scan (.escaped token) rest
    else if isExpansion c then none
    else scan (.quoted (token ++ [c])) rest
  | .escaped _, [] => none
  | .escaped token, c :: rest => scan (.quoted (token ++ unescape c)) rest

/-- The words of a line. -/
def split (line : String) : Option (List String) := scan .between line.toList

/-! ### Lines of quoted words -/

section Lines

variable {escape : Char → List Char} {view : Char → Option (List Char)}

/-- What the shell sees of each character that has been escaped. -/
def Views (escape : Char → List Char) (view : Char → Option (List Char)) : Prop :=
  ∀ token c rest, scan (.quoted token) (escape c ++ rest) = (view c).bind fun cs => scan (.quoted (token ++ cs)) rest

/-- What the shell sees of a text that has been escaped. -/
def decode (view : Char → Option (List Char)) : List Char → Option (List Char)
  | [] => some []
  | c :: rest => (view c).bind fun cs => (cs ++ ·) <$> decode view rest

/-- A text in double quotes. -/
def quote (escape : Char → List Char) (cs : List Char) : List Char := '"' :: cs.flatMap escape ++ ['"']

theorem scan_quoted (h : Views escape view) (token cs rest : List Char) :
    scan (.quoted token) (cs.flatMap escape ++ '"' :: rest) =
      (decode view cs).bind fun ds => scan (.word (token ++ ds)) rest := by
  induction cs generalizing token with
  | nil => simp [scan, decode]
  | cons c cs ih =>
      rw [List.flatMap_cons, List.append_assoc, h, decode]
      cases view c with
      | none => rfl
      | some ds =>
          rw [Option.bind_some, Option.bind_some, ih]
          cases decode view cs with
          | none => rfl
          | some es => simp

theorem scan_quote (h : Views escape view) (cs rest : List Char) :
    scan .between (quote escape cs ++ rest) = (decode view cs).bind fun ds => scan (.word ds) rest := by
  rw [quote, List.cons_append, List.cons_append, scan, if_neg (by decide), if_pos rfl, List.append_assoc,
    List.singleton_append, scan_quoted h]
  rfl

/-- The words of a line are what the shell sees of each. -/
theorem scan_line (h : Views escape view) (words : List String) :
    scan .between ([' '].intercalate (words.map fun word => quote escape word.toList)) =
      words.mapM fun word => String.ofList <$> decode view word.toList := by
  induction words with
  | nil => rfl
  | cons word rest ih =>
      cases rest with
      | nil =>
          rw [List.map_singleton, List.intercalate_singleton, ← List.append_nil (quote _ _), scan_quote h]
          cases hword : decode view word.toList <;> simp [scan, hword]
      | cons word' rest =>
          rw [List.map_cons] at ih
          rw [List.map_cons, List.map_cons, List.intercalate_cons_cons, List.append_assoc, List.singleton_append,
            scan_quote h, List.mapM_cons, ← ih]
          cases decode view word.toList with
          | none => rfl
          | some ds =>
              rw [Option.bind_some, scan, if_pos (by decide)]
              cases scan .between _ <;> rfl

/-! ### What is read as it was written -/

/-- A character that is not seen as itself is seen as several. -/
def Lengthens (view : Char → Option (List Char)) : Prop := ∀ c cs, view c = some cs → cs = [c] ∨ 1 < cs.length

theorem length_decode (h : Lengthens view) {cs ds : List Char} (hdecode : decode view cs = some ds) :
    cs.length ≤ ds.length := by
  induction cs generalizing ds with
  | nil => exact Nat.zero_le _
  | cons c cs ih =>
      obtain ⟨es, hview, hrest⟩ := Option.bind_eq_some_iff.mp hdecode
      obtain ⟨fs, htail, rfl⟩ := Option.map_eq_some_iff.mp hrest
      have hlong := ih htail
      rcases h c es hview with rfl | hmore
      · simpa using hlong
      · rw [List.length_append, List.length_cons]
        omega

theorem decode_eq_self_iff (h : Lengthens view) (cs : List Char) :
    decode view cs = some cs ↔ ∀ c ∈ cs, view c = some [c] := by
  induction cs with
  | nil => simp [decode]
  | cons c cs ih =>
      rw [List.forall_mem_cons, ← ih]
      constructor
      · intro hdecode
        obtain ⟨es, hview, hrest⟩ := Option.bind_eq_some_iff.mp hdecode
        obtain ⟨fs, htail, heq⟩ := Option.map_eq_some_iff.mp hrest
        have hlong := length_decode h htail
        rcases h c es hview with rfl | hmore
        · obtain ⟨-, rfl⟩ := List.cons.inj heq
          exact ⟨hview, htail⟩
        · have hlength := congrArg List.length heq
          rw [List.length_append, List.length_cons] at hlength
          omega
      · rintro ⟨hview, htail⟩
        rw [decode, hview, Option.bind_some, htail]
        rfl

theorem mapM_eq_self_iff {α : Type} (f : α → Option α) (xs : List α) :
    xs.mapM f = some xs ↔ ∀ x ∈ xs, f x = some x := by
  induction xs with
  | nil => simp
  | cons x xs ih =>
      rw [List.forall_mem_cons, ← ih, List.mapM_cons]
      cases hx : f x with
      | none => simp
      | some y =>
          cases hxs : xs.mapM f with
          | none => simp
          | some ys => simp

/-- A line of quoted words is read as they were written if and only if each of their characters is. -/
theorem scan_line_eq_iff (h : Views escape view) (hlong : Lengthens view) (words : List String) :
    scan .between ([' '].intercalate (words.map fun word => quote escape word.toList)) = some words ↔
      ∀ word ∈ words, ∀ c ∈ word.toList, view c = some [c] := by
  rw [scan_line h, mapM_eq_self_iff]
  refine forall₂_congr fun word _ => ?_
  rw [← decode_eq_self_iff hlong]
  constructor
  · intro heq
    obtain ⟨ds, hds, hword⟩ := Option.map_eq_some_iff.mp heq
    rw [hds, ← hword, String.toList_ofList]
  · intro heq
    rw [heq]
    exact congrArg some String.ofList_toList

end Lines

end Posix
end GdbMcp
