import Mathlib.Tactic.Common

/-! Command lines of words with single spaces between them, in which a word may be a C string: what an escaping has to
do so that such a line is split into the words it was made of. Nothing here refers to a particular program. -/

namespace GdbMcp
namespace CString

/-- The character that stands behind a backslash. -/
def unescape : Char → Option Char
  | '\\' => some '\\'
  | '"' => some '"'
  | 'n' => some '\n'
  | 'r' => some '\r'
  | 't' => some '\t'
  | _ => none

/-- A word of a line, as it stands there or in double quotes. -/
inductive Word where
  | bare (text : String)
  | quoted (text : String)
  deriving DecidableEq, Repr

/-- What the scanner is in, with the part of a word that has been read. -/
inductive State where
  | start
  | bare (text : List Char)
  | quoted (text : List Char)
  | escaped (text : List Char)
  /-- Behind a closing quote. -/
  | closed

/-- The words of a text; no word begins in front of a space or at the end of the text. -/
def scan : State → List Char → Option (List Word)
  | .start, [] => none
  | .start, c :: rest =>
    if c = ' ' then none else if c = '"' then scan (.quoted []) rest else scan (.bare [c]) rest
  | .bare text, [] => some [.bare (String.ofList text)]
  | .bare text, c :: rest =>
    if c = ' ' then (.bare (String.ofList text) :: ·) <$> scan .start rest else scan (.bare (text ++ [c])) rest
  | .quoted _, [] => none
  | .quoted text, c :: rest =>
    if c = '"' then (.quoted (String.ofList text) :: ·) <$> scan .closed rest
    else if c = '\\' then scan (.escaped text) rest
    else scan (.quoted (text ++ [c])) rest
  | .escaped _, [] => none
  | .escaped text, c :: rest => (unescape c).bind fun d => scan (.quoted (text ++ [d])) rest
  | .closed, [] => some []
  | .closed, c :: rest => if c = ' ' then scan .start rest else none

/-- The words of a line. -/
def split (line : String) : Option (List Word) := scan .start line.toList

/-- An escaping from which the scanner reads every character back. -/
def Escapes (escape : Char → List Char) : Prop :=
  ∀ text c rest, scan (.quoted text) (escape c ++ rest) = scan (.quoted (text ++ [c])) rest

section Words

variable {escape : Char → List Char}

/-- A word on the line. -/
def render (escape : Char → List Char) : Word → List Char
  | .bare text => text.toList
  | .quoted text => '"' :: text.toList.flatMap escape ++ ['"']

/-- A word without quotes has characters, none of them a space, and no quote comes first. -/
def Word.Fits : Word → Prop
  | .bare text => text.toList ≠ [] ∧ ' ' ∉ text.toList ∧ text.toList.head? ≠ some '"'
  | .quoted _ => True

theorem scan_quoted (h : Escapes escape) (text cs rest : List Char) :
    scan (.quoted text) (cs.flatMap escape ++ '"' :: rest) =
      (.quoted (String.ofList (text ++ cs)) :: ·) <$> scan .closed rest := by
  induction cs generalizing text with
  | nil => simp [scan]
  | cons c cs ih =>
      rw [List.flatMap_cons, List.append_assoc, h, ih, List.append_assoc]
      rfl

theorem scan_bare {cs : List Char} (h : ' ' ∉ cs) (text rest : List Char) :
    scan (.bare text) (cs ++ rest) = scan (.bare (text ++ cs)) rest := by
  induction cs generalizing text with
  | nil => simp
  | cons c cs ih =>
      obtain ⟨hc, hcs⟩ := not_or.mp (List.mem_cons.not.mp h)
      rw [List.cons_append, scan, if_neg fun heq => hc heq.symm, ih hcs, List.append_assoc]
      rfl

/-- A word is read from the front of a text, with what follows it. -/
theorem scan_render (h : Escapes escape) {w : Word} (hw : w.Fits) (rest : List Char) :
    scan .start (render escape w) = some [w] ∧
      scan .start (render escape w ++ ' ' :: rest) = (w :: ·) <$> scan .start rest := by
  cases w with
  | quoted text =>
      have hread : ∀ behind, scan .start (render escape (.quoted text) ++ behind) =
          (.quoted text :: ·) <$> scan .closed behind := by
        intro behind
        rw [render, List.cons_append, List.cons_append, scan, if_neg (by decide), if_pos rfl, List.append_assoc,
          List.singleton_append, scan_quoted h, List.nil_append, String.ofList_toList]
      refine ⟨?_, ?_⟩
      · simpa [scan] using hread []
      · simpa [scan] using hread (' ' :: rest)
  | bare text =>
      obtain ⟨hne, hspace, hhead⟩ := hw
      have hread : ∀ behind, scan .start (text.toList ++ behind) = scan (.bare text.toList) behind := by
        intro behind
        cases hcs : text.toList with
        | nil => exact absurd hcs hne
        | cons c cs =>
            rw [hcs] at hspace hhead
            obtain ⟨hc, hrest⟩ := not_or.mp (List.mem_cons.not.mp hspace)
            have hquote : c ≠ '"' := fun heq => hhead (congrArg some heq)
            rw [List.cons_append, scan, if_neg fun heq => hc heq.symm, if_neg hquote, scan_bare hrest]
            rfl
      refine ⟨?_, ?_⟩
      · simpa [scan, render] using hread []
      · simpa [scan, render] using hread (' ' :: rest)

/-- A line is split into the words that it was made of. -/
theorem scan_line (h : Escapes escape) {words : List Word} (hne : words ≠ []) (hfits : ∀ w ∈ words, w.Fits) :
    scan .start ([' '].intercalate (words.map (render escape))) = some words := by
  induction words with
  | nil => exact absurd rfl hne
  | cons w rest ih =>
      obtain ⟨hw, hrest⟩ := List.forall_mem_cons.mp hfits
      cases rest with
      | nil =>
          rw [List.map_singleton, List.intercalate_singleton]
          exact (scan_render h hw []).1
      | cons w' rest =>
          have htail := ih (List.cons_ne_nil _ _) hrest
          rw [List.map_cons, List.map_cons, List.intercalate_cons_cons, ← List.map_cons, List.append_assoc,
            List.singleton_append, (scan_render h hw _).2, htail]
          rfl

end Words

end CString
end GdbMcp
