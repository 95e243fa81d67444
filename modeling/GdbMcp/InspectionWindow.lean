import GdbMcp.BaseLines
import GdbMcp.InspectionSource

/-! The window of a source lookup against the lines that the debugger counts. The lookup cuts the text at every line
boundary that Python knows; for the debugger only a newline ends a line. -/

namespace GdbMcp

open Eff Session

/-- The text of a file, as `read_text()` gives it. -/
def textRead (raw : String) : String := String.ofList (Lines.translate raw.toList)

/-- The lines of a file, as the debugger counts them. -/
def debuggerLines (raw : String) : List String := (Lines.cut (· == '\n') raw.toList).map String.ofList

/-- A line boundary of Python that is no newline. -/
def hasStrayBreak (raw : String) : Bool := Lines.hasStray PyStr.isLineBreak (· == '\n') raw.toList

theorem splitlinesAux_eq (text line : List Char) :
    PyStr.splitlinesAux text line = (Lines.cutFrom PyStr.isLineBreak text line).map String.ofList := by
  fun_induction PyStr.splitlinesAux text line with
  | case1 => rfl
  | case2 line hne =>
      cases line with
      | nil => exact (hne rfl).elim
      | cons c rest => rfl
  | case3 rest line ih => rw [Lines.cutFrom, List.map_cons, ih]
  | case4 c rest line hcrlf hbreak ih => rw [Lines.cutFrom_cons hcrlf, if_pos hbreak, List.map_cons, ih]
  | case5 c rest line hcrlf hbreak ih => rw [Lines.cutFrom_cons hcrlf, if_neg hbreak, ih]

theorem splitlines_textRead (raw : String) :
    PyStr.splitlines (textRead raw) = (Lines.cut PyStr.isLineBreak raw.toList).map String.ofList := by
  rw [PyStr.splitlines, textRead, String.toList_ofList, splitlinesAux_eq,
    Lines.cutFrom_translate (by decide) (by decide), Lines.cut]

theorem isLineBreak_of_newline (c : Char) (h : (c == '\n') = true) : PyStr.isLineBreak c = true := by
  rw [beq_iff_eq.mp h]
  decide

/-- The lookup cuts the lines of the debugger if and only if the text has no other line boundary. -/
theorem splitlines_eq_iff (raw : String) :
    PyStr.splitlines (textRead raw) = debuggerLines raw ↔ hasStrayBreak raw = false := by
  rw [splitlines_textRead, debuggerLines, (List.map_injective_iff.mpr fun _ _ h => String.ofList_inj.mp h).eq_iff, hasStrayBreak,
    Lines.cut_eq_iff isLineBreak_of_newline]

/-! ### The records of a window -/

/-- The window shows these lines, with contiguous numbers, and marks the focal line and no other. -/
structure ShowsLines (lines : List String) (focal : Option Int) (w : ResolvedSourceWindow) : Prop where
  start_pos : 1 ≤ w.startLine
  start_le : w.startLine ≤ w.endLine
  end_le : w.endLine ≤ lines.length
  count : (w.lines.length : Int) = w.endLine - w.startLine + 1
  record : ∀ (i : Nat) (r : SourceLine), w.lines[i]? = some r → r.lineNumber = w.startLine + i ∧
    lines[(r.lineNumber - 1).toNat]? = some r.text ∧ (r.isCurrent = true ↔ focal = some r.lineNumber)

theorem lineAt_ok {lines : List String} {i : Int} {text : String} (hi : 0 ≤ i) (h : lineAt lines i = .ok text) :
    lines[i.toNat]? = some text := by
  rw [lineAt, if_pos hi] at h
  cases hget : lines[i.toNat]? with
  | none =>
      rw [hget] at h
      exact nomatch h
  | some found =>
      rw [hget] at h
      rw [Except.ok.inj h]

theorem windowLines_records {lines : List String} {current : Option Int} {first : Int} {count : Nat} {records : List SourceLine}
    (hpos : 1 ≤ first) (h : windowLines lines current first count = .ok records) :
    records.length = count ∧ ∀ (i : Nat) (r : SourceLine), records[i]? = some r → r.lineNumber = first + i ∧
      lines[(r.lineNumber - 1).toNat]? = some r.text ∧ (r.isCurrent = true ↔ current = some r.lineNumber) := by
  induction count generalizing first records with
  | zero =>
      obtain rfl := Except.ok.inj h
      exact ⟨rfl, fun _ _ hr => nomatch hr⟩
  | succ count ih =>
      rw [windowLines] at h
      rcases hline : lineAt lines (first - 1) with e | text
      · rw [hline] at h
        exact nomatch h
      rcases hrest : windowLines lines current (first + 1) count with e | rest
      · rw [hline, hrest] at h
        exact nomatch h
      rw [hline, hrest] at h
      obtain rfl := Except.ok.inj h
      obtain ⟨hlength, hrecord⟩ := ih (by omega) hrest
      refine ⟨by rw [List.length_cons, hlength], fun i r hr => ?_⟩
      cases i with
      | zero =>
          obtain rfl := Option.some.inj hr
          exact ⟨(Int.add_zero first).symm, lineAt_ok (Int.sub_nonneg_of_le hpos) hline, by simp⟩
      | succ i =>
          obtain ⟨hnumber, htext⟩ := hrecord i r hr
          exact ⟨by omega, htext⟩

/-- The focal line of a lookup; an explicit range has none. -/
def focalLine (a : SourceContextArgs) (line : Option Int) : Option Int :=
  match a.startLine, a.endLine with
  | some _, some _ => none
  | _, _ => line

/-- The arguments that the schema lets through. -/
structure SourceContextArgs.Accepted (a : SourceContextArgs) : Prop where
  before : 0 ≤ a.contextBefore
  after : 0 ≤ a.contextAfter
  range : ∀ start stop, a.startLine = some start → a.endLine = some stop → 1 ≤ start ∧ start ≤ stop

/-- The focal line is in the file or close enough in front of it. -/
def ReachesFile (a : SourceContextArgs) (line : Option Int) : Prop :=
  ∀ focal, focalLine a line = some focal → 1 ≤ focal + a.contextAfter

theorem windowBounds_le {a : SourceContextArgs} (ha : a.Accepted) {line : Option Int} {first wanted : Int} {current : Option Int}
    (h : windowBounds a line = some (first, wanted, current)) :
    current = focalLine a line ∧ 1 ≤ first ∧ (first ≤ wanted ↔ ReachesFile a line) := by
  have hbefore := ha.before
  have hafter := ha.after
  have hline : ∀ focal, focalLine a line = some focal → max 1 (focal - a.contextBefore) = first ∧
      focal + a.contextAfter = wanted ∧ some focal = current →
      current = focalLine a line ∧ 1 ≤ first ∧ (first ≤ wanted ↔ ReachesFile a line) := by
    rintro focal hfocal ⟨rfl, rfl, rfl⟩
    have hreaches : ReachesFile a line ↔ 1 ≤ focal + a.contextAfter := by
      constructor
      · intro h
        exact h focal hfocal
      · intro h other hother
        rwa [← Option.some.inj (hfocal.symm.trans hother)]
    rw [hreaches]
    exact ⟨hfocal.symm, by omega, by omega⟩
  rcases hstart : a.startLine with _ | start <;> rcases hstop : a.endLine with _ | stop
  case some.some =>
    obtain ⟨rfl, rfl, rfl⟩ : start = first ∧ stop = wanted ∧ none = current := by
      simpa [windowBounds, hstart, hstop] using h
    have hnone : focalLine a line = none := by rw [focalLine, hstart, hstop]
    obtain ⟨hpos, hle⟩ := ha.range start stop hstart hstop
    exact ⟨hnone.symm, hpos, iff_of_true hle fun focal hfocal => nomatch hnone.symm.trans hfocal⟩
  all_goals
    have hsame : focalLine a line = line := by rw [focalLine, hstart, hstop]
    cases line with
    | none => simp [windowBounds, hstart, hstop] at h
    | some focal => exact hline focal hsame (by simpa [windowBounds, hstart, hstop] using h)

/-! ### The lookup -/

/-- The file of the location holds the text. -/
def HoldsText (files : Files) (location : ResolvedCodeLocation) (raw : String) : Prop :=
  ∃ selector path, textOr location.fullname location.file = some selector ∧ files.expanduser selector = .ok path ∧
    files.readText path = some (.ok (textRead raw))

namespace Session

variable {W : Type} {s s' : Session W} {files : Files} {a : SourceContextArgs} {location : ResolvedCodeLocation}
  {raw : String} {window : ResolvedSourceWindow} {warnings : List String}

/-- What a lookup that succeeds has read: a file of the location, and in it a window of the lines that it has cut. -/
structure ReadsWindow (files : Files) (a : SourceContextArgs) (location : ResolvedCodeLocation) (selector path text : String)
    (window : ResolvedSourceWindow) : Prop where
  selected : textOr location.fullname location.file = some selector
  expanded : files.expanduser selector = .ok path
  contents : files.readText path = some (.ok text)
  file : window.file = (textOr location.file (some path)).getD path
  bounds : ∃ first wanted current, windowBounds a location.line = some (first, wanted, current) ∧
    first ≤ (PyStr.splitlines text).length ∧ window.startLine = first ∧
    window.endLine = min wanted (PyStr.splitlines text).length ∧
    windowLines (PyStr.splitlines text) current first (window.endLine + 1 - first).toNat = .ok window.lines

theorem ok_of_readSourceContext
    (hrun : (readSourceContext files a location).run s = (.ok (.success window warnings), s')) :
    ∃ selector path text, ReadsWindow files a location selector path text window := by
  unfold readSourceContext at hrun
  split at hrun
  · exact nomatch Except.ok.inj (Prod.mk.inj hrun).1
  · rename_i selector hselector
    obtain ⟨path, t, hnarrow, hrun⟩ := ok_of_run_bind hrun
    obtain ⟨hpath, -⟩ := ok_of_narrow hnarrow
    split at hrun
    · exact nomatch Except.ok.inj (Prod.mk.inj hrun).1
    · rename_i content hcontent
      obtain ⟨text, t', hread, hwindow⟩ := ok_of_run_bind hrun
      obtain ⟨htext, -⟩ := ok_of_narrow hread
      refine ⟨selector, path, text, ?_⟩
      unfold readWindow at hwindow
      extract_lets sourceLines at hwindow
      split at hwindow
      · exact nomatch Except.ok.inj (Prod.mk.inj hwindow).1
      · rename_i first wanted current hbounds
        split at hwindow
        · exact nomatch Except.ok.inj (Prod.mk.inj hwindow).1
        · rename_i hinside
          obtain ⟨lines, u, hcut, hpure⟩ := ok_of_run_bind hwindow
          obtain ⟨hlines, -⟩ := ok_of_narrow hcut
          obtain ⟨hresult, -⟩ := Prod.mk.inj hpure
          obtain ⟨rfl, -⟩ := OperationResult.success.inj (Except.ok.inj hresult)
          exact ⟨hselector, hpath, htext ▸ hcontent, rfl, first, wanted, current, hbounds, Int.not_lt.mp hinside, rfl, rfl, hlines⟩

/-- The window is one of the lines that the lookup has cut, if it is not empty. -/
theorem readSourceContext_shows (ha : a.Accepted) (hfile : HoldsText files location raw)
    (hrun : (readSourceContext files a location).run s = (.ok (.success window warnings), s')) :
    (ReachesFile a location.line →
        ShowsLines (PyStr.splitlines (textRead raw)) (focalLine a location.line) window) ∧
      (window.startLine ≤ window.endLine → ReachesFile a location.line) := by
  obtain ⟨selector, path, hselector, hpath, htext⟩ := hfile
  obtain ⟨selector', path', text, hread⟩ := ok_of_readSourceContext hrun
  obtain rfl := Option.some.inj (hselector.symm.trans hread.selected)
  obtain rfl := Except.ok.inj (hpath.symm.trans hread.expanded)
  obtain rfl := Except.ok.inj (Option.some.inj (htext.symm.trans hread.contents))
  obtain ⟨first, wanted, current, hbounds, hinside, hfirst, hlast, hlines⟩ := hread.bounds
  obtain ⟨rfl, hpos, hreaches⟩ := windowBounds_le ha hbounds
  obtain ⟨hcount, hrecord⟩ := windowLines_records hpos hlines
  refine ⟨fun h => ⟨?_, ?_, ?_, ?_, ?_⟩, fun h => hreaches.mp (by omega)⟩
  · omega
  · have hle := hreaches.mpr h
    omega
  · omega
  · have hle := hreaches.mpr h
    omega
  · rw [hfirst]
    exact hrecord

/-- A file system in which every file holds the same text. -/
def filesHolding (raw : String) : Files where
  expanduser := .ok
  readText _ := some (.ok (textRead raw))
  resolve := id

/-- One line of a file. -/
def oneLine (n : Int) : SourceContextArgs := { file := some "main.c", startLine := some n, endLine := some n }

def oneLineLocation : ResolvedCodeLocation := { scope := .fileRange, file := some "main.c", fullname := some "main.c" }

/-- Some lookup shows a stray break as the end of a line. -/
theorem stray_shown (s : Session W) (h : hasStrayBreak raw = true) :
    ∃ (files : Files) (a : SourceContextArgs) (location : ResolvedCodeLocation) (window : ResolvedSourceWindow) (warnings : List String),
      a.Accepted ∧ HoldsText files location raw ∧ ReachesFile a location.line ∧
        (readSourceContext files a location).run s = (.ok (.success window warnings), s) ∧
        ¬ShowsLines (debuggerLines raw) (focalLine a location.line) window := by
  obtain ⟨i, l, hl, hne⟩ := Lines.cutFrom_ne isLineBreak_of_newline h []
  have hcut : (PyStr.splitlines (textRead raw))[i]? = some (String.ofList l) := by
    rw [splitlines_textRead, List.getElem?_map, Lines.cut, hl]
    rfl
  have hlength := (List.getElem?_eq_some_iff.mp hcut).1
  let shown : SourceLine := { lineNumber := i + 1, text := String.ofList l }
  let window : ResolvedSourceWindow :=
    { file := "main.c", fullname := some "main.c", startLine := i + 1, endLine := i + 1, lines := [shown] }
  refine ⟨filesHolding raw, oneLine (i + 1), oneLineLocation, window, [], ⟨(by decide : (0 : Int) ≤ 5), (by decide : (0 : Int) ≤ 5), ?_⟩, ⟨"main.c", "main.c", by decide, rfl, rfl⟩, ?_, ?_, fun hshows => ?_⟩
  · intro start stop hstart hstop
    obtain rfl := Option.some.inj hstart
    obtain rfl := Option.some.inj hstop
    omega
  · intro focal hfocal
    exact nomatch hfocal
  · have hwindow : windowLines (PyStr.splitlines (textRead raw)) none (i + 1) 1 = .ok [shown] := by
      have hat : lineAt (PyStr.splitlines (textRead raw)) (i + 1 - 1) = .ok (String.ofList l) := by
        rw [lineAt, if_pos (by omega), show ((i : Int) + 1 - 1).toNat = i by omega, hcut]
      rw [windowLines, hat]
      rfl
    have hlast : min ((i : Int) + 1) (PyStr.splitlines (textRead raw)).length = i + 1 := by omega
    have hlines : (narrow (windowLines (PyStr.splitlines (textRead raw)) none (i + 1)
        (min ((i : Int) + 1) (PyStr.splitlines (textRead raw)).length + 1 - (i + 1)).toNat) : SessionM W _).run s = (.ok [shown], s) := by
      rw [hlast, show ((i : Int) + 1 + 1 - (i + 1)).toNat = 1 by omega, hwindow]
      rfl
    show (readWindow (filesHolding raw) (oneLine (i + 1)) oneLineLocation "main.c" "main.c" (textRead raw)).run s = _
    have hbounds : windowBounds (oneLine (i + 1)) oneLineLocation.line = some ((i + 1 : Int), (i + 1 : Int), none) := rfl
    simp only [readWindow, hbounds]
    rw [if_neg (by omega), run_bind_ok hlines, hlast]
    rfl
  · obtain ⟨-, htext, -⟩ := hshows.record 0 shown rfl
    rw [show (shown.lineNumber - 1).toNat = i by simp [shown], debuggerLines, List.getElem?_map, Lines.cut, Option.map_eq_some_iff] at htext
    obtain ⟨l', hl', heq⟩ := htext
    rw [String.ofList_inj.mp heq] at hl'
    exact hne hl'

/-- Every window of a text shows the lines of the debugger if and only if the text has no line boundary but newlines,
as long as the location reaches the file; without that the window is empty. -/
theorem source_window_iff (raw : String) (s : Session W) :
    ((∀ files a location window warnings s', a.Accepted → HoldsText files location raw → ReachesFile a location.line →
        (readSourceContext files a location).run s = (.ok (.success window warnings), s') →
        ShowsLines (debuggerLines raw) (focalLine a location.line) window) ↔ hasStrayBreak raw = false) ∧
      ∀ files a location window warnings s', a.Accepted → HoldsText files location raw →
        (readSourceContext files a location).run s = (.ok (.success window warnings), s') →
        ShowsLines (debuggerLines raw) (focalLine a location.line) window → ReachesFile a location.line := by
  refine ⟨⟨fun h => ?_, fun h files a location window warnings s' ha hfile hreaches hrun => ?_⟩, ?_⟩
  · rw [← Bool.not_eq_true]
    intro hstray
    obtain ⟨files, a, location, window, warnings, ha, hfile, hreaches, hrun, hwrong⟩ := stray_shown s hstray
    exact hwrong (h files a location window warnings s ha hfile hreaches hrun)
  · rw [← (splitlines_eq_iff raw).mpr h]
    exact (readSourceContext_shows ha hfile hrun).1 hreaches
  · intro files a location window warnings s' ha hfile hrun hshows
    exact (readSourceContext_shows ha hfile hrun).2 hshows.start_le

/-- The second line of a text whose first line holds a form feed. -/
theorem form_feed_shifts :
    ∃ window, (readSourceContext (filesHolding "a\x0cb\nc\n") (oneLine 2) oneLineLocation).run (⟨{}, ()⟩ : Session Unit) =
        (.ok (.success window), ⟨{}, ()⟩) ∧ window.lines.map SourceLine.text = ["b"] ∧
      debuggerLines "a\x0cb\nc\n" = ["a\x0cb", "c"] ∧
      ¬ShowsLines (debuggerLines "a\x0cb\nc\n") (focalLine (oneLine 2) none) window := by
  have hlines : debuggerLines "a\x0cb\nc\n" = ["a\x0cb", "c"] := by decide +kernel
  refine ⟨_, rfl, by decide +kernel, hlines, fun h => ?_⟩
  have hfirst := (h.record 0 { lineNumber := 2, text := "b" } rfl).2.1
  rw [hlines] at hfirst
  exact absurd hfirst (by decide)

end Session

end GdbMcp
