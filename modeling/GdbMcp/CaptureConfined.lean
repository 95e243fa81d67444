import GdbMcp.InspectionDebugger
import GdbMcp.SessionCapture
import GdbMcp.SessionTerminal

/-! The paths that a capture writes to. The bundle name is joined to the base directory as it is, so that it leads out of
it if it is absolute or has more parent parts than names before them. -/

namespace GdbMcp

open Eff

variable {base dir path : Path} {outputDir bundleName : Option String}

/-- The bundle name leads back into the base directory, or there is none. -/
def StaysBelow (base : Path) : Option String → Prop
  | none => True
  | some name =>
    if Path.isAbsolute name then base <+: (Path.reduce (Path.parts name)).2
    else base.drop (base.length - (Path.reduce (Path.parts name)).1) <+: (Path.reduce (Path.parts name)).2

theorem below_artifactPath_iff {name : String} : Path.Below base (artifactPath dir name) ↔ base <+: dir := by
  rw [Path.Below, artifactPath, List.prefix_concat_iff]
  constructor
  · rintro ⟨heq | hprefix, hne⟩
    · exact absurd heq.symm hne
    · exact hprefix
  · intro hprefix
    refine ⟨.inr hprefix, fun heq => ?_⟩
    have hlength := hprefix.length_le
    rw [← heq, List.length_append, List.length_singleton] at hlength
    omega

namespace Host

variable {host : Host} {tree : Tree}

theorem baseDir_spec (h : host.baseDir outputDir = .ok (base, tree)) : Path.Plain base ∧ Tree.Extends host.tree tree := by
  rw [baseDir] at h
  cases hroot : (outputDir <|> host.artifactRoot) with
  | none =>
      rw [hroot] at h
      obtain ⟨rfl, rfl⟩ := Prod.mk.inj (Except.ok.inj h)
      exact ⟨Path.plain_resolve _, .refl _⟩
  | some text =>
      rw [hroot] at h
      dsimp only at h
      cases hexpanded : host.expanduser text with
      | error e =>
          rw [hexpanded] at h
          cases h
      | ok expanded =>
          rw [hexpanded] at h
          dsimp only [bind, Except.bind] at h
          split at h
          · next made hmade =>
            obtain ⟨rfl, rfl⟩ := Prod.mk.inj (Except.ok.inj h)
            exact ⟨Path.plain_resolve _, Tree.mkdirParents_extends hmade⟩
          · cases h

theorem mkdtemp_spec {start : String} {endings : List String} (h : mkdtemp tree start base endings = .ok path) :
    base <+: path ∧ tree.entry path = none := by
  induction endings with
  | nil => cases h
  | cons ending rest ih =>
      rw [mkdtemp] at h
      split at h
      · exact ih h
      · next hentry _ =>
        obtain rfl := Except.ok.inj h
        exact ⟨List.prefix_append _ _, hentry⟩
      · cases h

/-- The directory of a bundle was not there before, and it lies below the base directory if and only if the name of the
bundle does not lead out of it. -/
theorem prepareBundleDir_spec (hbase : host.baseDir outputDir = .ok (base, tree))
    (h : host.prepareBundleDir outputDir bundleName = .ok dir) :
    host.tree.entry dir = none ∧ (base <+: dir ↔ StaysBelow base bundleName) := by
  obtain ⟨hplain, hextends⟩ := baseDir_spec hbase
  have hbefore : tree.entry dir = none → host.tree.entry dir = none := by
    intro hnone
    by_contra hentry
    rw [← hextends dir hentry, hnone] at hentry
    exact hentry rfl
  rw [prepareBundleDir, hbase] at h
  cases bundleName with
  | none =>
      obtain ⟨hbelow, hnone⟩ := mkdtemp_spec h
      exact ⟨hbefore hnone, iff_of_true hbelow trivial⟩
  | some name =>
      change (if tree.present (Path.join base name) then _ else _) = _ at h
      split at h
      · cases h
      · split at h
        · cases h
        · split at h
          · next hmade =>
            obtain rfl := Except.ok.inj h
            obtain ⟨made, hmade⟩ := Option.isSome_iff_exists.mp hmade
            exact ⟨hbefore (Tree.mkdirParents_fresh hmade), Path.prefix_resolve_join hplain name⟩
          · cases h

end Host

namespace Session

variable {W : Type} [Gdb W] {tools tools' : CaptureTools W} {request : CaptureOptions MemoryCaptureRange}

/-! ### What is written -/

/-- Captures with the same writing of the artifacts of a directory. -/
theorem captureSections_congr (h : ∀ name, tools.writeText (artifactPath dir name) = tools'.writeText (artifactPath dir name)) :
    captureSections tools dir request = captureSections tools' dir request := by
  have hwrite : writeArtifact tools dir = writeArtifact tools' dir := by
    funext name status progress
    rw [writeArtifact, writeArtifact, h]
  simp only [captureSections, captureContext, captureStopHistory, captureTranscript, captureThreads, captureBacktraces,
    captureFrame, captureVariables, captureRegisters, captureExpressions, captureMemoryRanges, writeResult, hwrite]

/-- A capture whose writes fail ends with the failure of the first one. -/
theorem captureSections_fails {s : Session W} {e : PyError} (hs : s.runtime.hasController = false)
    (h : tools.writeText (artifactPath dir "session-status") = raise e) :
    wp (captureSections tools dir request) (fun _ _ => False) (fun e' _ => e' = e) s := by
  have hstatus : wp (getStatus : SessionM W _) (fun _ s' => s' = s) (fun _ _ => False) s := by
    rw [wp, getStatus_detached hs]
  rw [captureSections, wp_bind]
  refine wp_mono hstatus (fun statusResult s₁ _ => ?_) fun _ _ h => h.elim
  have hwrite : ∀ (status : String) (progress : CaptureProgress),
      wp (writeArtifact tools dir "session-status" status progress) (fun _ _ => False) (fun e' _ => e' = e) s₁ := by
    intro status progress
    rw [writeArtifact, h]
    rfl
  rw [wp_bind, read, wp_gets, wp_bind, writeResult]
  split
  · exact wp_mono (hwrite _ _) (fun _ _ h => h.elim) fun _ _ h => h
  · rw [wp_bind]
    exact wp_mono (hwrite _ _) (fun _ _ h => h.elim) fun _ _ h => h

end Session

/-- A capture writes only at paths of a kind: how the writing would end anywhere else makes no difference. -/
def WritesOnly (host : Host) (request : CaptureOptions MemoryCaptureRange) (P : Path → Prop) : Prop :=
  ∀ (W : Type) [Gdb W] (tools tools' : Session.CaptureTools W), tools.host = host → tools'.host = host →
    (∀ path, P path → tools.writeText path = tools'.writeText path) →
    Session.captureBundle tools request = Session.captureBundle tools' request

section Capture

variable {host : Host} {request : CaptureOptions MemoryCaptureRange}

theorem writesOnly_of_below (h : host.Captures request dir) (hbase : base <+: dir) :
    WritesOnly host request (Path.Below base) := by
  intro W _ tools tools' htools htools' hagree
  rw [Session.captureBundle, Session.captureBundle, htools, htools', h.1, h.2]
  exact Session.captureSections_congr fun name => hagree _ (below_artifactPath_iff.mpr hbase)

/-- Tools whose writes fail, with a text that depends on the path. -/
def failingTools (host : Host) (text : Path → String) : Session.CaptureTools Debugger where
  host := host
  writeText path := raise (.osError (text path))

theorem captureBundle_fails (h : host.Captures request dir) (text : Path → String) {s : Session Debugger}
    (hs : s.runtime.hasController = false) :
    wp (Session.captureBundle (failingTools host text) request) (fun _ _ => False)
      (fun e _ => e = .osError (text (artifactPath dir "session-status"))) s := by
  have hhost : (failingTools host text).host = host := rfl
  rw [Session.captureBundle, hhost, h.1, h.2]
  exact Session.captureSections_fails hs rfl

/-- Writes that fail in one way below a directory and in another way elsewhere tell where the artifacts are. -/
theorem below_of_writesOnly (h : host.Captures request dir) (hwrites : WritesOnly host request (Path.Below base)) :
    base <+: dir := by
  let s : Session Debugger :=
    { runtime := {}, gdb := { answers := fun _ _ _ => {}, selection := { thread := 1, frame := 0 } } }
  have hsame : Session.captureBundle (failingTools host fun path => if Path.Below base path then "inside" else "outside") request =
      Session.captureBundle (failingTools host fun _ => "inside") request := by
    refine hwrites Debugger _ _ rfl rfl fun path hpath => ?_
    rw [failingTools, failingTools]
    dsimp only
    rw [if_pos hpath]
  have htells := captureBundle_fails h (fun path => if Path.Below base path then "inside" else "outside") (s := s) rfl
  rw [hsame] at htells
  have hboth := wp_state (I := fun _ => (if Path.Below base (artifactPath dir "session-status") then "inside" else "outside") = "inside")
    (wp_mono (wp_and htells (captureBundle_fails h (fun _ => "inside") (s := s) rfl)) (fun _ _ h => h.1.elim)
      fun _ _ h => PyError.osError.inj (h.1.symm.trans h.2))
  by_contra hbase
  rw [if_neg (below_artifactPath_iff.not.mpr hbase)] at hboth
  exact absurd hboth (by decide)

end Capture

/-- A capture writes only below its base directory, and into a directory that was not there, if and only if the name of
its bundle does not lead out of the base directory. -/
theorem capture_stays_below_base_iff (host : Host) (request : CaptureOptions MemoryCaptureRange) :
    (∀ base tree dir, host.baseDir request.outputDir = .ok (base, tree) → host.Captures request dir →
        WritesOnly host request (Path.Below base) ∧ host.tree.entry dir = none) ↔
      ∀ base tree dir, host.baseDir request.outputDir = .ok (base, tree) → host.Captures request dir →
        StaysBelow base request.bundleName := by
  refine forall_congr' fun base => forall_congr' fun tree => forall_congr' fun dir => forall_congr' fun hbase =>
    forall_congr' fun hcaptures => ?_
  obtain ⟨hnew, hbelow⟩ := Host.prepareBundleDir_spec hbase hcaptures.2
  rw [← hbelow]
  constructor
  · intro h
    exact below_of_writesOnly hcaptures h.1
  · intro h
    exact ⟨writesOnly_of_below hcaptures h, hnew⟩

/-- The bundle `../escaped` is written beside the base directory. -/
theorem parent_name_escapes :
    Host.fresh.Captures { bundleName := some "../escaped" } ["escaped"] ∧
      ∃ tree, Host.fresh.baseDir none = .ok (["tmp"], tree) ∧
        ¬WritesOnly .fresh { bundleName := some "../escaped" } (Path.Below ["tmp"]) := by
  have hcaptures : Host.fresh.Captures { bundleName := some "../escaped" } ["escaped"] := by
    refine ⟨rfl, ?_⟩
    decide +kernel
  refine ⟨hcaptures, _, rfl, fun h => ?_⟩
  have hbelow : ["tmp"] <+: ["escaped"] := below_of_writesOnly hcaptures h
  exact absurd hbelow (by decide)

end GdbMcp
