import GdbMcp.InspectionSends
import GdbMcp.SessionCapture

/-! What a capture keeps, from what its parts keep. Besides the commands of its sections it only writes the files of its
artifacts. -/

namespace GdbMcp

open Eff

namespace Session

variable {W : Type} [Gdb W] {R : Session W → Session W → Prop} {tools : CaptureTools W} {bundleDir : Path}
  {request : CaptureOptions MemoryCaptureRange} {α : Type}

/-- The parts of a capture lead along a relation, those in the current context taken together. -/
structure CaptureParts (R : Session W → Session W → Prop) (tools : CaptureTools W) (bundleDir : Path)
    (request : CaptureOptions MemoryCaptureRange) : Prop where
  status : Within R (getStatus : SessionM W _)
  write : ∀ name, Within R (tools.writeText (artifactPath bundleDir name))
  threads : Within R (getThreads : SessionM W _)
  threadIds : ∀ threads, Within R (narrow (threadIds threads) : SessionM W _)
  backtrace : ∀ threadId, Within R (getBacktrace (some threadId) request.maxFrames : SessionM W _)
  memory : ∀ range : MemoryCaptureRange, Within R (readMemory range.address range.count range.offset : SessionM W _)
  context : ∀ progress, Within R (captureContext tools bundleDir request progress)

/-- A read of memory, from its commands. -/
theorem within_readMemory [Std.Refl R] [IsTrans (Session W) R] (hfeatures : Within R (query "-list-features" : SessionM W _))
    (hcached : ∀ supported, Within R (update fun rt => { rt with readMemoryBytesSupported := supported } : SessionM W Unit))
    (hquery : ∀ command, PyStr.startswith command "-data-read-memory" = true → Within R (query command : SessionM W _))
    (address : String) (count offset : Int) : Within R (readMemory address count offset : SessionM W _) := by
  have hsupports : Within R (supportsReadMemoryBytes : SessionM W _) := by
    refine (Within.gets _).bind fun cached => ?_
    cases cached with
    | some _ => exact Within.pure _
    | none => exact hfeatures.bind fun _ => (hcached _).bind fun _ => Within.pure _
  have hread : ∀ {command : String} (report : Value → MemoryReadInfo), PyStr.startswith command "-data-read-memory" = true →
      Within R (readMemoryWith command report : SessionM W _) := by
    intro command report hcommand
    exact (hquery command hcommand).bind fun _ => within_orReturn fun _ => Within.pure _
  refine hsupports.bind fun _ => Within.ite (hread _ ?_) (hread _ ?_)
  · exact PyStr.startswith_append_left (PyStr.startswith_append_left (PyStr.startswith_append_left
      (PyStr.startswith_append_left rfl _) _) _) _
  · exact PyStr.startswith_append_left (PyStr.startswith_append_left (PyStr.startswith_append_left
      (PyStr.startswith_append_left rfl _) _) _) _

/-! ### Sections -/

section Writes

variable [Std.Refl R] [IsTrans (Session W) R]

omit [Gdb W] in
theorem within_writeArtifact (hwrite : ∀ name, Within R (tools.writeText (artifactPath bundleDir name)))
    (name status : String) (progress : CaptureProgress) : Within R (writeArtifact tools bundleDir name status progress) :=
  (hwrite name).bind fun _ => Within.pure _

omit [Gdb W] in
theorem within_writeResult (hwrite : ∀ name, Within R (tools.writeText (artifactPath bundleDir name)))
    (name : String) (result : OperationResult α) (progress : CaptureProgress) :
    Within R (writeResult tools bundleDir name result progress) :=
  Within.ite (within_writeArtifact hwrite _ _ _) ((within_writeArtifact hwrite _ _ _).bind fun _ => Within.pure _)

theorem within_captureMemoryRanges (hwrite : ∀ name, Within R (tools.writeText (artifactPath bundleDir name)))
    (hmemory : ∀ range : MemoryCaptureRange, Within R (readMemory range.address range.count range.offset : SessionM W _))
    (progress : CaptureProgress) : Within R (captureMemoryRanges tools bundleDir request progress) := by
  have hranges : ∀ ranges, Within R (memoryRangeFailures ranges : SessionM W _) := by
    intro ranges
    induction ranges with
    | nil => exact Within.pure _
    | cons range rest ih => exact (hmemory range).bind fun _ => ih.bind fun _ => Within.pure _
  exact Within.ite (Within.pure _) ((hranges _).bind fun _ => within_writeArtifact hwrite _ _ _)

variable (hparts : CaptureParts R tools bundleDir request)
include hparts

theorem within_captureThreads (progress : CaptureProgress) :
    Within R (captureThreads tools bundleDir request progress) := by
  refine Within.ite (hparts.threads.bind fun result => (within_writeResult hparts.write _ _ _).bind fun _ => ?_) (Within.pure _)
  cases result with
  | success info _ => exact (hparts.threadIds _).bind fun _ => Within.pure _
  | error => exact Within.pure _

theorem within_backtraceFailures (ids : List Int) : Within R (backtraceFailures request ids : SessionM W _) := by
  induction ids with
  | nil => exact Within.pure _
  | cons threadId rest ih => exact (hparts.backtrace threadId).bind fun _ => ih.bind fun _ => Within.pure _

theorem within_captureBacktraces (ids : List Int) (progress : CaptureProgress) :
    Within R (captureBacktraces tools bundleDir request ids progress) := by
  have hfailures : Within R (listedFailures request ids : SessionM W _) :=
    Within.ite (Within.pure _) (within_backtraceFailures hparts ids)
  exact Within.ite (hfailures.bind fun _ => within_writeArtifact hparts.write _ _ _) (Within.pure _)

theorem within_captureSections : Within R (captureSections tools bundleDir request) := by
  refine hparts.status.bind fun statusResult => (Within.gets _).bind fun status => ?_
  refine (within_writeResult hparts.write _ _ _).bind fun _ => (within_writeArtifact hparts.write _ _ _).bind fun _ => ?_
  refine (Within.ite (within_writeArtifact hparts.write _ _ _) (Within.pure _)).bind fun _ => ?_
  refine (Within.ite (within_writeArtifact hparts.write _ _ _) (Within.pure _)).bind fun _ => ?_
  refine (within_captureThreads hparts _).bind fun listed => ?_
  obtain ⟨progress, ids⟩ := listed
  refine (within_captureBacktraces hparts _ _).bind fun _ => (hparts.context _).bind fun _ => ?_
  refine (within_captureMemoryRanges hparts.write hparts.memory _).bind fun _ => (within_writeArtifact hparts.write _ _ _).bind fun _ => ?_
  exact (Within.gets _).bind fun _ => Within.pure _

end Writes

end Session
end GdbMcp
