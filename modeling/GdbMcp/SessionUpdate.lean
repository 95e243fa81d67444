import GdbMcp.RunnerStops
import GdbMcp.RuntimeSteps

/-! The update behind a command, cut in two: what leads up to the stop, which follows the thread groups and may
refresh the inventory, and the stop itself. -/

namespace GdbMcp

open Eff Session

/-- The reading of the first `stopped` notification. -/
def heardStop (notifies : List MiNotifyRecord) : Option (Except PyError StopFields) :=
  (notifies.find? MiNotifyRecord.isStop).map fun n => readStopFields n.payload

theorem heardStop_cons (notify : MiNotifyRecord) (rest : List MiNotifyRecord) :
    heardStop (notify :: rest) = (heardStop [notify] <|> heardStop rest) := by
  cases hstop : notify.isStop <;> simp [heardStop, hstop]

theorem heardStop_of_not_isStop {notify : MiNotifyRecord} (h : notify.isStop = false) : heardStop [notify] = none := by
  simp [heardStop, h]

/-- What a scan remembers, once it returns, is the reading of the first stop. -/
abbrev Hears (before after : StopScan) (notifies : List MiNotifyRecord) : Prop :=
  after.stop.map Except.ok = (before.stop.map Except.ok <|> heardStop notifies)

theorem hears_quiet {scan scan' : StopScan} {notify : MiNotifyRecord} (h : notify.isStop = false)
    (heq : scan'.stop = scan.stop) : Hears scan scan' [notify] := by
  rw [Hears, heardStop_of_not_isStop h, heq]
  cases scan.stop <;> rfl

theorem scanNotify_hears (scan : StopScan) (notify : MiNotifyRecord) (rt : SessionRuntime) :
    wp (scanNotify scan notify) (fun scan' _ => Hears scan scan' [notify]) (fun _ _ => True) rt := by
  have hquiet : ∀ message, notify.message = some message → message ≠ "stopped" → notify.isStop = false := by
    intro message hmessage hne
    simpa [MiNotifyRecord.isStop, hmessage] using hne
  unfold scanNotify
  extract_lets fields
  split <;> rename_i hmessage
  · have hscan := hquiet _ hmessage (by decide)
    rw [wp_bind, wp_ofExcept]
    refine ⟨fun id _ => ?_, fun _ _ => trivial⟩
    cases id <;> exact hears_quiet hscan rfl
  · have hscan := hquiet _ hmessage (by decide)
    rw [wp_bind, wp_ofExcept]
    refine ⟨fun id _ => ?_, fun _ _ => trivial⟩
    cases id <;> exact hears_quiet hscan rfl
  · have hscan := hquiet _ hmessage (by decide)
    rw [wp_bind, wp_ofExcept]
    refine ⟨fun id _ => ?_, fun _ _ => trivial⟩
    rw [wp_bind, wp_ofExcept]
    exact ⟨fun code _ => hears_quiet hscan rfl, fun _ _ => trivial⟩
  · have hscan := hquiet _ hmessage (by decide)
    rw [wp_bind, wp_ofExcept]
    refine ⟨fun id _ => ?_, fun _ _ => trivial⟩
    cases id <;> exact hears_quiet hscan rfl
  · have hstop : notify.isStop = true := by simp [MiNotifyRecord.isStop, hmessage]
    cases hseen : scan.stop with
    | some stop => simp [Hears, hseen]
    | none =>
        rw [wp_bind, wp_ofExcept]
        exact ⟨fun stop hread => by simp [Hears, hseen, heardStop, hstop, hread], fun _ _ => trivial⟩
  · have hstop : notify.isStop = false := by simpa [MiNotifyRecord.isStop] using hmessage
    exact hears_quiet hstop rfl

theorem scanNotifies_hears (notifies : List MiNotifyRecord) (scan : StopScan) (rt : SessionRuntime) :
    wp (scanNotifies scan notifies) (fun scan' _ => Hears scan scan' notifies) (fun _ _ => True) rt := by
  induction notifies generalizing scan rt with
  | nil =>
      show Hears scan scan []
      cases h : scan.stop <;> simp [Hears, heardStop, h]
  | cons notify rest ih =>
      rw [scanNotifies, wp_bind]
      refine wp_mono (scanNotify_hears scan notify rt) (fun scan₁ rt₁ h₁ => ?_) fun _ _ h => h
      refine wp_mono (ih scan₁ rt₁) (fun scan₂ rt₂ h₂ => ?_) fun _ _ h => h
      rw [Hears] at h₁ h₂ ⊢
      rw [h₂, h₁, heardStop_cons notify rest]
      cases scan.stop <;> cases heardStop [notify] <;> rfl

namespace Session

variable {W : Type} [Gdb W]

/-- The part of an update before its stop, or all of the scan where there is none. -/
def reachStop (notifies : List MiNotifyRecord) : SessionM W Unit := do
  let scan ← onRuntime (scanNotifies {} notifies)
  if scan.stop.isSome && scan.sawInferiorTopologyChange then refreshInferiorInventoryFromGdb else return ()

/-- The part of an update before the effects of its command's text. -/
def takeNotifications (command : String) (parsed : ParsedMiResponse) : SessionM W Unit := do
  let scan ← onRuntime (scanNotifies {} parsed.notify)
  applyScan command parsed.resultClass scan

/-- What the notifications of an update, and the class of its result, make of the runtime in which the stop is
applied. -/
inductive Settles (command : String) (parsed : ParsedMiResponse) (rt rt' : SessionRuntime) : Prop
  | stop {stop : StopFields} (now : Nat) (hheard : heardStop parsed.notify = some (.ok stop))
      (hruntime : rt' = rt.applyStop command stop now)
  | running (hheard : heardStop parsed.notify = none) (hclass : parsed.resultClass = some "running")
      (hruntime : rt' = rt.markInferiorRunning rt.currentInferiorId)
  | quiet (hheard : heardStop parsed.notify = none) (hclass : parsed.resultClass ≠ some "running")
      (hruntime : rt' = rt)

variable {command : String} {parsed : ParsedMiResponse} {s s' : Session W}

/-- An update takes the notifications and then the effects of its command's text. -/
theorem run_update (hrun : (updateRuntimeAfterCommand command parsed).run s = (.ok (), s')) :
    ∃ u, (takeNotifications command parsed).run s = (.ok (), u) ∧
      (onRuntime (applyCommandText command parsed)).run u = (.ok (), s') := by
  rw [updateRuntimeAfterCommand] at hrun
  obtain ⟨scan, s₁, hscan, hrest⟩ := ok_of_run_bind hrun
  obtain ⟨⟨⟩, u, happly, htext⟩ := ok_of_run_bind hrest
  exact ⟨u, by rw [takeNotifications, run_bind_ok hscan, happly], htext⟩

theorem notifications_settle (hrun : (takeNotifications command parsed).run s = (.ok (), s')) :
    ∃ t, (reachStop parsed.notify).run s = (.ok (), t) ∧ Settles command parsed t.runtime s'.runtime := by
  rw [takeNotifications] at hrun
  obtain ⟨scan, s₁, hscan, happly⟩ := ok_of_run_bind hrun
  have hheard : Hears {} scan parsed.notify := by
    have hwp := scanNotifies_hears parsed.notify {} s.runtime
    have hzoom : ((scanNotifies {} parsed.notify).run s.runtime).1 = .ok scan := congrArg Prod.fst hscan
    rw [wp] at hwp
    split at hwp
    · rename_i scan' rt' hrun'
      rw [hrun'] at hzoom
      exact Except.ok.inj hzoom ▸ hwp
    · rename_i e rt' hrun'
      rw [hrun'] at hzoom
      cases hzoom
  rw [reachStop, run_bind_ok hscan]
  rw [applyScan] at happly
  cases hstop : scan.stop with
  | some stop =>
      rw [Hears, hstop] at hheard
      have hheard : heardStop parsed.notify = some (.ok stop) := by simpa using hheard.symm
      simp only [hstop] at happly
      obtain ⟨⟨⟩, t, hrefresh, hstopped⟩ := ok_of_run_bind happly
      obtain ⟨now, u, htime, hupdate⟩ := ok_of_run_bind hstopped
      obtain ⟨-, rfl⟩ := Prod.mk.inj htime
      obtain ⟨-, rfl⟩ := Prod.mk.inj hupdate
      refine ⟨t, ?_, .stop now hheard rfl⟩
      simpa using hrefresh
  | none =>
      rw [Hears, hstop] at hheard
      have hheard : heardStop parsed.notify = none := by simpa using hheard.symm
      simp only [hstop] at happly
      refine ⟨s₁, by simp [pure], ?_⟩
      split at happly
      · rename_i hclass
        obtain ⟨-, rfl⟩ := Prod.mk.inj happly
        exact .running hheard hclass rfl
      · rename_i hclass
        obtain ⟨-, rfl⟩ := Prod.mk.inj happly
        exact .quiet hheard hclass rfl

/-- An update without the effects of its command's text. -/
theorem update_settles (htext : applyCommandText command parsed = pure ())
    (hrun : (updateRuntimeAfterCommand command parsed).run s = (.ok (), s')) :
    ∃ t, (reachStop parsed.notify).run s = (.ok (), t) ∧ Settles command parsed t.runtime s'.runtime := by
  obtain ⟨u, htaken, hquiet⟩ := run_update hrun
  rw [htext] at hquiet
  obtain ⟨-, rfl⟩ := Prod.mk.inj hquiet
  exact notifications_settle htaken

end Session
end GdbMcp
