import GdbMcp.RunnerUpdate
import GdbMcp.RuntimeMirror

/-! The updates behind a command, as sequences of mutators. What holds of single mutators, on the life
cycle, on the stop events and on the inferiors that run, then holds of every update. -/

namespace GdbMcp

open Eff SessionRuntime

namespace Mutator

/-- The mutators that leave the life cycle alone. -/
def isUpdate : Mutator → Bool
  | .beginStartup _ => false
  | .markReady => false
  | .markFailed _ => false
  | .markTransportTerminated _ => false
  | .markStopped => false
  | _ => true

/-- The updates that record no stop event, and let no inferior run but those that `starts` allows. -/
def Quiet (starts : Int → Prop) : Mutator → Prop
  | .markInferiorRunning (some k) => starts k
  | .markInferiorRunning none => False
  | .recordStopEvent _ => False
  | m => m.isUpdate = true

theorem Quiet.isUpdate {starts : Int → Prop} {m : Mutator} (h : m.Quiet starts) : m.isUpdate = true := by
  cases m <;> first | exact h | rfl

theorem Quiet.mono {starts starts' : Int → Prop} (himp : ∀ k, starts k → starts' k) {m : Mutator}
    (h : m.Quiet starts) : m.Quiet starts' := by
  cases m with
  | markInferiorRunning id =>
      cases id with
      | none => exact h
      | some k => exact himp k h
  | _ => exact h

end Mutator

/-- The runtime has been changed by mutators that meet a condition, and by writes of `target_loaded`. -/
inductive Updated (S : Mutator → Prop) (rt : SessionRuntime) : SessionRuntime → Prop
  | refl : Updated S rt rt
  | mutate {rt' : SessionRuntime} (h : Updated S rt rt') (m : Mutator) (hm : S m) : Updated S rt (rt'.apply m)
  | loaded {rt' : SessionRuntime} (h : Updated S rt rt') (targetLoaded : Bool) :
      Updated S rt { rt' with targetLoaded := targetLoaded }

namespace Updated

variable {S S' : Mutator → Prop} {rt rt₁ rt₂ : SessionRuntime}

theorem trans (h : Updated S rt rt₁) (h' : Updated S rt₁ rt₂) : Updated S rt rt₂ := by
  induction h' with
  | refl => exact h
  | mutate _ m hm ih => exact ih.mutate m hm
  | loaded _ b ih => exact ih.loaded b

instance (S : Mutator → Prop) : Std.Refl (Updated S) := ⟨fun _ => .refl⟩

instance (S : Mutator → Prop) : IsTrans SessionRuntime (Updated S) := ⟨fun _ _ _ => trans⟩

theorem mono (h : Updated S rt rt₁) (himp : ∀ m, S m → S' m) : Updated S' rt rt₁ := by
  induction h with
  | refl => exact .refl
  | mutate _ m hm ih => exact ih.mutate m (himp m hm)
  | loaded _ b ih => exact ih.loaded b

/-- A property that the allowed mutators keep, and that `target_loaded` has no part in, is kept. -/
theorem keeps {P : SessionRuntime → Prop} (h : Updated S rt rt₁)
    (hmutate : ∀ rt m, S m → P rt → P (rt.apply m))
    (hloaded : ∀ (rt : SessionRuntime) b, P rt → P { rt with targetLoaded := b }) (hP : P rt) : P rt₁ := by
  induction h with
  | refl => exact hP
  | mutate _ m hm ih => exact hmutate _ m hm ih
  | loaded _ b ih => exact hloaded _ b ih

theorem one (m : Mutator) (hm : S m) : Updated S rt (rt.apply m) := mutate .refl m hm

end Updated

/-! ### The updates -/

section Updates

variable {starts : Int → Prop}

/-- A computation that only makes quiet updates. -/
abbrev QuietUpdate {α : Type} (starts : Int → Prop) (m : RuntimeM α) : Prop :=
  m.Within (Updated (Mutator.Quiet starts))

theorem quiet_mutate {f : SessionRuntime → SessionRuntime} (m : Mutator) (hm : m.Quiet starts)
    (hf : ∀ rt, f rt = rt.apply m) : QuietUpdate starts (Eff.modify f) :=
  Within.modify fun rt => hf rt ▸ Updated.one m hm

/-- The inferiors that a notification says have started. -/
def MiNotifyRecord.Starts (notify : MiNotifyRecord) (k : Int) : Prop :=
  notify.message = some "thread-group-started" ∧
    parseInferiorIdFromThreadGroup (notify.payload.asDict.get "id") = .ok (some k)

theorem quiet_scanNotify (scan : StopScan) (notify : MiNotifyRecord) :
    QuietUpdate notify.Starts (scanNotify scan notify) := by
  unfold scanNotify
  extract_lets fields
  split
  · refine (Within.ofExcept _).bind fun id => ?_
    cases id with
    | none => exact Within.pure _
    | some k => exact (quiet_mutate (.ensureInferior k) rfl fun _ => rfl).bind fun _ => Within.pure _
  · rename_i hmessage
    refine Within.ofExcept_bind fun id hid => ?_
    cases id with
    | none => exact Within.pure _
    | some k =>
        have hstarts : Mutator.Quiet notify.Starts (.markInferiorRunning (some k)) := ⟨hmessage, hid⟩
        exact (quiet_mutate _ hstarts fun _ => rfl).bind fun _ => Within.pure _
  · refine (Within.ofExcept _).bind fun id => (Within.ofExcept _).bind fun code => ?_
    exact (quiet_mutate (.markInferiorExited _ code id) rfl fun _ => rfl).bind fun _ => Within.pure _
  · refine (Within.ofExcept _).bind fun id => ?_
    cases id with
    | none => exact Within.pure _
    | some k => exact (quiet_mutate (.removeInferior k) rfl fun _ => rfl).bind fun _ => Within.pure _
  · split
    · exact Within.pure _
    · exact (Within.ofExcept _).bind fun _ => Within.pure _
  · exact Within.pure _

theorem QuietUpdate.mono {α : Type} {starts' : Int → Prop} {m : RuntimeM α} (hm : QuietUpdate starts m)
    (himp : ∀ k, starts k → starts' k) : QuietUpdate starts' m :=
  Within.mono hm fun _ _ h => h.mono fun _ => Mutator.Quiet.mono himp

/-- A scan lets those inferiors run that one of its notifications says have started. -/
theorem quiet_scanNotifies (scan : StopScan) (notifies : List MiNotifyRecord) :
    QuietUpdate (fun k => ∃ n ∈ notifies, n.Starts k) (scanNotifies scan notifies) := by
  induction notifies generalizing scan with
  | nil => exact Within.pure _
  | cons notify rest ih =>
      refine Within.bind ?_ fun scan => ?_
      · refine (quiet_scanNotify scan notify).mono ?_
        exact fun k h => ⟨notify, List.mem_cons_self, h⟩
      · refine (ih scan).mono ?_
        exact fun k ⟨n, hn, h⟩ => ⟨n, List.mem_cons_of_mem _ hn, h⟩

/-- An inferior that is marked running is one that may start; the others are marked in other states. -/
theorem updated_applyLoad (normalized : String) (rt : SessionRuntime) :
    Updated (Mutator.Quiet starts) rt (applyLoad normalized rt) := by
  unfold applyLoad
  extract_lets rt'
  have h : Updated (Mutator.Quiet starts) rt rt' := (Updated.refl.loaded true).mutate .clearAttachedPid rfl
  split
  · split
    · exact h.mutate (.markInferiorPaused (some "core-file") rt'.currentInferiorId) rfl
    · exact h.mutate (.markInferiorNotStarted rt'.currentInferiorId) rfl
  · exact h

theorem updated_applyAttach (pid : Option Int) (rt : SessionRuntime) :
    Updated (Mutator.Quiet starts) rt (applyAttach pid rt) := by
  unfold applyAttach
  extract_lets rt'
  have h : Updated (Mutator.Quiet starts) rt rt' := by
    cases pid with
    | none => exact .refl
    | some pid => exact Updated.one (.markAttached pid) rfl
  split
  · exact h.mutate (.markInferiorPaused (some "attached") rt'.currentInferiorId) rfl
  · exact h

theorem quiet_applyCommandText (command : String) (parsed : ParsedMiResponse) :
    QuietUpdate starts (applyCommandText command parsed) := by
  unfold applyCommandText
  extract_lets normalized accepted
  refine Within.ite (Within.modify (updated_applyLoad _)) (Within.ite ?_ (Within.ite ?_ (Within.ite ?_
    (Within.ite ?_ (Within.ite ?_ ?_)))))
  · refine Within.bind (Within.modify fun rt => Updated.refl.loaded true) fun _ => ?_
    exact (Within.ofExcept _).bind fun pid => Within.modify (updated_applyAttach pid)
  · exact quiet_mutate .clearAttachedPid rfl fun _ => rfl
  · refine (Within.ofExcept _).bind fun id => ?_
    cases id with
    | none => exact Within.modify fun _ => .refl
    | some k => exact quiet_mutate (.markInferiorSelected (some k)) rfl fun _ => rfl
  · exact quiet_mutate (.markFollowForkMode _) rfl fun _ => rfl
  · exact quiet_mutate (.markDetachOnFork _) rfl fun _ => rfl
  · exact Within.pure _

theorem updated_selectStop (stop : StopFields) (rt : SessionRuntime) :
    Updated (Mutator.Quiet starts) rt (rt.selectStop stop) := by
  unfold SessionRuntime.selectStop
  extract_lets rt'
  have h : Updated (Mutator.Quiet starts) rt rt' := by
    simp only [rt']
    split
    · exact Updated.one (.markThreadSelected stop.threadId) rfl
    · exact .refl
  split
  · exact h.mutate (.markFrameSelected stop.frameLevel) rfl
  · exact h

end Updates

/-! ### What the updates keep -/

namespace SessionRuntime

/-- What the bookkeeping of inferiors leaves alone: the life cycle, the client and the stop events. -/
def frame (rt : SessionRuntime) : SessionState × Bool × MiClient × List StopEvent :=
  (rt.state, rt.isRunning, rt.transport, rt.stopEvents)

@[simp] theorem frame_synchronizeSelectedState (rt : SessionRuntime) :
    rt.synchronizeSelectedState.frame = rt.frame := by
  unfold synchronizeSelectedState
  split <;> rfl

@[simp] theorem frame_ensureInferior (rt : SessionRuntime) (k : Int) : (rt.ensureInferior k).frame = rt.frame := by
  unfold ensureInferior
  split <;> rfl

@[simp] theorem frame_removeInferior (rt : SessionRuntime) (k : Int) : (rt.removeInferior k).frame = rt.frame := by
  unfold removeInferior
  split
  · rw [frame_synchronizeSelectedState]
    split <;> rfl
  · rfl

@[simp] theorem frame_markInferiorSelected (rt : SessionRuntime) (k : Option Int) :
    (rt.markInferiorSelected k).frame = rt.frame := by
  unfold markInferiorSelected
  cases k with
  | none => exact frame_synchronizeSelectedState _
  | some k => exact (frame_synchronizeSelectedState _).trans (frame_ensureInferior _ _)

@[simp] theorem frame_updateInferiorInventory (rt : SessionRuntime) (current : Option Int) (count : Int)
    (ids : Option (List Int)) : (rt.updateInferiorInventory current count ids).frame = rt.frame := by
  unfold updateInferiorInventory
  extract_lets rt₁ rt₂
  have h₂ : rt₂.frame = rt.frame := rfl
  rw [frame_synchronizeSelectedState]
  cases hcurrent : rt₂.currentInferiorId with
  | none => exact h₂
  | some k => exact (frame_ensureInferior _ _).trans h₂

@[simp] theorem frame_updateInferiorState (rt : SessionRuntime) (k : Option Int)
    (state : InferiorRuntimeState) : (rt.updateInferiorState k state).frame = rt.frame := by
  unfold updateInferiorState
  extract_lets target rt'
  split <;> rfl

theorem frame_apply (rt : SessionRuntime) {m : Mutator} (hm : m.isUpdate = true)
    (hevent : ∀ event, m ≠ .recordStopEvent event) : (rt.apply m).frame = rt.frame := by
  cases m with
  | beginStartup config => exact nomatch hm
  | markReady => exact nomatch hm
  | markFailed message => exact nomatch hm
  | markTransportTerminated message => exact nomatch hm
  | markStopped => exact nomatch hm
  | recordStopEvent event => exact absurd rfl (hevent event)
  | markInferiorSelected k => exact frame_markInferiorSelected rt k
  | updateInferiorInventory current count ids => exact frame_updateInferiorInventory rt current count ids
  | ensureInferior k => exact frame_ensureInferior rt k
  | removeInferior k => exact frame_removeInferior rt k
  | markInferiorNotStarted k => exact frame_updateInferiorState rt k _
  | markInferiorRunning k => exact frame_updateInferiorState rt k _
  | markInferiorPaused reason k => exact frame_updateInferiorState rt k _
  | markInferiorExited reason code k => exact frame_updateInferiorState rt k _
  | _ => rfl

/-- The life cycle state, the running flag and the client. -/
def life (rt : SessionRuntime) : SessionState × Bool × MiClient := (rt.state, rt.isRunning, rt.transport)

theorem life_eq_of_frame_eq {rt rt' : SessionRuntime} (h : rt'.frame = rt.frame) : rt'.life = rt.life :=
  congrArg (fun frame => (frame.1, frame.2.1, frame.2.2.1)) h

theorem life_apply (rt : SessionRuntime) {m : Mutator} (hm : m.isUpdate = true) :
    (rt.apply m).life = rt.life := by
  by_cases hevent : ∃ event, m = .recordStopEvent event
  · obtain ⟨event, rfl⟩ := hevent
    rfl
  · rw [not_exists] at hevent
    exact life_eq_of_frame_eq (frame_apply rt hm hevent)

end SessionRuntime

namespace Updated

variable {S : Mutator → Prop} {starts : Int → Prop} {rt rt' : SessionRuntime}

theorem life (h : Updated S rt rt') (hS : ∀ m, S m → m.isUpdate = true) : rt'.life = rt.life :=
  h.keeps (P := fun rt' => rt'.life = rt.life) (fun rt' m hm ih => (life_apply rt' (hS m hm)).trans ih)
    (fun _ _ ih => ih) rfl

theorem frame (h : Updated (Mutator.Quiet starts) rt rt') : rt'.frame = rt.frame :=
  h.keeps (P := fun rt' => rt'.frame = rt.frame)
    (fun rt' m hm ih => (frame_apply rt' hm.isUpdate (by rintro event rfl; exact hm)).trans ih)
    (fun _ _ ih => ih) rfl

theorem mirror (h : Updated S rt rt') (hrt : rt.Mirror) : rt'.Mirror :=
  h.keeps (fun _ m _ h => h.apply m) (fun _ _ h => h.of_eq rfl rfl rfl) hrt

end Updated

/-- A computation on the runtime that leaves its life cycle alone. -/
abbrev KeepsLife {α : Type} (m : RuntimeM α) : Prop := m.Within (Same SessionRuntime.life)

theorem QuietUpdate.keepsLife {α : Type} {starts : Int → Prop} {m : RuntimeM α}
    (hm : QuietUpdate starts m) : KeepsLife m :=
  Within.mono hm fun _ _ h => h.life fun _ => Mutator.Quiet.isUpdate

theorem SessionRuntime.life_applyStop (rt : SessionRuntime) (command : String) (stop : StopFields)
    (now : Nat) : (rt.applyStop command stop now).life = rt.life := by
  unfold applyStop
  extract_lets k rt₁ rt₂
  have hselected : Updated (Mutator.Quiet fun _ => False) rt rt₁ := updated_selectStop stop rt
  have hmarked : rt₂.life = rt₁.life := by
    simp only [rt₂]
    split <;> exact life_eq_of_frame_eq (frame_updateInferiorState _ _ _)
  exact hmarked.trans (hselected.life fun _ => Mutator.Quiet.isUpdate)

end GdbMcp
