import GdbMcp.SessionCommand
import GdbMcp.SessionStop

/-! What a command that fails leaves behind. An error of the debugger changes nothing; a timeout takes over the
effects that the text of the command would have had. -/

namespace GdbMcp

open Eff Session

namespace SessionRuntime

/-- What commands change by their texts is the same. -/
structure SameEffects (rt rt' : SessionRuntime) : Prop extends SameStates rt rt' where
  targetLoaded : rt.targetLoaded = rt'.targetLoaded
  attachedPid : rt.attachedPid = rt'.attachedPid
  currentInferiorId : rt.currentInferiorId = rt'.currentInferiorId
  followForkMode : rt.followForkMode = rt'.followForkMode
  detachOnFork : rt.detachOnFork = rt'.detachOnFork

/-- What commands change by their texts, but for the states. -/
def settings (rt : SessionRuntime) : Bool × Option Int × Option Int × Option FollowForkMode × Option Bool :=
  (rt.targetLoaded, rt.attachedPid, rt.currentInferiorId, rt.followForkMode, rt.detachOnFork)

/-- The runtime holds already what a load of a target asks for. -/
structure LoadHolds (rt : SessionRuntime) : Prop where
  loaded : rt.targetLoaded = true
  unattached : rt.attachedPid = none
  known : rt.executionState ≠ .unknown

/-- The runtime holds already what an attach to a process asks for. -/
structure AttachHolds (rt : SessionRuntime) (pid : Option Int) : Prop where
  loaded : rt.targetLoaded = true
  attached : ∀ k, pid = some k → rt.attachedPid = some k
  paused : rt.executionState = .paused
  reason : rt.stopReason ≠ none

/-- The inferior is selected already, and its record shows. -/
structure SelectionHolds (rt : SessionRuntime) (k : Int) : Prop where
  current : rt.currentInferiorId = some k
  shown : rt.inferiorStates.lookup k = some rt.selectedState

/-- The runtime holds already what the text of a command asks for. -/
def Holds (rt : SessionRuntime) (command : String) : Prop :=
  let normalized := normalizeCommand command
  if loadsTarget normalized then rt.LoadHolds
  else if PyStr.startswith normalized "attach " then
    ∀ pid, parseAttachedPid normalized = .ok pid → rt.AttachHolds pid
  else if normalized == "detach" then rt.attachedPid = none
  else if PyStr.startswith normalized "inferior " then
    ∀ k, parseInferiorId normalized = .ok (some k) → rt.SelectionHolds k
  else if PyStr.startswith normalized "set follow-fork-mode " then
    rt.followForkMode = parseFollowForkMode normalized
  else if PyStr.startswith normalized "set detach-on-fork " then rt.detachOnFork = parseDetachOnFork normalized
  else True

variable {rt rt' : SessionRuntime}

theorem SameEffects.refl (rt : SessionRuntime) : rt.SameEffects rt := ⟨⟨fun _ => rfl, rfl⟩, rfl, rfl, rfl, rfl, rfl⟩

theorem SameEffects.of_settings (h : rt.SameStates rt') (hsettings : rt.settings = rt'.settings) :
    rt.SameEffects rt' := by
  simp only [settings, Prod.mk.injEq] at hsettings
  obtain ⟨hloaded, hattached, hcurrent, hfollow, hdetach⟩ := hsettings
  exact ⟨h, hloaded, hattached, hcurrent, hfollow, hdetach⟩

theorem settings_synchronizeSelectedState (rt : SessionRuntime) :
    rt.synchronizeSelectedState.settings = rt.settings := by
  unfold synchronizeSelectedState
  split <;> rfl

theorem settings_ensureInferior (rt : SessionRuntime) (k : Int) : (rt.ensureInferior k).settings = rt.settings := by
  unfold ensureInferior
  split <;> rfl

theorem SameEffects.executionState (h : rt.SameEffects rt') : rt.executionState = rt'.executionState :=
  congrArg InferiorRuntimeState.executionState h.selected

theorem executionState_update_current (rt : SessionRuntime) (state : InferiorRuntimeState) :
    (rt.updateInferiorState rt.currentInferiorId state).executionState = state.executionState := by
  have hselected := selectedState_updateInferiorState rt rt.currentInferiorId state
  rw [if_pos (.inr (.inr rfl))] at hselected
  exact congrArg InferiorRuntimeState.executionState hselected

theorem stopReason_update_current (rt : SessionRuntime) (state : InferiorRuntimeState) :
    (rt.updateInferiorState rt.currentInferiorId state).stopReason = state.stopReason := by
  have hselected := selectedState_updateInferiorState rt rt.currentInferiorId state
  rw [if_pos (.inr (.inr rfl))] at hselected
  exact congrArg InferiorRuntimeState.stopReason hselected

/-! ### One command class after the other -/

theorem applyLoad_sameEffects (normalized : String) : (applyLoad normalized rt).SameEffects rt ↔ rt.LoadHolds := by
  unfold applyLoad
  extract_lets rt₁
  by_cases hunknown : rt₁.executionState = .unknown
  · rw [if_pos hunknown]
    constructor
    · intro h
      have hstate := h.executionState
      rw [show rt.executionState = .unknown from hunknown] at hstate
      split at hstate
      · exact nomatch (executionState_update_current rt₁ _).symm.trans hstate
      · exact nomatch (executionState_update_current rt₁ _).symm.trans hstate
    · intro h
      exact absurd hunknown h.known
  · rw [if_neg hunknown]
    constructor
    · intro h
      exact ⟨h.targetLoaded.symm, h.attachedPid.symm, hunknown⟩
    · intro h
      exact ⟨⟨fun _ => rfl, rfl⟩, h.loaded.symm, h.unattached.symm, rfl, rfl, rfl⟩

theorem applyAttach_sameEffects (pid : Option Int) :
    (applyAttach pid { rt with targetLoaded := true }).SameEffects rt ↔ rt.AttachHolds pid := by
  unfold applyAttach
  extract_lets rt₁
  have hstate : rt₁.executionState = rt.executionState ∧ rt₁.stopReason = rt.stopReason := by
    cases pid <;> exact ⟨rfl, rfl⟩
  by_cases hmarked : rt₁.executionState ≠ .paused ∨ rt₁.stopReason = none
  · rw [if_pos hmarked]
    constructor
    · intro h
      have hpaused := (executionState_update_current rt₁ _).symm.trans h.executionState
      have hreason := (stopReason_update_current rt₁ _).symm.trans
        (congrArg InferiorRuntimeState.stopReason h.selected)
      rw [hstate.1, hstate.2] at hmarked
      rcases hmarked with hne | hnone
      · exact absurd hpaused.symm hne
      · exact nomatch hreason.trans hnone
    · intro h
      rw [hstate.1, hstate.2] at hmarked
      rcases hmarked with hne | hnone
      · exact absurd h.paused hne
      · exact absurd hnone h.reason
  · rw [if_neg hmarked]
    rw [not_or, not_not, hstate.1, hstate.2] at hmarked
    cases pid with
    | none =>
        constructor
        · intro h
          exact ⟨h.targetLoaded.symm, fun _ hk => (nomatch hk), hmarked.1, hmarked.2⟩
        · intro h
          exact ⟨⟨fun _ => rfl, rfl⟩, h.loaded.symm, rfl, rfl, rfl, rfl⟩
    | some pid =>
        constructor
        · intro h
          exact ⟨h.targetLoaded.symm, fun _ hk => hk ▸ h.attachedPid.symm, hmarked.1, hmarked.2⟩
        · intro h
          exact ⟨⟨fun _ => rfl, rfl⟩, h.loaded.symm, (h.attached pid rfl).symm, rfl, rfl, rfl⟩

theorem lookup_ensureInferior_ne (rt : SessionRuntime) {j k : Int} (h : j ≠ k) :
    (rt.ensureInferior k).inferiorStates.lookup j = rt.inferiorStates.lookup j := by
  unfold ensureInferior
  split
  · rfl
  · exact AList.lookup_insert_ne h

theorem inferiorState_ensureInferior (rt : SessionRuntime) (k : Int) :
    (rt.ensureInferior k).inferiorState k = rt.inferiorState k := by
  unfold ensureInferior
  split
  · rfl
  · show ((rt.inferiorStates.insert k (rt.inferiorState k)).lookup k).getD {} = _
    rw [AList.lookup_insert]
    rfl

theorem lookup_synchronizeSelectedState (rt : SessionRuntime) {k : Int} (hcurrent : rt.currentInferiorId = some k)
    (j : Int) : rt.synchronizeSelectedState.inferiorStates.lookup j =
      if j = k then some (rt.inferiorState k) else rt.inferiorStates.lookup j := by
  simp only [synchronizeSelectedState, hcurrent]
  split
  · rename_i heq
    rw [heq]
    exact AList.lookup_insert _
  · rename_i hne
    exact AList.lookup_insert_ne hne

theorem selectedState_synchronizeSelectedState (rt : SessionRuntime) {k : Int}
    (hcurrent : rt.currentInferiorId = some k) : rt.synchronizeSelectedState.selectedState = rt.inferiorState k := by
  simp only [synchronizeSelectedState, hcurrent]
  rfl

theorem markInferiorSelected_sameEffects (k : Int) :
    (rt.markInferiorSelected (some k)).SameEffects rt ↔ rt.SelectionHolds k := by
  unfold markInferiorSelected
  extract_lets rt₀
  rw [Option.elim_some]
  have hsettings : (rt₀.ensureInferior k).synchronizeSelectedState.settings = rt₀.settings := by
    rw [settings_synchronizeSelectedState, settings_ensureInferior]
  have hcurrent : (rt₀.ensureInferior k).currentInferiorId = some k :=
    congrArg (fun settings => settings.2.2.1) (settings_ensureInferior rt₀ k)
  have hstate : (rt₀.ensureInferior k).inferiorState k = rt.inferiorState k := inferiorState_ensureInferior rt₀ k
  have hselected := selectedState_synchronizeSelectedState _ hcurrent
  have hlookup := lookup_synchronizeSelectedState _ hcurrent
  rw [hstate] at hselected
  constructor
  · intro h
    refine ⟨?_, ?_⟩
    · rw [← h.currentInferiorId]
      exact congrArg (fun settings => settings.2.2.1) hsettings
    · rw [← h.states, hlookup, if_pos rfl, hstate, ← hselected, h.selected]
  · intro h
    have hshown : rt.inferiorState k = rt.selectedState := by
      rw [inferiorState, h.shown]
      rfl
    have hkept : rt₀.settings = rt.settings := by
      rw [settings, settings, h.current]
    refine .of_settings ⟨fun j => ?_, hselected.trans hshown⟩ (hsettings.trans hkept)
    rw [hlookup]
    split
    · rename_i heq
      rw [heq, hstate, hshown, h.shown]
    · rename_i hne
      exact lookup_ensureInferior_ne rt₀ hne

theorem clearAttachedPid_sameEffects : rt.clearAttachedPid.SameEffects rt ↔ rt.attachedPid = none :=
  ⟨fun h => h.attachedPid.symm, fun h => ⟨⟨fun _ => rfl, rfl⟩, rfl, h.symm, rfl, rfl, rfl⟩⟩

theorem markFollowForkMode_sameEffects (mode : Option FollowForkMode) :
    (rt.markFollowForkMode mode).SameEffects rt ↔ rt.followForkMode = mode :=
  ⟨fun h => h.followForkMode.symm, fun h => ⟨⟨fun _ => rfl, rfl⟩, rfl, rfl, rfl, h.symm, rfl⟩⟩

theorem markDetachOnFork_sameEffects (enabled : Option Bool) :
    (rt.markDetachOnFork enabled).SameEffects rt ↔ rt.detachOnFork = enabled :=
  ⟨fun h => h.detachOnFork.symm, fun h => ⟨⟨fun _ => rfl, rfl⟩, rfl, rfl, rfl, rfl, h.symm⟩⟩

/-- An accepted command leaves all as it was just when the runtime held already what its text asks for. -/
theorem applyCommandText_sameEffects {command : String} {parsed : ParsedMiResponse}
    (haccepted : parsed.isErrorResult = false) (hrun : (applyCommandText command parsed).run rt = (.ok (), rt')) :
    rt'.SameEffects rt ↔ rt.Holds command := by
  unfold applyCommandText at hrun
  unfold Holds
  extract_lets normalized accepted at hrun
  have haccepted : accepted = true := by simp [accepted, haccepted]
  simp only [haccepted, Bool.and_true] at hrun
  extract_lets
  split at hrun
  · rename_i h
    obtain ⟨-, rfl⟩ := Prod.mk.inj hrun
    rw [if_pos h]
    exact applyLoad_sameEffects normalized
  rename_i hload
  rw [if_neg hload]
  split at hrun
  · rename_i h
    rw [if_pos h]
    obtain ⟨_, t, hloaded, hrun⟩ := ok_of_run_bind hrun
    obtain ⟨-, rfl⟩ := Prod.mk.inj hloaded
    obtain ⟨pid, u, hparse, hattach⟩ := ok_of_run_bind hrun
    obtain ⟨hpid, rfl⟩ := Prod.mk.inj hparse
    obtain ⟨-, rfl⟩ := Prod.mk.inj hattach
    have hiff := @applyAttach_sameEffects rt pid
    constructor
    · intro hsame pid' hpid'
      obtain rfl : pid = pid' := Except.ok.inj (hpid.symm.trans hpid')
      exact hiff.mp hsame
    · intro hholds
      exact hiff.mpr (hholds pid hpid)
  rename_i hattach
  rw [if_neg hattach]
  split at hrun
  · rename_i h
    rw [if_pos h]
    obtain ⟨-, rfl⟩ := Prod.mk.inj hrun
    exact clearAttachedPid_sameEffects
  rename_i hdetach
  rw [if_neg hdetach]
  split at hrun
  · rename_i h
    rw [if_pos h]
    obtain ⟨id, t, hparse, hselect⟩ := ok_of_run_bind hrun
    obtain ⟨hid, rfl⟩ := Prod.mk.inj hparse
    obtain ⟨-, rfl⟩ := Prod.mk.inj hselect
    cases id with
    | none => exact ⟨fun _ k hk => (nomatch hid.symm.trans hk), fun _ => .refl rt⟩
    | some k =>
        have hiff := @markInferiorSelected_sameEffects rt k
        constructor
        · intro hsame k' hk'
          obtain rfl : k = k' := Option.some.inj (Except.ok.inj (hid.symm.trans hk'))
          exact hiff.mp hsame
        · intro hholds
          exact hiff.mpr (hholds k hid)
  rename_i hinferior
  rw [if_neg hinferior]
  split at hrun
  · rename_i h
    rw [if_pos h]
    obtain ⟨-, rfl⟩ := Prod.mk.inj hrun
    exact markFollowForkMode_sameEffects _
  rename_i hfollow
  rw [if_neg hfollow]
  split at hrun
  · rename_i h
    rw [if_pos h]
    obtain ⟨-, rfl⟩ := Prod.mk.inj hrun
    exact markDetachOnFork_sameEffects _
  rename_i hother
  rw [if_neg hother]
  obtain ⟨-, rfl⟩ := Prod.mk.inj hrun
  exact ⟨fun _ => trivial, fun _ => .refl rt⟩

/-! ### The client has no part in it -/

theorem sameEffects_withTransport (rt rt' : SessionRuntime) (client : MiClient) :
    rt'.SameEffects (rt.withTransport client) ↔ rt'.SameEffects rt :=
  ⟨fun h => .of_settings ⟨h.states, h.selected⟩ (by
      simp only [settings, Prod.mk.injEq]
      exact ⟨h.targetLoaded, h.attachedPid, h.currentInferiorId, h.followForkMode, h.detachOnFork⟩),
    fun h => .of_settings ⟨h.states, h.selected⟩ (by
      simp only [settings, Prod.mk.injEq]
      exact ⟨h.targetLoaded, h.attachedPid, h.currentInferiorId, h.followForkMode, h.detachOnFork⟩)⟩

theorem holds_withTransport (rt : SessionRuntime) (client : MiClient) (command : String) :
    (rt.withTransport client).Holds command ↔ rt.Holds command := by
  have hload : (rt.withTransport client).LoadHolds ↔ rt.LoadHolds :=
    ⟨fun h => ⟨h.loaded, h.unattached, h.known⟩, fun h => ⟨h.loaded, h.unattached, h.known⟩⟩
  have hattach : ∀ pid, (rt.withTransport client).AttachHolds pid ↔ rt.AttachHolds pid := fun _ =>
    ⟨fun h => ⟨h.loaded, h.attached, h.paused, h.reason⟩, fun h => ⟨h.loaded, h.attached, h.paused, h.reason⟩⟩
  have hselect : ∀ k, (rt.withTransport client).SelectionHolds k ↔ rt.SelectionHolds k := fun _ =>
    ⟨fun h => ⟨h.current, h.shown⟩, fun h => ⟨h.current, h.shown⟩⟩
  unfold Holds
  simp only [hload, hattach, hselect]
  rfl

end SessionRuntime

/-! ### Commands that fail -/

namespace MiTransportResponse

/-- The debugger has refused the command, or it has said nothing in time. -/
inductive Fails (response : MiTransportResponse) : Prop
  | refused (hintime : response.timedOut = false) (herror : (parseResponse response).isErrorResult = true)
  | silent (htimedOut : response.timedOut = true)
      (hsilent : ∀ r ∈ response.commandResponses ++ response.asyncNotifications, r.type ≠ .result ∧ r.type ≠ .notify)

end MiTransportResponse

section Refusal

variable {W : Type} [Gdb W] {s s' s₁ : Session W} {command : String} {timeoutSec : Nat}
  {response : MiTransportResponse}

theorem notification_of_silent {records : List MiRecord} (h : ∀ r ∈ records, r.type ≠ .result ∧ r.type ≠ .notify) :
    (parseMiResponses records).notify = [] := by
  rw [notify_parseMiResponses, List.filterMap_eq_nil_iff]
  intro r hr
  rw [MiRecord.notification, if_neg (h r hr).2]

theorem resultClass_of_silent {records : List MiRecord} (h : ∀ r ∈ records, r.type ≠ .result ∧ r.type ≠ .notify) :
    (parseMiResponses records).resultClass = none := by
  have hnone : records.filter (·.type == .result) = [] := by
    rw [List.filter_eq_nil_iff]
    intro r hr
    simpa using (h r hr).1
  rw [(result_parseMiResponses records).1, hnone]
  rfl

/-- Without notifications and without `^running` only the text of the command has an effect. -/
theorem update_silent {parsed : ParsedMiResponse} (hnotify : parsed.notify = [])
    (hclass : parsed.resultClass ≠ some "running") (s : Session W) :
    (updateRuntimeAfterCommand command parsed).run s = (onRuntime (applyCommandText command parsed)).run s := by
  have hscan : (onRuntime (scanNotifies {} parsed.notify) : SessionM W StopScan).run s = (.ok {}, s) := by
    rw [hnotify]
    rfl
  have happly : (applyScan command parsed.resultClass {} : SessionM W Unit).run s = (.ok (), s) := by
    simp only [applyScan, if_neg hclass]
    rfl
  rw [updateRuntimeAfterCommand, run_bind_ok hscan, run_bind_ok happly]

theorem sameEffects_recordCommandTranscript {rt rt' : SessionRuntime} {entry : CommandTranscriptEntry}
    (heq : rt' = rt.recordCommandTranscript entry) (rt₀ : SessionRuntime) :
    rt'.SameEffects rt₀ ↔ rt.SameEffects rt₀ := by
  rw [heq]
  exact ⟨fun h => ⟨⟨h.states, h.selected⟩, h.targetLoaded, h.attachedPid, h.currentInferiorId, h.followForkMode,
      h.detachOnFork⟩,
    fun h => ⟨⟨h.states, h.selected⟩, h.targetLoaded, h.attachedPid, h.currentInferiorId, h.followForkMode,
      h.detachOnFork⟩⟩

/-- A command that fails changes nothing just when the debugger has refused it, or when the runtime held already
what its text asks for. -/
theorem failed_command_effects_iff {allow : Bool} {message code : String} {details : List (String × Value)}
    (hrun : (executeCommandResult command timeoutSec allow).run s = (.ok (.error message false details code), s'))
    (hheard : (commandHeard command timeoutSec).run s = (.ok response, s₁)) (hnone : response.error = none)
    (hfails : response.Fails) :
    s'.runtime.SameEffects s.runtime ↔ response.timedOut = false ∨ s.runtime.Holds command := by
  have hsettle := executeCommandResult_heard hrun hheard hnone
  obtain ⟨client, hclient⟩ := commandHeard_runtime hheard hnone
  rw [← SessionRuntime.sameEffects_withTransport s.runtime _ client, ← hclient]
  simp only [settleCommand, hnone] at hsettle
  cases hfails with
  | refused hintime herror =>
      simp only [hintime, Bool.false_eq_true, if_false, settleAnswer, herror, if_true] at hsettle
      obtain ⟨_, t, hrecord, hpure⟩ := ok_of_run_bind hsettle
      obtain ⟨-, rfl⟩ := Prod.mk.inj hpure
      obtain ⟨entry, hentry⟩ := runtime_recordTranscript hrecord
      rw [sameEffects_recordCommandTranscript hentry]
      exact ⟨fun _ => .inl hintime, fun _ => .refl _⟩
  | silent htimedOut hsilent =>
      rw [List.forall_mem_append] at hsilent
      have hnotify : (parseResponse response).notify = [] := by
        rw [parseResponse]
        simp [notification_of_silent hsilent.1, notification_of_silent hsilent.2]
      have hclass : (parseResponse response).resultClass = none := resultClass_of_silent hsilent.1
      have haccepted : (parseResponse response).isErrorResult = false := by simp [ParsedMiResponse.isErrorResult, hclass]
      simp only [htimedOut, if_true, settleTimeout] at hsettle
      obtain ⟨_, s₂, hupdate, hrest⟩ := ok_of_run_bind hsettle
      rw [update_silent hnotify (by simp [hclass])] at hupdate
      have hiff := SessionRuntime.applyCommandText_sameEffects haccepted (ok_of_onRuntime hupdate)
      rw [hclient, SessionRuntime.holds_withTransport] at hiff
      obtain ⟨state, t, hread, hrest⟩ := ok_of_run_bind hrest
      obtain ⟨-, rfl⟩ := Prod.mk.inj hread
      have hrecorded : ∃ entry, s'.runtime = s₂.runtime.recordCommandTranscript entry := by
        split at hrest
        · obtain ⟨_, t, hrecord, hpure⟩ := ok_of_run_bind hrest
          obtain ⟨-, rfl⟩ := Prod.mk.inj hpure
          exact runtime_recordTranscript hrecord
        · obtain ⟨_, t, hrecord, hpure⟩ := ok_of_run_bind hrest
          obtain ⟨-, rfl⟩ := Prod.mk.inj hpure
          exact runtime_recordTranscript hrecord
      obtain ⟨entry, hentry⟩ := hrecorded
      rw [sameEffects_recordCommandTranscript hentry, hclient, hiff, htimedOut]
      simp

end Refusal
/-- A ready session whose debugger says nothing. -/
def silentSession : Session Scripted where
  runtime := ({ transport := { controller := some {} } } : SessionRuntime).markReady
  gdb := ({} : Script).play

/-- A ready session whose debugger refuses every command. -/
def refusingSession : Session Scripted where
  runtime := ({ transport := { controller := some {} } } : SessionRuntime).markReady
  gdb :=
    Script.play
      { rounds := fun _ => { own := .answering fun token => [resultRecord "error" token] } }

theorem failed_command_effects_iff_refused :
    (Eff.run (executeCommandResult "inferior 2" 1) refusingSession).2.runtime.SameEffects refusingSession.runtime := by
  have hiff := @failed_command_effects_iff Scripted _ refusingSession _ _ "inferior 2" 1 _ false _ _ _ rfl rfl rfl
    (.refused rfl (by decide +kernel))
  exact hiff.mpr (.inl rfl)

/-- A command that nobody has answered is taken for a loaded file. -/
theorem timeout_loads_target :
    ∃ message details code s' response s₁,
      (executeCommandResult "file a" 1).run silentSession = (.ok (.error message false details code), s') ∧
      (commandHeard "file a" 1).run silentSession = (.ok response, s₁) ∧ response.error = none ∧
      response.timedOut = true ∧ response.commandResponses = [] ∧ response.asyncNotifications = [] ∧
      silentSession.runtime.targetLoaded = false ∧ s'.runtime.targetLoaded = true :=
  ⟨_, _, _, _, _, _, rfl, rfl, rfl, rfl, rfl, rfl, rfl, rfl⟩

end GdbMcp
