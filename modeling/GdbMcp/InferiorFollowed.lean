import GdbMcp.RuntimeRoster
import GdbMcp.SessionCommand
import GdbMcp.SessionUpdate

/-! The inferiors behind a command. The events of a command come from its notifications, from the answer to a refresh,
from the stop and from the command's text; a removal holds as long as nothing behind it brings the inferior back. -/

namespace GdbMcp

open Eff Session

/-! ### The events of a command -/

/-- The inferior that a notification names. -/
def MiNotifyRecord.group (notify : MiNotifyRecord) : Option Int :=
  (parseInferiorIdFromThreadGroup (notify.payload.asDict.get "id")).toOption.join

theorem group_eq {notify : MiNotifyRecord} {id : Option Int}
    (h : parseInferiorIdFromThreadGroup (notify.payload.asDict.get "id") = .ok id) : notify.group = id := by
  rw [MiNotifyRecord.group, h]
  rfl

/-- What a notification says of the inferiors. -/
def rosterEvent (notify : MiNotifyRecord) : Option RosterEvent :=
  match notify.message with
  | some "thread-group-added" => notify.group.map .added
  | some "thread-group-started" => notify.group.map fun k => .marked (some k)
  | some "thread-group-exited" => some (.marked notify.group)
  | some "thread-group-removed" => notify.group.map .removed
  | _ => none

def groupEvents (notifies : List MiNotifyRecord) : List RosterEvent := notifies.filterMap rosterEvent

theorem groupEvents_cons (notify : MiNotifyRecord) (rest : List MiNotifyRecord) :
    groupEvents (notify :: rest) = (rosterEvent notify).toList ++ groupEvents rest := by
  rw [groupEvents, List.filterMap_cons]
  cases rosterEvent notify <;> rfl

/-- What the text of an accepted command makes of the inferiors. A loaded or an attached program is one of the current
inferior. -/
def textEvents (command : String) (parsed : ParsedMiResponse) : List RosterEvent :=
  let normalized := normalizeCommand command
  let accepted := !parsed.isErrorResult
  if loadsTarget normalized then [.marked none]
  else if PyStr.startswith normalized "attach " && accepted then [.marked none]
  else if normalized == "detach" && accepted then []
  else if PyStr.startswith normalized "inferior " && accepted then
    ((parseInferiorId normalized).toOption.join.map RosterEvent.selected).toList
  else []

/-- The scan of some notifications has followed their events, and remembers whether inferiors were added or removed. -/
abbrev FollowsGroups (r : Roster) (scan scan' : StopScan) (events : List RosterEvent) (rt' : SessionRuntime) : Prop :=
  rt'.Tracks (r.after events) ∧
    scan'.sawInferiorTopologyChange = (scan.sawInferiorTopologyChange || events.any RosterEvent.isTopology)

section Scan

variable {rt : SessionRuntime} {r : Roster}

theorem scanNotify_tracks (scan : StopScan) (notify : MiNotifyRecord) (h : rt.Tracks r) :
    wp (scanNotify scan notify) (fun scan' rt' => FollowsGroups r scan scan' (rosterEvent notify).toList rt')
      (fun _ _ => True) rt := by
  have hquiet : ∀ {scan' : StopScan}, rosterEvent notify = none →
      scan'.sawInferiorTopologyChange = scan.sawInferiorTopologyChange →
      FollowsGroups r scan scan' (rosterEvent notify).toList rt := by
    intro scan' hevent hsaw
    rw [hevent]
    exact ⟨h, hsaw.trans (Bool.or_false _).symm⟩
  unfold scanNotify
  extract_lets fields
  split <;> rename_i hmessage
  · rw [wp_bind, wp_ofExcept]
    refine ⟨fun id hid => ?_, fun _ _ => trivial⟩
    have hgroup : notify.group = id := group_eq hid
    have hevent : rosterEvent notify = id.map .added := by simp only [rosterEvent, hmessage, hgroup]
    cases id with
    | none => exact hquiet hevent rfl
    | some k =>
        rw [hevent]
        exact ⟨h.ensureInferior k, (Bool.or_true _).symm⟩
  · rw [wp_bind, wp_ofExcept]
    refine ⟨fun id hid => ?_, fun _ _ => trivial⟩
    have hgroup : notify.group = id := group_eq hid
    have hevent : rosterEvent notify = id.map fun k => .marked (some k) := by simp only [rosterEvent, hmessage, hgroup]
    cases id with
    | none => exact hquiet hevent rfl
    | some k =>
        rw [hevent]
        exact ⟨h.updateInferiorState (some k) _, (Bool.or_false _).symm⟩
  · rw [wp_bind, wp_ofExcept]
    refine ⟨fun id hid => ?_, fun _ _ => trivial⟩
    have hgroup : notify.group = id := group_eq hid
    have hevent : rosterEvent notify = some (.marked id) := by simp only [rosterEvent, hmessage, hgroup]
    rw [wp_bind, wp_ofExcept, hevent]
    exact ⟨fun code _ => ⟨h.updateInferiorState id _, (Bool.or_false _).symm⟩, fun _ _ => trivial⟩
  · rw [wp_bind, wp_ofExcept]
    refine ⟨fun id hid => ?_, fun _ _ => trivial⟩
    have hgroup : notify.group = id := group_eq hid
    have hevent : rosterEvent notify = id.map .removed := by simp only [rosterEvent, hmessage, hgroup]
    cases id with
    | none => exact hquiet hevent rfl
    | some k =>
        rw [hevent]
        exact ⟨h.removeInferior k, (Bool.or_true _).symm⟩
  · have hevent : rosterEvent notify = none := by simp [rosterEvent, hmessage]
    cases scan.stop with
    | some stop => exact hquiet hevent rfl
    | none =>
        rw [wp_bind, wp_ofExcept]
        exact ⟨fun stop _ => hquiet hevent rfl, fun _ _ => trivial⟩
  · rename_i hadded hstarted hexited hremoved
    have hevent : rosterEvent notify = none := by
      rw [rosterEvent]
      split
      · exact absurd ‹_› hadded
      · exact absurd ‹_› hstarted
      · exact absurd ‹_› hexited
      · exact absurd ‹_› hremoved
      · rfl
    exact hquiet hevent rfl

theorem scanNotifies_tracks (notifies : List MiNotifyRecord) (scan : StopScan) (h : rt.Tracks r) :
    wp (scanNotifies scan notifies) (fun scan' rt' => FollowsGroups r scan scan' (groupEvents notifies) rt')
      (fun _ _ => True) rt := by
  induction notifies generalizing scan rt r with
  | nil => exact ⟨h, (Bool.or_false _).symm⟩
  | cons notify rest ih =>
      rw [scanNotifies, wp_bind]
      refine wp_mono (scanNotify_tracks scan notify h) (fun scan₁ rt₁ h₁ => ?_) fun _ _ h => h
      refine wp_mono (ih scan₁ h₁.1) (fun scan₂ rt₂ h₂ => ?_) fun _ _ h => h
      rw [groupEvents_cons]
      refine ⟨by rw [Roster.after_append]; exact h₂.1, ?_⟩
      rw [h₂.2, h₁.2, List.any_append, Bool.or_assoc]

end Scan

namespace SessionRuntime

theorem applyCommandText_tracks {rt rt₁ : SessionRuntime} {r : Roster} {command : String} {parsed : ParsedMiResponse}
    (hrun : (applyCommandText command parsed).run rt = (.ok (), rt₁)) (h : rt.Tracks r) :
    rt₁.Tracks (r.after (textEvents command parsed)) := by
  have hquiet : ∀ {rt' : SessionRuntime}, rt'.inventory = rt.inventory → rt'.selectedState = rt.selectedState →
      rt'.Tracks r := by
    intro rt' hinventory hselected
    refine h.of_inventory (h.mirror.of_eq ?_ ?_ hselected) hinventory
    · exact congrArg Prod.fst hinventory
    · exact congrArg (fun inventory => inventory.2.2) hinventory
  rw [applyCommandText] at hrun
  rw [textEvents]
  generalize normalizeCommand command = normalized at hrun ⊢
  generalize (!parsed.isErrorResult) = accepted at hrun ⊢
  by_cases hload : loadsTarget normalized = true
  · rw [if_pos hload] at hrun ⊢
    obtain ⟨-, rfl⟩ := Prod.mk.inj hrun
    exact h.applyLoad normalized
  rw [if_neg hload] at hrun ⊢
  by_cases hattach : (PyStr.startswith normalized "attach " && accepted) = true
  · rw [if_pos hattach] at hrun ⊢
    obtain ⟨_, t, hloaded, hrest⟩ := ok_of_run_bind hrun
    obtain ⟨-, rfl⟩ := Prod.mk.inj hloaded
    obtain ⟨pid, u, hpid, hmarked⟩ := ok_of_run_bind hrest
    obtain ⟨-, rfl⟩ := Prod.mk.inj hpid
    obtain ⟨-, rfl⟩ := Prod.mk.inj hmarked
    have hloaded : ({ rt with targetLoaded := true } : SessionRuntime).Tracks r := hquiet rfl rfl
    exact hloaded.applyAttach pid
  rw [if_neg hattach] at hrun ⊢
  by_cases hdetach : (normalized == "detach" && accepted) = true
  · rw [if_pos hdetach] at hrun ⊢
    obtain ⟨-, rfl⟩ := Prod.mk.inj hrun
    exact hquiet rfl rfl
  rw [if_neg hdetach] at hrun ⊢
  by_cases hinferior : (PyStr.startswith normalized "inferior " && accepted) = true
  · rw [if_pos hinferior] at hrun ⊢
    obtain ⟨id, t, hid, hselected⟩ := ok_of_run_bind hrun
    obtain ⟨hparsed, rfl⟩ := Prod.mk.inj hid
    obtain ⟨-, rfl⟩ := Prod.mk.inj hselected
    rw [hparsed]
    cases id with
    | none => exact h
    | some k => exact h.markInferiorSelected k
  rw [if_neg hinferior] at hrun ⊢
  split at hrun
  · obtain ⟨-, rfl⟩ := Prod.mk.inj hrun
    exact hquiet rfl rfl
  split at hrun
  · obtain ⟨-, rfl⟩ := Prod.mk.inj hrun
    exact hquiet rfl rfl
  · obtain ⟨-, rfl⟩ := Prod.mk.inj hrun
    exact h

end SessionRuntime

namespace Session

variable {W : Type} [Gdb W] {s s' : Session W} {r : Roster} {command : String} {parsed : ParsedMiResponse}

/-- What the answer to `info inferiors` makes of the inferiors: the listing, where GDB prints one that can be read. -/
def responseEvents (response : MiTransportResponse) : List RosterEvent :=
  let parsed := parseMiResponses response.commandResponses
  if response.fatal then [.lost]
  else if response.error.isSome || response.timedOut || parsed.isErrorResult then []
  else
    match parseInferiorsOutput (streamText parsed.console) none with
    | .ok payload => [.listed (inferiorIds payload) payload.marked]
    | .error _ => []

/-- What GDB answers when it is asked for its inferiors. -/
def inventoryEvents (s : Session W) : List RosterEvent :=
  if s.runtime.hasController then
    match (MiClient.sendCommandAndWaitForPrompt (wrapCliCommand "info inferiors") defaultTimeoutSec).run s.channel with
    | (.ok response, _) => responseEvents response
    | (.error _, _) => []
  else []

theorem inventoryEvents_of_channel (h : s'.channel = s.channel) : s'.inventoryEvents = s.inventoryEvents := by
  have htransport : s'.runtime.transport = s.runtime.transport := congrArg Channel.client h
  rw [inventoryEvents, inventoryEvents, h, SessionRuntime.hasController, SessionRuntime.hasController, htransport]

omit [Gdb W] in
theorem terminated_of_transportCall {m : ChannelM W MiTransportResponse} {response : MiTransportResponse}
    (hrun : (transportCall m).run s = (.ok response, s')) (hfatal : response.fatal = true) :
    ∃ (rt : SessionRuntime) (message : String), s'.runtime = rt.markTransportTerminated message := by
  obtain ⟨result, t, -, hrest⟩ := ok_of_run_bind hrun
  split at hrest <;> rename_i hresult
  · obtain ⟨-, rfl⟩ := Prod.mk.inj hrest
    exact ⟨_, _, rfl⟩
  · obtain ⟨hresponse, -⟩ := Prod.mk.inj hrest
    rw [Except.ok.inj hresponse] at hresult
    exact absurd hfatal hresult

omit [Gdb W] in
theorem applyInventory_tracks {response : MiTransportResponse} (hcalm : response.fatal = false)
    (hrun : (applyInventory response).run s = (.ok (), s')) (h : s.runtime.Tracks r) :
    s'.runtime.Tracks (r.after (responseEvents response)) := by
  rw [applyInventory] at hrun
  rw [responseEvents, hcalm]
  generalize parseMiResponses response.commandResponses = answered at hrun ⊢
  split at hrun <;> rename_i hanswered
  · obtain ⟨-, rfl⟩ := Prod.mk.inj hrun
    simp only [Bool.false_eq_true, if_false, if_pos hanswered]
    exact h
  · obtain ⟨current, s₁, hread, hrest⟩ := ok_of_run_bind hrun
    obtain ⟨hvalue, rfl⟩ := Prod.mk.inj hread
    obtain rfl := Except.ok.inj hvalue
    obtain ⟨payload, t, hparse, hupdate⟩ := ok_of_run_bind hrest
    obtain ⟨hpayload, rfl⟩ := Prod.mk.inj hparse
    obtain ⟨-, rfl⟩ := Prod.mk.inj hupdate
    obtain ⟨hcurrent, hanyway⟩ := parseInferiorsOutput_ok hpayload
    simp only [Bool.false_eq_true, if_false, if_neg hanswered, hanyway]
    have hlisted := SessionRuntime.tracks_updateInferiorInventory h.current payload.marked payload.count (inferiorIds payload)
    rw [← hcurrent] at hlisted
    exact hlisted

theorem refresh_tracks (hrun : refreshInferiorInventoryFromGdb.run s = (.ok (), s')) (h : s.runtime.Tracks r) :
    s'.runtime.Tracks (r.after s.inventoryEvents) := by
  have hcontroller : hasController.run s = (.ok s.runtime.hasController, s) := rfl
  rw [refreshInferiorInventoryFromGdb, run_bind_ok hcontroller] at hrun
  rw [inventoryEvents]
  split at hrun <;> rename_i hcontrolled
  · rw [if_pos hcontrolled]
    obtain ⟨response, s₁, hsend, happly⟩ := ok_of_run_bind hrun
    obtain ⟨c, hcall, hreceived, hcalm⟩ := ok_of_transportCall hsend
    rw [hcall]
    cases hfatal : response.fatal with
    | false =>
        have hclient : s₁.runtime.Tracks r := by
          rw [hcalm hfatal]
          exact h.of_inventory (h.mirror.of_eq rfl rfl rfl) rfl
        exact applyInventory_tracks hfatal happly hclient
    | true =>
        have herror : response.error.isSome = true := by
          rw [Option.isSome_iff_ne_none]
          intro hnone
          exact nomatch hfatal.symm.trans (fatalIsError_send _ _ _ _ _ hcall hnone)
        rw [applyInventory, herror, Bool.true_or, Bool.true_or, if_pos rfl] at happly
        obtain ⟨-, rfl⟩ := Prod.mk.inj happly
        obtain ⟨rt, message, hreset⟩ := terminated_of_transportCall hsend hfatal
        have hlost : responseEvents response = [.lost] := by
          rw [responseEvents, hfatal]
          rfl
        change s₁.runtime.Tracks (r.after (responseEvents response))
        rw [hlost, hreset]
        exact SessionRuntime.tracks_reset _
  · rw [if_neg hcontrolled]
    obtain ⟨-, rfl⟩ := Prod.mk.inj hrun
    exact h

/-- The refresh of an update whose notifications hold a stop and an inferior that is added or removed. -/
def refreshEvents (s : Session W) (notifies : List MiNotifyRecord) : List RosterEvent :=
  if (heardStop notifies).isSome && (groupEvents notifies).any RosterEvent.isTopology then s.inventoryEvents else []

/-- The stop of an update, or its `^running` result, which is one of the current inferior. -/
def settledEvents (parsed : ParsedMiResponse) : List RosterEvent :=
  match heardStop parsed.notify with
  | some (.ok stop) => [.marked stop.inferiorId]
  | some (.error _) => []
  | none => if parsed.resultClass = some "running" then [.marked none] else []

/-- What comes behind the thread groups in the update of a command. -/
def eventsBehind (s : Session W) (command : String) (parsed : ParsedMiResponse) : List RosterEvent :=
  s.refreshEvents parsed.notify ++ settledEvents parsed ++ textEvents command parsed

theorem reachStop_tracks {notifies : List MiNotifyRecord} (hrun : (reachStop notifies).run s = (.ok (), s'))
    (h : s.runtime.Tracks r) : s'.runtime.Tracks (r.after (groupEvents notifies ++ s.refreshEvents notifies)) := by
  rw [reachStop] at hrun
  obtain ⟨scan, s₁, hscan, hrefresh⟩ := ok_of_run_bind hrun
  have hruntime := ok_of_onRuntime hscan
  obtain ⟨htracks, hsaw⟩ := wp_ok (scanNotifies_tracks notifies {} h) hruntime
  have hheard : Hears {} scan notifies := wp_ok (scanNotifies_hears notifies {} s.runtime) hruntime
  have hstop : (heardStop notifies).isSome = scan.stop.isSome := by
    have hread : scan.stop.map Except.ok = heardStop notifies := hheard
    rw [← hread, Option.isSome_map]
  have hchannel : s₁.channel = s.channel := by
    have hlife : s₁.runtime.life = s.runtime.life := by
      have hkept := (quiet_scanNotifies {} notifies).keepsLife.run s.runtime
      rwa [hruntime] at hkept
    have htransport : s₁.runtime.transport = s.runtime.transport := congrArg (fun life => life.2.2) hlife
    rw [channel, channel, htransport, gdb_of_onRuntime hscan]
  rw [refreshEvents, hstop, ← Bool.false_or ((groupEvents notifies).any RosterEvent.isTopology), ← hsaw, Roster.after_append]
  split at hrefresh <;> rename_i hneeded
  · rw [if_pos hneeded, ← inventoryEvents_of_channel hchannel]
    exact refresh_tracks hrefresh htracks
  · rw [if_neg hneeded]
    obtain ⟨-, rfl⟩ := Prod.mk.inj hrefresh
    exact htracks

theorem settles_tracks {rt rt' : SessionRuntime} (hsettles : Settles command parsed rt rt') (h : rt.Tracks r) :
    rt'.Tracks (r.after (settledEvents parsed)) := by
  rw [settledEvents]
  cases hsettles with
  | stop now hheard hruntime =>
      rw [hheard, hruntime]
      exact h.applyStop _ _ _
  | running hheard hclass hruntime =>
      rw [hheard, hruntime]
      simp only [if_pos hclass]
      exact h.mark_current _
  | quiet hheard hclass hruntime =>
      rw [hheard, hruntime]
      simp only [if_neg hclass]
      exact h

/-- The table of the runtime follows the events of a command. -/
theorem update_tracks (hrun : (updateRuntimeAfterCommand command parsed).run s = (.ok (), s')) (h : s.runtime.Tracks r) :
    s'.runtime.Tracks (r.after (groupEvents parsed.notify ++ s.eventsBehind command parsed)) := by
  obtain ⟨u, htaken, htext⟩ := run_update hrun
  obtain ⟨t, hreached, hsettles⟩ := notifications_settle htaken
  have hsettled := settles_tracks hsettles (reachStop_tracks hreached h)
  have hend := SessionRuntime.applyCommandText_tracks (ok_of_onRuntime htext) hsettled
  rw [eventsBehind]
  simp only [Roster.after_append] at hend ⊢
  exact hend

/-- Behind a removal of an inferior by a notification, in particular behind its last one, the inferior stays away if and
only if no later event of the command brings it back to stay. -/
theorem removed_stays_iff (hmirror : s.runtime.Mirror)
    (hrun : (updateRuntimeAfterCommand command parsed).run s = (.ok (), s')) {x : Int} {before behind : List RosterEvent}
    (hremoved : groupEvents parsed.notify = before ++ .removed x :: behind) :
    x ∉ s'.runtime.inferiorStates ↔
      ¬Roster.ComesBack x ((s.runtime.roster hmirror).after (before ++ [.removed x]))
        (behind ++ s.eventsBehind command parsed) := by
  have htracks := update_tracks hrun (SessionRuntime.tracks_roster hmirror)
  rw [htracks.ids, hremoved, List.append_assoc, List.cons_append, Roster.mem_after_removed_iff]

end Session

open SessionRuntime

/-- The tracked inferiors follow the listing of a refresh if and only if no current inferior is remembered that the
listing neither has nor overrules; and a removal by a notification stands at the end of its command if and only if
nothing behind it brings the inferior back to stay. -/
theorem inferiors_follow_iff {W : Type} [Gdb W] {rt : SessionRuntime} {output : String} {payload : InferiorListInfo}
    (hparsed : parseInferiorsOutput output rt.currentInferiorId = .ok payload) (hrows : payload.inferiors ≠ [])
    {s s' : Session W} {command : String} {parsed : ParsedMiResponse} (hmirror : s.runtime.Mirror)
    (hrun : (updateRuntimeAfterCommand command parsed).run s = (.ok (), s')) {x : Int} {before behind : List RosterEvent}
    (hremoved : groupEvents parsed.notify = before ++ .removed x :: behind) :
    (rt.FollowsListing payload (rt.takeListing payload) ↔ rt.KnowsCurrent payload) ∧
      (x ∉ s'.runtime.inferiorStates ↔
        ¬Roster.ComesBack x ((s.runtime.roster hmirror).after (before ++ [.removed x]))
          (behind ++ s.eventsBehind command parsed)) :=
  ⟨takeListing_follows_iff hparsed hrows, removed_stays_iff hmirror hrun hremoved⟩

/-- A session with inferiors 1 and 2, whose debugger lists the first when it is asked. -/
def withTwoInferiors : Session Scripted where
  runtime := ({ transport := { controller := some {} } } : SessionRuntime).markReady.ensureInferior 2
  gdb :=
    { Script.play {} with
      queue := [.answering fun token =>
        [{ type := .console, payload := .str "* 1 process 42\n" }, resultRecord "done" token]] }

theorem mirror_withTwoInferiors : withTwoInferiors.runtime.Mirror := by
  have hfresh : ({ transport := { controller := some {} } } : SessionRuntime).Fresh := ⟨_, _, _, rfl⟩
  exact (hfresh.mirror.apply .markReady).ensureInferior 2

/-- Inferior 2 is removed, and a stop of the inferior with this name is read. -/
def removedAndStopped (group : String) : ParsedMiResponse where
  notify :=
    [{ message := some "thread-group-removed", payload := .dict [("id", .str "i2")] },
      { message := some "stopped", payload := .dict [("reason", .str "signal-received"), ("thread-group", .str group)] }]

/-- The listing that this debugger prints. -/
def oneInferior : InferiorListInfo where
  inferiors := [{ inferiorId := 1, isCurrent := true, display := "process 42", description := some "process 42" }]
  count := 1
  currentInferiorId := some 1

theorem inferiors_follow_iff_removed :
    withTwoInferiors.runtime.FollowsListing oneInferior (withTwoInferiors.runtime.takeListing oneInferior) ∧
      2 ∉ ((updateRuntimeAfterCommand "remove-inferiors 2" (removedAndStopped "i1")).run
        withTwoInferiors).2.runtime.inferiorStates := by
  have hparsed : parseInferiorsOutput "* 1 process 42\n" withTwoInferiors.runtime.currentInferiorId = .ok oneInferior := by
    decide +kernel
  have hremoved : groupEvents (removedAndStopped "i1").notify = [] ++ .removed 2 :: [] := by decide +kernel
  have hiff := inferiors_follow_iff hparsed (by simp [oneInferior]) mirror_withTwoInferiors
    (by rfl : (updateRuntimeAfterCommand "remove-inferiors 2" (removedAndStopped "i1")).run withTwoInferiors = (.ok (), _))
    hremoved
  refine ⟨hiff.1.mpr fun hmarked => absurd hmarked (by decide), hiff.2.mpr fun h => ?_⟩
  exact absurd ((Roster.mem_after_removed_iff [] _).mpr h) (by decide +kernel)

/-- The debugger removes inferior 2 behind a stop of it, and then lists inferior 1 only. -/
def stoppedThenRemoved : List Step :=
  [{ operation := .start {}, script := .accepting },
    { operation := .executeCommand "remove-inferiors 2" 1
      script :=
        { rounds := fun _ =>
            { own := .answering fun token =>
                [stopOf "i2" "signal-received", notifyRecord "thread-group-removed" [("id", .str "i2")],
                  resultRecord "done" token]
              refresh := .answering fun token =>
                [{ type := .console, payload := .str "* 1 process 42\n" }, resultRecord "done" token] } } }]

/-- The removed inferior is known again; and a listing without a mark leaves an inferior in the table that it lacks. -/
theorem removed_inferior_known :
    (runSteps {} stoppedThenRemoved).inferiorStates.keys = [2, 1] ∧
      parseInferiorsOutput "  1 process 42\n" (some 3) = .ok
        { inferiors := [{ inferiorId := 1, isCurrent := false, display := "process 42", description := some "process 42" }]
          count := 1, currentInferiorId := some 3 } ∧
      (({} : SessionRuntime).markReady.markInferiorSelected (some 3) |>.updateInferiorInventory (some 3) 1
        (some [1])).inferiorStates.keys = [3, 1] := by
  refine ⟨?_, ?_, ?_⟩
  · decide +kernel
  · decide +kernel
  · decide +kernel

end GdbMcp
