import GdbMcp.InferiorRoster
import GdbMcp.RuntimeCount

/-! The table of inferiors follows the roster. A refresh takes over the listing, and also a remembered current inferior
that the listing lacks. -/

namespace GdbMcp

open Eff

namespace SessionRuntime

variable {rt rt' : SessionRuntime} {r : Roster}

/-- The roster has the keys of the table and the current inferior of the runtime. -/
structure Tracks (rt : SessionRuntime) (r : Roster) : Prop where
  mirror : rt.Mirror
  ids : ∀ k, k ∈ rt.inferiorStates ↔ k ∈ r.ids
  current : rt.currentInferiorId = r.current

def roster (rt : SessionRuntime) (h : rt.Mirror) : Roster where
  ids := rt.inferiorStates.keys.toFinset
  current := rt.currentInferiorId
  tracked _ hk := List.mem_toFinset.mpr (AList.mem_keys.mp (currentTracked h hk))

theorem tracks_roster (h : rt.Mirror) : rt.Tracks (rt.roster h) where
  mirror := h
  ids _ := AList.mem_keys.trans List.mem_toFinset.symm
  current := rfl

theorem Tracks.of_inventory (h : rt.Tracks r) (hmirror : rt'.Mirror) (hinventory : rt'.inventory = rt.inventory) :
    rt'.Tracks r := by
  simp only [inventory, Prod.mk.injEq] at hinventory
  obtain ⟨hcurrent, -, hstates⟩ := hinventory
  exact ⟨hmirror, fun k => by rw [hstates, h.ids], hcurrent.trans h.current⟩

theorem tracks_reset (rt : SessionRuntime) : rt.resetTransient.Tracks .empty where
  mirror := mirror_resetTransient rt
  ids k := iff_of_false (AList.notMem_empty k) (Finset.notMem_empty k)
  current := rfl

theorem target_eq (h : rt.Tracks r) (k : Option Int) : rt.target k = r.target k := by
  rw [target, h.current, Roster.target]

theorem Tracks.updateInferiorState (h : rt.Tracks r) (k : Option Int) (state : InferiorRuntimeState) :
    (rt.updateInferiorState k state).Tracks (r.follow (.marked k)) where
  mirror := h.mirror.updateInferiorState k state
  ids j := by
    rw [inferiorStates_updateInferiorState, AList.mem_insert, target_eq h, h.ids]
    exact Finset.mem_insert.symm
  current := by
    rw [currentInferiorId_updateInferiorState, target_eq h, h.current]
    rfl

theorem Tracks.ensureInferior (h : rt.Tracks r) (k : Int) : (rt.ensureInferior k).Tracks (r.follow (.added k)) where
  mirror := h.mirror.ensureInferior k
  ids j := by
    rw [Roster.mem_follow_added, ← h.ids, SessionRuntime.ensureInferior]
    split
    · rename_i hk
      exact (or_iff_right fun hj => by omega).symm
    · rename_i hk
      rw [and_iff_right (by omega), eq_comm]
      exact AList.mem_insert _
  current := (currentInferiorId_ensureInferior rt k).trans h.current

/-- A synchronization gives the current inferior a record. -/
theorem tracks_synchronize (hids : ∀ k, rt.currentInferiorId = some k ∨ k ∈ rt.inferiorStates ↔ k ∈ r.ids)
    (hcurrent : rt.currentInferiorId = r.current) : rt.synchronizeSelectedState.Tracks r := by
  refine ⟨mirror_synchronizeSelectedState rt, fun k => ?_, ?_⟩
  · rw [← hids, synchronizeSelectedState]
    cases hselected : rt.currentInferiorId with
    | none => exact (or_iff_right nofun).symm
    | some j =>
        have hinsert : k ∈ rt.inferiorStates.insert j (rt.inferiorState j) ↔ k = j ∨ k ∈ rt.inferiorStates :=
          AList.mem_insert _
        rw [Option.some_inj, eq_comm]
        exact hinsert
  · rw [← hcurrent, synchronizeSelectedState]
    split <;> rename_i hselected <;> exact hselected.symm ▸ rfl

theorem Tracks.removeInferior (h : rt.Tracks r) (k : Int) : (rt.removeInferior k).Tracks (r.follow (.removed k)) := by
  unfold SessionRuntime.removeInferior
  by_cases hk : k ∈ rt.inferiorStates
  · rw [if_pos hk]
    extract_lets rt₁ rt₂
    have hids : ∀ j, j ∈ rt₂.inferiorStates ↔ j ∈ r.ids.erase k := by
      intro j
      rw [Finset.mem_erase, ← h.ids]
      exact AList.mem_erase
    split <;> rename_i hselected
    · have hnext : rt₂.lowestInferior = lowest (r.ids.erase k) :=
        (lowest_eq_of_mem fun j => AList.mem_keys.symm.trans (hids j)).symm
      refine tracks_synchronize (fun j => ?_) ?_
      · refine ⟨fun hj => hj.elim (fun hj => ?_) (hids j).mp, fun hj => .inr ((hids j).mpr hj)⟩
        exact mem_of_lowest (hnext.symm.trans hj)
      · have hcurrent : r.current = some k := h.current.symm.trans hselected
        exact hnext.trans (if_pos hcurrent).symm
    · have hother : r.current ≠ some k := fun heq => hselected (h.current.trans heq)
      refine tracks_synchronize (fun j => ?_) ?_
      · refine ⟨fun hj => hj.elim (fun hj => ?_) (hids j).mp, fun hj => .inr ((hids j).mpr hj)⟩
        exact (r.follow (.removed k)).tracked j ((if_neg hother).trans (h.current.symm.trans hj))
      · exact h.current.trans (if_neg hother).symm
  · rw [if_neg hk]
    have hgone : k ∉ r.ids := fun hmem => hk ((h.ids k).mpr hmem)
    have hother : r.current ≠ some k := fun heq => hgone (r.tracked k heq)
    refine ⟨h.mirror, fun j => ?_, h.current.trans (if_neg hother).symm⟩
    rw [h.ids]
    exact ⟨fun hj => Finset.mem_erase.mpr ⟨fun heq => hgone (heq ▸ hj), hj⟩, Finset.mem_of_mem_erase⟩

theorem tracks_ensure_synchronize {k : Int} (hids : ∀ j, j = k ∨ j ∈ rt.inferiorStates ↔ j ∈ r.ids)
    (hcurrent : rt.currentInferiorId = some k) (hr : r.current = some k) :
    (rt.ensureInferior k).synchronizeSelectedState.Tracks r := by
  have hensured : (rt.ensureInferior k).currentInferiorId = some k :=
    (currentInferiorId_ensureInferior rt k).trans hcurrent
  refine tracks_synchronize (fun j => ?_) (hensured.trans hr.symm)
  rw [hensured, Option.some_inj, ← hids, eq_comm, SessionRuntime.ensureInferior]
  split
  · rfl
  · have hinsert : j ∈ rt.inferiorStates.insert k (rt.inferiorState k) ↔ j = k ∨ j ∈ rt.inferiorStates :=
      AList.mem_insert _
    exact ⟨fun hj => hj.elim .inl hinsert.mp, fun hj => .inr (hinsert.mpr hj)⟩

theorem Tracks.markInferiorSelected (h : rt.Tracks r) (k : Int) :
    (rt.markInferiorSelected (some k)).Tracks (r.follow (.selected k)) := by
  refine tracks_ensure_synchronize (fun j => ?_) rfl rfl
  exact (or_congr_right (h.ids j)).trans Finset.mem_insert.symm

/-! ### Stops and loaded programs -/

/-- An update that falls back to the current inferior is one that names no inferior. -/
theorem updateInferiorState_orElse (rt : SessionRuntime) (k : Option Int) (state : InferiorRuntimeState) :
    rt.updateInferiorState (k <|> rt.currentInferiorId) state = rt.updateInferiorState k state := by
  have htarget : (k <|> rt.currentInferiorId).getD (rt.currentInferiorId.getD 1) = k.getD (rt.currentInferiorId.getD 1) := by
    cases k with
    | some k => rfl
    | none => cases rt.currentInferiorId <;> rfl
  unfold updateInferiorState
  rw [htarget]

theorem Tracks.mark_current (h : rt.Tracks r) (state : InferiorRuntimeState) :
    (rt.updateInferiorState rt.currentInferiorId state).Tracks (r.follow (.marked none)) := by
  have hsame := updateInferiorState_orElse rt none state
  rw [Option.orElse_eq_orElse, Option.orElse_eq_or, Option.none_or] at hsame
  rw [hsame]
  exact h.updateInferiorState none state

theorem Tracks.applyStop (h : rt.Tracks r) (command : String) (stop : StopFields) (now : Nat) :
    (rt.applyStop command stop now).Tracks (r.follow (.marked stop.inferiorId)) := by
  have hselected : (rt.selectStop stop).Tracks r :=
    h.of_inventory ((@updated_selectStop (fun _ => True) stop rt).mirror h.mirror) (inventory_selectStop rt stop)
  have hmarked := hselected.updateInferiorState stop.inferiorId (stopState stop)
  have hcurrent : (rt.selectStop stop).currentInferiorId = rt.currentInferiorId :=
    hselected.current.trans h.current.symm
  rw [← updateInferiorState_orElse, hcurrent] at hmarked
  rw [applyStop_eq]
  exact hmarked.of_inventory (hmarked.mirror.of_eq rfl rfl rfl) rfl

/-- A record for the current inferior, which a roster with a current inferior has already. -/
theorem Tracks.marked_none (h : rt.Tracks r) {k : Int} (hk : rt.currentInferiorId = some k) :
    rt.Tracks (r.follow (.marked none)) := by
  have hcurrent : r.current = some k := h.current.symm.trans hk
  refine ⟨h.mirror, fun j => ?_, ?_⟩
  · have hmem : k ∈ r.ids := r.tracked k hcurrent
    have hinsert : (r.follow (.marked none)).ids = insert (r.target none) r.ids := rfl
    have htarget : r.target none = k := by
      rw [Roster.target, hcurrent]
      rfl
    rw [hinsert, htarget, Finset.insert_eq_self.mpr hmem]
    exact h.ids j
  · have hnext : (r.follow (.marked none)).current = some (r.current.getD (r.target none)) := rfl
    rw [hnext, hcurrent]
    exact hk

theorem Tracks.applyLoad (h : rt.Tracks r) (normalized : String) :
    (GdbMcp.applyLoad normalized rt).Tracks (r.follow (.marked none)) := by
  unfold GdbMcp.applyLoad
  extract_lets rt₁
  have h₁ : rt₁.Tracks r := h.of_inventory (h.mirror.of_eq rfl rfl rfl) rfl
  split
  · split
    · exact h₁.mark_current _
    · exact h₁.mark_current _
  · rename_i hknown
    cases hcurrent : rt₁.currentInferiorId with
    | some k => exact h₁.marked_none hcurrent
    | none => exact absurd (congrArg InferiorRuntimeState.executionState (h₁.mirror.unselected hcurrent)) hknown

theorem Tracks.applyAttach (h : rt.Tracks r) (pid : Option Int) :
    (GdbMcp.applyAttach pid rt).Tracks (r.follow (.marked none)) := by
  unfold GdbMcp.applyAttach
  extract_lets rt₁
  have h₁ : rt₁.Tracks r := by
    cases pid with
    | none => exact h
    | some pid => exact h.of_inventory (h.mirror.of_eq rfl rfl rfl) rfl
  split
  · exact h₁.mark_current _
  · rename_i hpaused
    cases hcurrent : rt₁.currentInferiorId with
    | some k => exact h₁.marked_none hcurrent
    | none =>
        have hreason := congrArg InferiorRuntimeState.stopReason (h₁.mirror.unselected hcurrent)
        exact absurd (.inr hreason) hpaused

/-! ### Inventories -/

theorem lookup_foldl_insert {ids : List Int} {table : InferiorTable} {k : Int} :
    (ids.foldl (fun states j => states.insert j (rt.inferiorState j)) table).lookup k =
      if k ∈ ids then some (rt.inferiorState k) else table.lookup k := by
  induction ids generalizing table with
  | nil => rfl
  | cons j rest ih =>
      rw [List.foldl_cons, ih]
      by_cases hrest : k ∈ rest
      · rw [if_pos hrest, if_pos (List.mem_cons_of_mem j hrest)]
      · rw [if_neg hrest]
        by_cases hk : k = j
        · rw [hk, if_pos List.mem_cons_self, AList.lookup_insert]
        · rw [if_neg fun hmem => hrest ((List.mem_cons.mp hmem).resolve_left hk), AList.lookup_insert_ne hk]

theorem lookup_keepInferiors (ids : List Int) (k : Int) :
    (rt.keepInferiors ids).lookup k = if k ∈ ids then some (rt.inferiorState k) else none := by
  rw [keepInferiors, lookup_foldl_insert, AList.lookup_empty]

theorem mem_keepInferiors (ids : List Int) (k : Int) : k ∈ rt.keepInferiors ids ↔ k ∈ ids := by
  rw [← AList.lookup_isSome, lookup_keepInferiors]
  split <;> simp_all

/-- An inventory of some inferiors. The remembered current inferior stays the current one where none is marked, also one
that is not listed. -/
theorem tracks_updateInferiorInventory (hcurrent : rt.currentInferiorId = r.current) (marked : Option Int) (count : Int)
    (ids : List Int) : (rt.updateInferiorInventory (marked <|> rt.currentInferiorId) count (some ids)).Tracks
      (r.follow (.listed ids marked)) := by
  unfold updateInferiorInventory
  extract_lets rt₁ rt₂
  have hkeys : ∀ k, k ∈ rt₂.inferiorStates ↔ k ∈ ids := mem_keepInferiors ids
  have hnext : rt₂.currentInferiorId = r.nextCurrent ids marked := by
    have hlowest : rt₁.lowestInferior = lowest ids.toFinset :=
      (lowest_eq_of_mem fun k => AList.mem_keys.symm.trans ((hkeys k).trans List.mem_toFinset.symm)).symm
    have hchosen : rt₂.currentInferiorId = ((marked <|> rt.currentInferiorId) <|> rt₁.lowestInferior) := rfl
    rw [hchosen, hlowest, hcurrent, Roster.nextCurrent]
    cases marked <;> rfl
  have hids : ∀ k, k ∈ (r.follow (.listed ids marked)).ids ↔ k ∈ ids ∨ r.nextCurrent ids marked = some k := by
    intro k
    exact Finset.mem_union.trans (or_congr List.mem_toFinset Option.mem_toFinset)
  cases hselected : rt₂.currentInferiorId with
  | none =>
      refine tracks_synchronize (fun k => ?_) hnext
      change rt₂.currentInferiorId = some k ∨ k ∈ rt₂.inferiorStates ↔ _
      rw [hids, ← hnext, hkeys]
      exact or_comm
  | some k =>
      refine tracks_ensure_synchronize (fun j => ?_) hselected (hnext.symm.trans hselected)
      rw [hids, ← hnext, hselected, Option.some_inj, hkeys, eq_comm]
      exact or_comm

/-- A record that is given to an inferior that has one already is the one it has. -/
theorem lookup_insert_own {j k : Int} {state : InferiorRuntimeState} (h : rt.inferiorStates.lookup j = some state) :
    (rt.inferiorStates.insert k (rt.inferiorState k)).lookup j = some state := by
  by_cases hjk : j = k
  · rw [hjk, AList.lookup_insert, inferiorState, ← hjk, h]
    rfl
  · rwa [AList.lookup_insert_ne hjk]

theorem lookup_ensureInferior {j : Int} {state : InferiorRuntimeState} (h : rt.inferiorStates.lookup j = some state)
    (k : Int) : (rt.ensureInferior k).inferiorStates.lookup j = some state := by
  unfold ensureInferior
  split
  · exact h
  · exact lookup_insert_own h

theorem lookup_synchronize {j : Int} {state : InferiorRuntimeState} (h : rt.inferiorStates.lookup j = some state) :
    rt.synchronizeSelectedState.inferiorStates.lookup j = some state := by
  unfold synchronizeSelectedState
  split
  · exact h
  · exact lookup_insert_own h

/-- An inventory keeps the records of the listed inferiors. -/
theorem lookup_updateInferiorInventory {ids : List Int} {j : Int} (hj : j ∈ ids) (current : Option Int) (count : Int) :
    (rt.updateInferiorInventory current count (some ids)).inferiorStates.lookup j = some (rt.inferiorState j) := by
  unfold updateInferiorInventory
  extract_lets rt₁ rt₂
  have hkept : rt₂.inferiorStates.lookup j = some (rt.inferiorState j) := (lookup_keepInferiors ids j).trans (if_pos hj)
  refine lookup_synchronize ?_
  cases rt₂.currentInferiorId with
  | none => exact hkept
  | some k => exact lookup_ensureInferior hkept k

end SessionRuntime

/-- The inferior that a listing marks as the current one. -/
def InferiorListInfo.marked (payload : InferiorListInfo) : Option Int :=
  (payload.inferiors.filter InferiorRecord.isCurrent).getLast?.map InferiorRecord.inferiorId

theorem parseInferiorsOutput_ok {output : String} {current : Option Int} {payload : InferiorListInfo}
    (h : parseInferiorsOutput output current = .ok payload) :
    payload.currentInferiorId = (payload.marked <|> current) ∧
      ∀ current', parseInferiorsOutput output current' =
        .ok { payload with currentInferiorId := payload.marked <|> current' } := by
  obtain ⟨rows, hrows, hpayload⟩ := ok_of_except_bind h
  obtain rfl := Except.ok.inj hpayload
  refine ⟨rfl, fun current' => ?_⟩
  rw [parseInferiorsOutput, hrows]
  rfl

theorem mem_of_marked {payload : InferiorListInfo} {k : Int} (h : payload.marked = some k) : k ∈ inferiorIds payload := by
  obtain ⟨record, hlast, rfl⟩ := Option.map_eq_some_iff.mp h
  exact List.mem_map_of_mem (List.mem_of_mem_filter (List.mem_of_getLast? hlast))

namespace SessionRuntime

variable {rt rt' : SessionRuntime} {r : Roster} {payload : InferiorListInfo}

/-- What a refresh does with the inventory that it has parsed. -/
abbrev takeListing (rt : SessionRuntime) (payload : InferiorListInfo) : SessionRuntime :=
  rt.updateInferiorInventory payload.currentInferiorId payload.count (some (inferiorIds payload))

/-- The runtime behind a refresh has the inferiors of the listing, one of them is current, and those that it had before
have kept their records. -/
structure FollowsListing (rt : SessionRuntime) (payload : InferiorListInfo) (rt' : SessionRuntime) : Prop where
  keys : ∀ k, k ∈ rt'.inferiorStates ↔ k ∈ inferiorIds payload
  current : ∃ k ∈ inferiorIds payload, rt'.currentInferiorId = some k
  kept : ∀ k ∈ inferiorIds payload, k ∈ rt.inferiorStates →
    rt'.inferiorStates.lookup k = rt.inferiorStates.lookup k

/-- No inferior that the listing lacks is remembered as the current one, or the listing marks another one. -/
def KnowsCurrent (rt : SessionRuntime) (payload : InferiorListInfo) : Prop :=
  payload.marked = none → ∀ k, rt.currentInferiorId = some k → k ∈ inferiorIds payload

/-- A refresh follows its listing if and only if it does not have to fall back to a current inferior that the listing
lacks. -/
theorem takeListing_follows_iff {output : String} (hparsed : parseInferiorsOutput output rt.currentInferiorId = .ok payload)
    (hrows : payload.inferiors ≠ []) : rt.FollowsListing payload (rt.takeListing payload) ↔ rt.KnowsCurrent payload := by
  let r : Roster := ⟨rt.currentInferiorId.toFinset, rt.currentInferiorId, fun _ hk => Option.mem_toFinset.mpr hk⟩
  have htracks : (rt.takeListing payload).Tracks (r.follow (.listed (inferiorIds payload) payload.marked)) := by
    rw [takeListing, (parseInferiorsOutput_ok hparsed).1]
    exact tracks_updateInferiorInventory rfl _ _ _
  have hkeys : ∀ k, k ∈ (rt.takeListing payload).inferiorStates ↔
      k ∈ inferiorIds payload ∨ (payload.marked <|> rt.currentInferiorId) = some k :=
    fun k => (htracks.ids k).trans Roster.mem_follow_listed
  constructor
  · intro h hmarked k hk
    refine (h.keys k).mp ((hkeys k).mpr (.inr ?_))
    rw [hmarked, hk]
    rfl
  · intro hknows
    have hlisted : ∀ k, (payload.marked <|> rt.currentInferiorId) = some k → k ∈ inferiorIds payload := by
      intro k hk
      cases hmarked : payload.marked with
      | some j =>
          rw [hmarked] at hk
          obtain rfl := Option.some.inj hk
          exact mem_of_marked hmarked
      | none =>
          rw [hmarked] at hk
          exact hknows hmarked k hk
    have hexact : ∀ k, k ∈ (rt.takeListing payload).inferiorStates ↔ k ∈ inferiorIds payload :=
      fun k => (hkeys k).trans (or_iff_left_of_imp (hlisted k))
    refine ⟨hexact, ?_, fun k hk hknown => ?_⟩
    · obtain ⟨record, hrecord⟩ := List.exists_mem_of_ne_nil _ hrows
      have hrow : record.inferiorId ∈ inferiorIds payload := List.mem_map_of_mem hrecord
      obtain ⟨k, hk⟩ := r.exists_nextCurrent hrow payload.marked
      have hselected : (rt.takeListing payload).currentInferiorId = some k := htracks.current.trans hk
      exact ⟨k, (hexact k).mp (currentTracked htracks.mirror hselected), hselected⟩
    · obtain ⟨state, hstate⟩ := Option.isSome_iff_exists.mp (AList.lookup_isSome.mpr hknown)
      rw [takeListing, lookup_updateInferiorInventory hk, inferiorState, hstate]
      rfl

end SessionRuntime

end GdbMcp
