import GdbMcp.RegistryPublication
import Mathlib.Data.Set.Card

/-! The count of the active sessions. It adds the sizes of the table and of the set of the marks, which is right as long as
no session is in both and no mark of a session that is still being closed is taken away. -/

namespace GdbMcp

namespace RegistryCall

/-- The id that a close is closing, from its mark to its return. -/
def closer : RegistryCall → Option Int
  | marked id _ | uncontrolled id _ | inconsistent id | inactive id _ | awaiting id _ | stopping id _ |
    unwinding id _ _ | stopped id _ _ => some id
  | _ => none

/-- The ids that a shutdown has taken out, until it returns. -/
def taken : RegistryCall → List Int
  | shuttingDown pending results => results.map Prod.fst ++ pending.map Prod.fst
  | joining _ id pending results => results.map Prod.fst ++ id :: pending.map Prod.fst
  | _ => []

/-- The ids that a call is closing. -/
def closes (call : RegistryCall) : List Int := call.closer.toList ++ call.taken

/-- The thread of a shutdown is stopping its session. -/
def Working : RegistryCall → Prop
  | workerAwaiting _ | workerStopping _ | workerUnwinding _ _ => True
  | _ => False

end RegistryCall

namespace RegistrySystem

open RegistryCall

variable {s s' : RegistrySystem} {l : Option Nat} {c : Nat} {id : Int} {session : SessionRef}

/-- A close or a shutdown that has taken the session has not returned. -/
def BeingClosed (s : RegistrySystem) (id : Int) : Prop := ∃ c, id ∈ (s.calls c).closes

/-- The ids that are published or still being closed. -/
def trackedIds (s : RegistrySystem) : Set Int := {id | s.registry.getSession id ≠ none ∨ s.BeingClosed id}

def CountsEachOnce (s : RegistrySystem) : Prop := (s.registry.activeSessionCount : ℕ∞) = s.trackedIds.encard

/-- The step marks no published session, and takes out the sessions or takes away the marks only where no other call is
closing a session. -/
def CountKept (s : RegistrySystem) (l : Option Nat) : Prop :=
  ∀ c, l = some c →
    (∀ id, s.calls c = requested (.closeSession id) → s.registry.getSession id = none) ∧
      ((s.calls c = requested .shutdownAll ∨ ∃ results, s.calls c = shuttingDown [] results) →
        ∀ c' ≠ c, (s.calls c').closes = [])

/-! ### What a step does to the count -/

theorem Step.eq_mark (h : Step s (some c) s') (hcall : s.calls c = requested (.closeSession id))
    (hsession : s.registry.getSession id = some session) :
    s' = s.gotoWith (s.registry.markClosing id) c (marked id session) := by
  cases h with
  | mark hcall' hsession' =>
      cases hcall.symm.trans hcall'
      cases hsession.symm.trans hsession'
      rfl
  | closeNone hcall' hnone =>
      cases hcall.symm.trans hcall'
      exact nomatch hsession.symm.trans hnone
  | _ => simp_all

theorem Step.eq_takeAll (h : Step s (some c) s') (hcall : s.calls c = requested .shutdownAll) :
    s' = s.gotoWith s.registry.takeAll c (shuttingDown s.registry.items []) := by
  cases h with
  | takeAll => rfl
  | _ => simp_all

theorem Step.eq_clear {results : List (Int × OperationResult String)} (h : Step s (some c) s')
    (hcall : s.calls c = shuttingDown [] results) :
    s' = s.gotoWith s.registry.clearClosing c (RegistryCall.returned (.shutDown results)) := by
  cases h with
  | clear hcall' =>
      cases hcall.symm.trans hcall'
      rfl
  | _ => simp_all

/-- A call starts to close a session by its mark only. -/
theorem Step.closer (h : Step s l s') (c' : Nat) (hcloser : (s'.calls c').closer = some id) :
    (s.calls c').closer = some id ∨
      l = some c' ∧ s.calls c' = requested (.closeSession id) ∧ s.registry.getSession id ≠ none := by
  rcases h.calls c' with hsame | rfl | ⟨-, session', hworker⟩
  · exact .inl (by rw [← hsame, hcloser])
  · cases h with
    | mark hcall hsession =>
        rw [calls_gotoWith, if_pos rfl] at hcloser
        cases hcloser
        exact .inr ⟨rfl, hcall, by rw [hsession]; exact Option.some_ne_none _⟩
    | readController hcall =>
        refine .inl ?_
        rw [calls_goto, if_pos rfl] at hcloser
        rw [hcall]
        split at hcloser <;> exact hcloser
    | readRunning hcall =>
        refine .inl ?_
        rw [calls_goto, if_pos rfl] at hcloser
        rw [hcall]
        split at hcloser <;> exact hcloser
    | acquire hcall | release hcall =>
        refine .inl ?_
        rw [calls_goto, if_pos rfl] at hcloser
        rw [hcall]
        exact hcloser
    | stop outcome hcall =>
        refine .inl ?_
        rw [calls_goto, if_pos rfl] at hcloser
        rw [hcall]
        exact hcloser
    | _ => simp [RegistryCall.closer] at hcloser
  · rw [hworker] at hcloser
    exact nomatch hcloser

/-- The other steps leave the marks and the closed ids as they are, as long as no close is under way. -/
theorem Step.closes_same (h : Step s l s') (hnone : ∀ c, (s.calls c).closer = none)
    (hmark : ∀ c id, l = some c → s.calls c = requested (.closeSession id) → s.registry.getSession id = none)
    (htake : ∀ c, l = some c → s.calls c ≠ requested .shutdownAll)
    (hclear : ∀ c results, l = some c → s.calls c ≠ shuttingDown [] results) :
    s'.registry.closingSessions = s.registry.closingSessions ∧ ∀ c, (s'.calls c).closes = (s.calls c).closes := by
  have hmoved : ∀ (c : Nat) (call : RegistryCall), call.closes = (s.calls c).closes →
      ∀ c', ((s.goto c call).calls c').closes = (s.calls c').closes := by
    intro c call hcall c'
    rw [calls_goto]
    split
    · rename_i heq
      exact heq ▸ hcall
    · rfl
  have hcloser : ∀ {c : Nat} {call : RegistryCall} {id : Int}, s.calls c = call → call.closer ≠ some id := by
    intro c call id hcall hid
    rw [← hcall, hnone] at hid
    exact nomatch hid
  cases h with
  | view => exact ⟨rfl, fun _ => rfl⟩
  | mark hcall hsession => exact nomatch (hmark _ _ rfl hcall).symm.trans hsession
  | takeAll hcall => exact absurd hcall (htake _ rfl)
  | clear hcall => exact absurd hcall (hclear _ _ rfl)
  | @spawn c worker id session pending results hcall hcontroller hworker =>
      have hne : worker ≠ c := fun h => nomatch (h ▸ hworker).symm.trans hcall
      refine ⟨rfl, fun c' => ?_⟩
      rw [calls_goto, calls_goto]
      split
      · rename_i heq
        rw [← heq, hcall]
        simp [RegistryCall.closes, RegistryCall.closer, RegistryCall.taken]
      · split
        · rename_i heq
          rw [← heq, hworker]
          rfl
        · rfl
  | skip hcall | join hcall | joinTimeout hcall =>
      refine ⟨rfl, hmoved _ _ ?_⟩
      rw [hcall]
      simp [RegistryCall.closes, RegistryCall.closer, RegistryCall.taken]
  | readController hcall | readRunning hcall | refuse hcall | removeInactive hcall
  | acquire hcall | release hcall | removeStopped hcall | keepUnstopped hcall => exact absurd rfl (hcloser hcall)
  | stop outcome hcall => exact absurd rfl (hcloser hcall)
  | allocate _ hcall | startRaises _ hcall | startFails _ _ _ _ hcall | startSucceeds _ _ hcall | publish hcall
  | get hcall | list hcall | resolveClosing hcall | resolve hcall | resolveNone hcall | reportUnresolved hcall
  | closeNone hcall | reportUnclosed hcall | workerAcquire hcall | workerStop _ hcall | workerRelease hcall =>
      refine ⟨rfl, hmoved _ _ ?_⟩
      rw [hcall]
      rfl

/-! ### The invariant -/

/-- No close is under way, the marks are those of the shutdowns, and no marked session is published. -/
structure Counted (s : RegistrySystem) : Prop where
  unmarked : ∀ c, (s.calls c).closer = none
  marks : ∀ id, id ∈ s.registry.closingSessions ↔ s.BeingClosed id
  apart : ∀ id ∈ s.registry.closingSessions, s.registry.getSession id = none
  started : ∀ id ∈ s.registry.closingSessions, ∃ c, s.Started c id

theorem mem_keys_iff {r : SessionRegistry} : id ∈ r.sessions.keys ↔ r.getSession id ≠ none := by
  rw [← AList.mem_keys, ← AList.lookup_isSome, Option.isSome_iff_ne_none]
  rfl

theorem keys_items (r : SessionRegistry) : r.items.map Prod.fst = r.sessions.keys.reverse := by
  rw [SessionRegistry.items, List.map_map, AList.keys, List.keys, ← List.map_reverse]
  rfl

theorem Counted.exact (hs : Counted s) : CountsEachOnce s := by
  have htracked : s.trackedIds = ↑(s.registry.sessions.keys.toFinset ∪ s.registry.closingSessions) := by
    ext id
    rw [Finset.coe_union, Set.mem_union, Finset.mem_coe, Finset.mem_coe, List.mem_toFinset, mem_keys_iff, hs.marks]
    rfl
  have hdisjoint : Disjoint s.registry.sessions.keys.toFinset s.registry.closingSessions := by
    rw [Finset.disjoint_right]
    intro id hclosing hkey
    exact mem_keys_iff.mp (List.mem_toFinset.mp hkey) (hs.apart id hclosing)
  rw [CountsEachOnce, htracked, Set.encard_coe_eq_coe_finsetCard, Finset.card_union_of_disjoint hdisjoint,
    List.toFinset_card_of_nodup s.registry.sessions.keys_nodup]
  rfl

theorem Counted.initial (h : Initial s) : Counted s := by
  obtain ⟨hregistry, requests, hcalls⟩ := h
  have hnone : s.registry.closingSessions = ∅ := by rw [hregistry]
  refine ⟨fun c => by rw [hcalls]; rfl, fun id => ?_, ?_, ?_⟩
  · rw [hnone]
    refine iff_of_false (Finset.notMem_empty _) ?_
    rintro ⟨c, hc⟩
    rw [hcalls] at hc
    exact nomatch hc
  · rw [hnone]
    exact fun id hid => absurd hid (Finset.notMem_empty _)
  · rw [hnone]
    exact fun id hid => absurd hid (Finset.notMem_empty _)

theorem Counted.unmarked_step (hs : Counted s) (hkept : s.CountKept l) (h : Step s l s') (c : Nat) :
    (s'.calls c).closer = none := by
  rw [Option.eq_none_iff_forall_not_mem]
  intro id hid
  rcases h.closer c hid with hold | ⟨rfl, hcall, hsession⟩
  · exact nomatch (hs.unmarked c).symm.trans hold
  · exact hsession ((hkept c rfl).1 id hcall)

theorem beingClosed_gotoWith {registry : SessionRegistry} {call : RegistryCall}
    (halone : ∀ c' ≠ c, (s.calls c').closes = []) : (s.gotoWith registry c call).BeingClosed id ↔ id ∈ call.closes := by
  constructor
  · rintro ⟨c', hc'⟩
    rw [calls_gotoWith] at hc'
    split at hc'
    · exact hc'
    · rename_i hne
      rw [halone c' (Ne.symm hne)] at hc'
      exact nomatch hc'
  · exact fun hid => ⟨c, by rwa [calls_gotoWith, if_pos rfl]⟩

/-- A shutdown takes all sessions out, where no other call is closing any. -/
theorem Counted.takeAll (htable : TableValid s) (hcall : s.calls c = requested .shutdownAll)
    (halone : ∀ c' ≠ c, (s.calls c').closes = []) (h : Step s (some c) s')
    (hunmarked : ∀ c, (s'.calls c).closer = none) : Counted s' := by
  have hstarted : ∀ c' id, s.Started c' id → s'.Started c' id := fun _ _ => h.started
  obtain rfl := h.eq_takeAll hcall
  refine ⟨hunmarked, fun id => ?_, fun id _ => rfl, fun id hid => ?_⟩
  · have hcloses : (shuttingDown s.registry.items []).closes = s.registry.sessions.keys.reverse := by
      rw [← keys_items]
      rfl
    rw [beingClosed_gotoWith halone, hcloses, List.mem_reverse]
    exact List.mem_toFinset
  · obtain ⟨session, hsession⟩ := Option.ne_none_iff_exists'.mp (mem_keys_iff.mp (List.mem_toFinset.mp hid))
    obtain ⟨c', hc'⟩ := htable id session hsession
    exact ⟨c', hstarted c' id hc'⟩

/-- The end of a shutdown takes the marks away, where no other call is closing a session. -/
theorem Counted.clear {results : List (Int × OperationResult String)} (hcall : s.calls c = shuttingDown [] results)
    (halone : ∀ c' ≠ c, (s.calls c').closes = []) (h : Step s (some c) s')
    (hunmarked : ∀ c, (s'.calls c).closer = none) : Counted s' := by
  obtain rfl := h.eq_clear hcall
  refine ⟨hunmarked, fun id => ?_, fun id hid => absurd hid (Finset.notMem_empty _),
    fun id hid => absurd hid (Finset.notMem_empty _)⟩
  rw [beingClosed_gotoWith halone]
  exact iff_of_false (Finset.notMem_empty _) nofun

theorem Counted.step (hs : Counted s) (hids : IdsValid s) (htable : TableValid s) (hkept : s.CountKept l)
    (h : Step s l s') : Counted s' := by
  have hunmarked := hs.unmarked_step hkept h
  by_cases htake : ∃ c, l = some c ∧ s.calls c = requested .shutdownAll
  · obtain ⟨c, rfl, hcall⟩ := htake
    exact .takeAll htable hcall ((hkept c rfl).2 (.inl hcall)) h hunmarked
  by_cases hclear : ∃ c results, l = some c ∧ s.calls c = shuttingDown [] results
  · obtain ⟨c, results, rfl, hcall⟩ := hclear
    exact .clear hcall ((hkept c rfl).2 (.inr ⟨results, hcall⟩)) h hunmarked
  obtain ⟨hmarks, hcloses⟩ := h.closes_same hs.unmarked (fun c id hc => (hkept c hc).1 id)
    (fun c hc hcall => htake ⟨c, hc, hcall⟩) fun c results hc hcall => hclear ⟨c, results, hc, hcall⟩
  refine ⟨hunmarked, fun id => ?_, fun id hid => ?_, fun id hid => ?_⟩
  · rw [hmarks, hs.marks, BeingClosed, BeingClosed]
    simp only [hcloses]
  · rw [hmarks] at hid
    obtain ⟨c, hstarted⟩ := hs.started id hid
    exact hids.stays_removed hstarted (hs.apart id hid) h
  · rw [hmarks] at hid
    obtain ⟨c, hstarted⟩ := hs.started id hid
    exact ⟨c, h.started hstarted⟩

theorem counted_of_countKept (h : Reachable Initial Step CountKept s) : Counted s := by
  refine h.invariant_with (J := Reached) (fun t ht => ht.mono fun _ _ _ => trivial) (fun _ => .initial) ?_
  exact fun t l t' hreached hs hkept hstep => hs.step hreached.idsValid hreached.tableValid hkept hstep

/-! ### Where the count goes wrong -/

theorem not_countsEachOnce_of_subset (ids : Finset Int) (hids : s.trackedIds ⊆ ↑ids)
    (hcount : ids.card < s.registry.activeSessionCount) : ¬CountsEachOnce s := by
  intro hexact
  have hle := Set.encard_le_encard hids
  rw [← hexact, Set.encard_coe_eq_coe_finsetCard] at hle
  exact absurd (Nat.cast_le.mp hle) (by omega)

theorem not_countsEachOnce_of_superset (ids : Finset Int) (hids : ↑ids ⊆ s.trackedIds)
    (hcount : s.registry.activeSessionCount < ids.card) : ¬CountsEachOnce s := by
  intro hexact
  have hle := Set.encard_le_encard hids
  rw [← hexact, Set.encard_coe_eq_coe_finsetCard] at hle
  exact absurd (Nat.cast_le.mp hle) (by omega)

/-- The mark of a published session counts it twice. -/
theorem Counted.mark_breaks (hs : Counted s) (hcall : s.calls c = requested (.closeSession id))
    (hsession : s.registry.getSession id = some session) (h : Step s (some c) s') : ¬CountsEachOnce s' := by
  obtain rfl := h.eq_mark hcall hsession
  have hpublished : s.registry.getSession id ≠ none := by rw [hsession]; exact Option.some_ne_none _
  have hnew : id ∉ s.registry.closingSessions := fun hid => hpublished (hs.apart id hid)
  refine not_countsEachOnce_of_subset (s.registry.sessions.keys.toFinset ∪ s.registry.closingSessions) ?_ ?_
  · intro id' hid'
    rw [Finset.coe_union, Set.mem_union, Finset.mem_coe, Finset.mem_coe, List.mem_toFinset, mem_keys_iff, hs.marks]
    rcases hid' with hkey | ⟨c', hc'⟩
    · exact .inl hkey
    · rw [calls_gotoWith] at hc'
      split at hc'
      · obtain rfl := List.mem_singleton.mp hc'
        exact .inl hpublished
      · exact .inr ⟨c', hc'⟩
  · have hcard : (insert id s.registry.closingSessions).card = s.registry.closingSessions.card + 1 :=
      Finset.card_insert_of_notMem hnew
    have hle := Finset.card_union_le s.registry.sessions.keys.toFinset s.registry.closingSessions
    rw [List.toFinset_card_of_nodup s.registry.sessions.keys_nodup] at hle
    change _ < s.registry.sessions.keys.length + (insert id s.registry.closingSessions).card
    omega

/-- A session that another call is closing is not counted behind a shutdown that takes out the others, or ends. -/
theorem Counted.shutdown_breaks (hs : Counted s)
    (hcall : s.calls c = requested .shutdownAll ∨ ∃ results, s.calls c = shuttingDown [] results)
    (hother : ∃ c' ≠ c, (s.calls c').closes ≠ []) (h : Step s (some c) s') : ¬CountsEachOnce s' := by
  obtain ⟨c', hne, hcloses⟩ := hother
  obtain ⟨id, hid⟩ := List.exists_mem_of_ne_nil _ hcloses
  have hunpublished : id ∉ s.registry.sessions.keys.toFinset := by
    rw [List.mem_toFinset, mem_keys_iff, not_not]
    exact hs.apart id ((hs.marks id).mpr ⟨c', hid⟩)
  have hcard : (insert id s.registry.sessions.keys.toFinset).card = s.registry.sessions.keys.length + 1 := by
    rw [Finset.card_insert_of_notMem hunpublished, List.toFinset_card_of_nodup s.registry.sessions.keys_nodup]
  have hstill : s'.BeingClosed id := by
    rcases hcall with hcall | ⟨results, hcall⟩
    · obtain rfl := h.eq_takeAll hcall
      exact ⟨c', by rwa [calls_gotoWith, if_neg (Ne.symm hne)]⟩
    · obtain rfl := h.eq_clear hcall
      exact ⟨c', by rwa [calls_gotoWith, if_neg (Ne.symm hne)]⟩
  have htracked : ∀ id' ∈ s.registry.sessions.keys, id' ∈ s'.trackedIds := by
    intro id' hid'
    rcases hcall with hcall | ⟨results, hcall⟩
    · obtain rfl := h.eq_takeAll hcall
      refine .inr ⟨c, ?_⟩
      have hmem : id' ∈ s.registry.items.map Prod.fst := by rwa [keys_items, List.mem_reverse]
      rw [calls_gotoWith, if_pos rfl]
      exact hmem
    · obtain rfl := h.eq_clear hcall
      exact .inl (mem_keys_iff.mp hid')
  refine not_countsEachOnce_of_superset (insert id s.registry.sessions.keys.toFinset) ?_ ?_
  · intro id' hid'
    rcases Finset.mem_insert.mp hid' with rfl | hid'
    · exact .inr hstill
    · exact htracked id' (List.mem_toFinset.mp hid')
  · have hcount : s'.registry.activeSessionCount = s.registry.sessions.keys.length := by
      rcases hcall with hcall | ⟨results, hcall⟩
      · obtain rfl := h.eq_takeAll hcall
        change 0 + s.registry.sessions.keys.toFinset.card = _
        rw [List.toFinset_card_of_nodup s.registry.sessions.keys_nodup, Nat.zero_add]
      · obtain rfl := h.eq_clear hcall
        rfl
    omega

/-- In a state that steps of the kind have reached, the count stays exact in the steps of the kind and in no others. -/
theorem Counted.exact_step_iff (hs : Counted s) (hids : IdsValid s) (htable : TableValid s) (h : Step s l s') :
    CountsEachOnce s' ↔ s.CountKept l := by
  constructor
  · intro hexact c hc
    subst hc
    refine ⟨fun id hcall => ?_, fun hcall c' hne => ?_⟩
    · by_contra hsome
      obtain ⟨session, hsession⟩ := Option.ne_none_iff_exists'.mp hsome
      exact hs.mark_breaks hcall hsession h hexact
    · by_contra hcloses
      exact hs.shutdown_breaks hcall ⟨c', hne, hcloses⟩ h hexact
  · exact fun hkept => (hs.step hids htable hkept h).exact

/-! ### Stops in progress -/

/-- A shutdown leaves the wait for a thread only behind its end. -/
def WaitsOut (s : RegistrySystem) (l : Option Nat) : Prop :=
  ∀ c worker id pending results, l = some c → s.calls c = joining worker id pending results →
    ∃ outcome, s.calls worker = returned (.workerDone outcome)

/-- Every thread that is stopping a session is waited for. -/
def Waited (s : RegistrySystem) : Prop :=
  ∀ worker, (s.calls worker).Working → ∃ c id pending results, s.calls c = joining worker id pending results

/-- A thread that is stopping a session was doing so before, or has just been started. -/
theorem Step.working (h : Step s l s') {worker : Nat} (hworking : (s'.calls worker).Working) :
    (s.calls worker).Working ∨ ∃ c id pending results, s'.calls c = joining worker id pending results := by
  have hgoto : ∀ {c : Nat} {call : RegistryCall}, ((s.goto c call).calls worker).Working →
      (call.Working → (s.calls c).Working) → (s.calls worker).Working := by
    intro c call hcall hmoved
    rw [calls_goto] at hcall
    split at hcall
    · rename_i heq
      exact heq ▸ hmoved hcall
    · exact hcall
  cases h with
  | view => exact .inl hworking
  | @spawn c worker' id session pending results hcall hcontroller hworker =>
      by_cases heq : worker' = worker
      · subst heq
        exact .inr ⟨c, id, pending, results, by rw [calls_goto, if_pos rfl]⟩
      · refine .inl ?_
        rw [calls_goto] at hworking
        split at hworking
        · exact hworking.elim
        · rwa [calls_goto, if_neg heq] at hworking
  | readController | readRunning => exact .inl (hgoto hworking fun hnew => by split at hnew <;> exact hnew.elim)
  | workerAcquire hcall | workerRelease hcall => exact .inl (hgoto hworking fun _ => by rw [hcall]; trivial)
  | workerStop outcome hcall => exact .inl (hgoto hworking fun _ => by rw [hcall]; trivial)
  | _ => exact .inl (hgoto hworking False.elim)

theorem Waited.step (hs : Waited s) (hwaits : s.WaitsOut l) (h : Step s l s') : Waited s' := by
  intro worker hworking
  rcases h.working hworking with hbefore | hstarted
  · obtain ⟨c, id, pending, results, hcall⟩ := hs worker hbefore
    rcases h.calls c with hsame | rfl | ⟨hrequested, -⟩
    · exact ⟨c, id, pending, results, hsame.trans hcall⟩
    · obtain ⟨outcome, hdone⟩ := hwaits c worker id pending results rfl hcall
      rw [hdone] at hbefore
      exact hbefore.elim
    · exact nomatch hrequested.symm.trans hcall
  · exact hstarted

theorem waited_of_waitsOut (h : Reachable Initial Step (fun s l => s.CountKept l ∧ s.WaitsOut l) s) : Waited s := by
  refine h.invariant (fun t ht worker hworking => ?_) fun _ _ _ ht hallowed hstep => ht.step hallowed.2 hstep
  obtain ⟨-, requests, hcalls⟩ := ht
  rw [hcalls] at hworking
  exact hworking.elim

/-- Nothing is published, no close and no shutdown is under way, and no session is being stopped. -/
structure Inactive (s : RegistrySystem) : Prop where
  unpublished : ∀ id, s.registry.getSession id = none
  unclosed : ∀ id, ¬s.BeingClosed id
  unstopped : ∀ worker, ¬(s.calls worker).Working

theorem Counted.inactive (hs : Counted s) (hwaited : Waited s) (hzero : s.registry.activeSessionCount = 0) : Inactive s := by
  have hexact := hs.exact
  rw [CountsEachOnce, hzero, Nat.cast_zero, eq_comm, Set.encard_eq_zero] at hexact
  have hnone : ∀ id, id ∉ s.trackedIds := fun id => hexact ▸ Set.notMem_empty id
  have hunclosed : ∀ id, ¬s.BeingClosed id := fun id hid => hnone id (.inr hid)
  refine ⟨fun id => ?_, hunclosed, fun worker hworking => ?_⟩
  · by_contra hid
    exact hnone id (.inl hid)
  · obtain ⟨c, id, pending, results, hcall⟩ := hwaited worker hworking
    refine hunclosed id ⟨c, ?_⟩
    rw [hcall]
    exact List.mem_append_right _ (List.mem_append_right _ List.mem_cons_self)

/-! ### All interleavings -/

/-- As long as no close marks a published session and no shutdown takes out sessions or ends while another call is closing
some, the count is exact, and the first step that is not so makes it wrong. It is zero only where nothing is active, if
no shutdown gives a stop up. -/
theorem activity_count_exact_iff (h : Reachable Initial Step CountKept s) :
    CountsEachOnce s ∧ (∀ l s', Step s l s' → (CountsEachOnce s' ↔ s.CountKept l)) ∧
      (Reachable Initial Step (fun s l => s.CountKept l ∧ s.WaitsOut l) s → s.registry.activeSessionCount = 0 → Inactive s) := by
  have hcounted := counted_of_countKept h
  have hreached : Reached s := h.mono fun _ _ _ => trivial
  refine ⟨hcounted.exact, fun l s' hstep => ?_, fun hwaits hzero => hcounted.inactive (waited_of_waitsOut hwaits) hzero⟩
  exact hcounted.exact_step_iff hreached.idsValid hreached.tableValid hstep

/-- The first call starts a session, two shut down, one closes the session, and the others are threads. -/
def twoShutdowns : RegistrySystem where
  views _ := { hasController := true, isRunning := true }
  calls c := .requested
    (if c = 0 then .startSession else if c ≤ 2 then .shutdownAll else if c = 3 then .closeSession 1 else .stopWorker)

theorem initial_twoShutdowns : Initial twoShutdowns := ⟨rfl, _, rfl⟩

/-- The session has been published. -/
def oneStarted : RegistrySystem :=
  ((twoShutdowns.gotoWith twoShutdowns.registry.allocateSessionId 0 (starting 1 7)).goto 0
    (publishing 1 7 startedInfo [])).gotoWith
    (twoShutdowns.registry.allocateSessionId.publish 1 7) 0 (returned (.started (some 1) (.success startedInfo [])))

theorem reachable_oneStarted : Reachable Initial Step CountKept oneStarted := by
  have hkept : ∀ {t : RegistrySystem} {c : Nat} (call : RegistryCall), t.calls c = call →
      (∀ request, call = requested request → request = .startSession) → (∀ results, call ≠ shuttingDown [] results) →
      t.CountKept (some c) := by
    rintro t c call hcall hrequest hnone c' ⟨⟩
    rw [hcall]
    refine ⟨fun id hclose => (nomatch hrequest _ hclose), ?_⟩
    rintro (hshutdown | ⟨results, hclear⟩)
    · exact nomatch hrequest _ hshutdown
    · exact absurd hclear (hnone results)
  have h₀ : Reachable Initial Step CountKept twoShutdowns := .initial initial_twoShutdowns
  have h₁ := h₀.step (hkept (requested .startSession) rfl (by rintro _ ⟨⟩; rfl) nofun) (.allocate (c := 0) 7 rfl)
  have h₂ := h₁.step (hkept (starting 1 7) rfl nofun nofun) (.startSucceeds (c := 0) startedInfo [] rfl)
  exact h₂.step (hkept (publishing 1 7 startedInfo []) rfl nofun nofun) (.publish (c := 0) rfl)

theorem closes_oneStarted (c : Nat) : (oneStarted.calls c).closes = [] := by
  rw [oneStarted, calls_gotoWith]
  split
  · rfl
  · rename_i hne
    rw [calls_goto, if_neg hne, calls_gotoWith, if_neg hne]
    rfl

/-- The shutdown of the second call has taken the session out. -/
theorem activity_count_exact_iff_shutdown :
    ∃ s, s.BeingClosed 1 ∧ s.registry.activeSessionCount = 1 ∧ CountsEachOnce s := by
  have hkept : oneStarted.CountKept (some 1) := by
    rintro c ⟨⟩
    exact ⟨nofun, fun _ c' _ => closes_oneStarted c'⟩
  have hreached := reachable_oneStarted.step hkept (.takeAll (c := 1) rfl)
  exact ⟨_, ⟨1, List.mem_singleton_self 1⟩, rfl, (activity_count_exact_iff hreached).1⟩

/-- A close marks the session, which is counted twice; or a second shutdown begins while the first one is stopping the
session, which is not counted. -/
theorem activity_miscounted :
    (∃ s, Reached s ∧ s.trackedIds = {1} ∧ s.registry.activeSessionCount = 2) ∧
      ∃ s, Reached s ∧ s.BeingClosed 1 ∧ s.registry.activeSessionCount = 0 := by
  have hreached : Reached oneStarted := reachable_oneStarted.mono fun _ _ _ => trivial
  constructor
  · refine ⟨_, hreached.step trivial (.mark (c := 3) rfl (rfl : oneStarted.registry.getSession 1 = some 7)), ?_, rfl⟩
    refine Set.eq_singleton_iff_unique_mem.mpr ⟨.inl nofun, ?_⟩
    rintro id (hid | ⟨c, hid⟩)
    · by_contra hne
      exact hid ((SessionRegistry.getSession_publish _ 1 id 7).trans (if_neg hne))
    · rw [calls_gotoWith] at hid
      split at hid
      · exact List.mem_singleton.mp hid
      · rw [closes_oneStarted] at hid
        exact nomatch hid
  · have h₁ := hreached.step trivial (.takeAll (c := 1) rfl)
    have h₂ := h₁.step trivial (.takeAll (c := 2) rfl)
    exact ⟨_, h₂, ⟨1, List.mem_singleton_self 1⟩, rfl⟩

end RegistrySystem
end GdbMcp
