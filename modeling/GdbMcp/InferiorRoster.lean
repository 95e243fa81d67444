import GdbMcp.BaseTransition
import Mathlib.Data.Finset.Option
import Mathlib.Data.Finset.Sort

/-! The inferiors that a session knows, as the events of one command come in: their numbers and the current one. The
table of the runtime follows this roster through the notifications, the refresh, the stop and the text of the
command. -/

namespace GdbMcp

/-- What makes inferiors come or go. A record of an inferior that nothing names is one of the current inferior. -/
inductive RosterEvent where
  | added (k : Int)
  | marked (k : Option Int)
  | removed (k : Int)
  | selected (k : Int)
  | listed (ids : List Int) (marked : Option Int)
  | lost
  deriving DecidableEq, Repr

/-- Whether inferiors are added or removed. -/
def RosterEvent.isTopology : RosterEvent → Bool
  | .added _ | .removed _ => true
  | _ => false

/-- The known inferiors; the current one is among them. -/
structure Roster where
  ids : Finset Int
  current : Option Int
  tracked : ∀ k, current = some k → k ∈ ids

/-- The lowest of some numbers. -/
def lowest (ids : Finset Int) : Option Int := ids.sort.min?

theorem lowest_eq_of_mem {ids : Finset Int} {keys : List Int} (h : ∀ k, k ∈ keys ↔ k ∈ ids) : lowest ids = keys.min? := by
  ext k
  rw [lowest, List.min?_eq_some_iff, List.min?_eq_some_iff]
  simp only [Finset.mem_sort, h]

theorem mem_of_lowest {ids : Finset Int} {k : Int} (h : lowest ids = some k) : k ∈ ids :=
  (Finset.mem_sort _).mp (List.min?_mem h)

theorem exists_lowest {ids : Finset Int} {k : Int} (hk : k ∈ ids) : ∃ j, lowest ids = some j := by
  rw [← Option.isSome_iff_exists, Option.isSome_iff_ne_none]
  intro hnone
  have hmem : k ∈ ids.sort := (Finset.mem_sort _).mpr hk
  rw [List.min?_eq_none_iff.mp hnone] at hmem
  exact nomatch hmem

namespace Roster

variable {r : Roster} {x k : Int} {e : RosterEvent}

def empty : Roster := ⟨∅, none, nofun⟩

/-- The inferior of a record that names this one, or none. -/
def target (r : Roster) (k : Option Int) : Int := k.getD (r.current.getD 1)

/-- The inferior that a listing makes the current one: the marked one, the one before, or the lowest. -/
def nextCurrent (r : Roster) (ids : List Int) (marked : Option Int) : Option Int :=
  marked <|> r.current <|> lowest ids.toFinset

theorem exists_nextCurrent {ids : List Int} (hk : k ∈ ids) (marked : Option Int) :
    ∃ j, r.nextCurrent ids marked = some j := by
  rw [nextCurrent]
  cases marked with
  | some j => exact ⟨j, rfl⟩
  | none =>
      cases r.current with
      | some j => exact ⟨j, rfl⟩
      | none => exact exists_lowest (List.mem_toFinset.mpr hk)

def follow (r : Roster) : RosterEvent → Roster
  | .added k =>
    ⟨if 0 < k then insert k r.ids else r.ids, r.current, fun j hj => by
      split
      · exact Finset.mem_insert_of_mem (r.tracked j hj)
      · exact r.tracked j hj⟩
  | .marked k =>
    ⟨insert (r.target k) r.ids, some (r.current.getD (r.target k)), fun j hj => by
      obtain rfl := Option.some.inj hj
      cases hcurrent : r.current with
      | none => exact Finset.mem_insert_self _ _
      | some i => exact Finset.mem_insert_of_mem (r.tracked i hcurrent)⟩
  | .removed k =>
    ⟨r.ids.erase k, if r.current = some k then lowest (r.ids.erase k) else r.current, fun j hj => by
      split at hj
      · exact mem_of_lowest hj
      · rename_i hother
        exact Finset.mem_erase.mpr ⟨fun heq => hother (heq ▸ hj), r.tracked j hj⟩⟩
  | .selected k => ⟨insert k r.ids, some k, fun j hj => Option.some.inj hj ▸ Finset.mem_insert_self _ _⟩
  | .listed ids marked =>
    ⟨ids.toFinset ∪ (r.nextCurrent ids marked).toFinset, r.nextCurrent ids marked, fun j hj =>
      Finset.mem_union_right _ (Option.mem_toFinset.mpr hj)⟩
  | .lost => empty

/-- The roster behind some events. -/
def after (r : Roster) (events : List RosterEvent) : Roster := events.foldl follow r

@[simp] theorem after_append (events events' : List RosterEvent) :
    r.after (events ++ events') = (r.after events).after events' := List.foldl_append

/-- The event gives the inferior a record: it names the inferior, or names none where nothing is current, which is the
first inferior then, or lists it. -/
def Brings (x : Int) (r : Roster) : RosterEvent → Prop
  | .added k => 0 < k ∧ k = x
  | .marked k => r.target k = x
  | .selected k => k = x
  | .listed ids marked => x ∈ ids ∨ marked = some x
  | .removed _ | .lost => False

/-- The event takes the record of the inferior away: it is the removal, a listing without the inferior that does not
leave it the current one, or the loss of the debugger. -/
def TakesAway (x : Int) (r : Roster) : RosterEvent → Prop
  | .removed k => k = x
  | .listed ids marked => x ∉ ids ∧ (marked <|> r.current) ≠ some x
  | .lost => True
  | .added _ | .marked _ | .selected _ => False

theorem mem_follow_added : x ∈ (r.follow (.added k)).ids ↔ (0 < k ∧ k = x) ∨ x ∈ r.ids := by
  have hids : (r.follow (.added k)).ids = if 0 < k then insert k r.ids else r.ids := rfl
  rw [hids]
  split
  · rename_i hpos
    rw [Finset.mem_insert, and_iff_right hpos, eq_comm]
  · rename_i hpos
    exact (or_iff_right fun h => hpos h.1).symm

theorem mem_follow_listed {ids : List Int} {marked : Option Int} :
    x ∈ (r.follow (.listed ids marked)).ids ↔ x ∈ ids ∨ (marked <|> r.current) = some x := by
  have hmem : x ∈ (r.follow (.listed ids marked)).ids ↔ x ∈ ids ∨ r.nextCurrent ids marked = some x := by
    rw [follow, Finset.mem_union, List.mem_toFinset, Option.mem_toFinset, Option.mem_def]
  rw [hmem, nextCurrent]
  cases marked with
  | some j => rfl
  | none =>
      cases hcurrent : r.current with
      | some j => rfl
      | none =>
          constructor
          · rintro (hx | hx)
            · exact .inl hx
            · exact .inl (List.mem_toFinset.mp (mem_of_lowest hx))
          · rintro (hx | hx)
            · exact .inl hx
            · exact nomatch hx

theorem mem_of_brings (h : Brings x r e) : x ∈ (r.follow e).ids := by
  cases e with
  | added k => exact mem_follow_added.mpr (.inl h)
  | marked k =>
      obtain rfl := h
      exact Finset.mem_insert_self _ _
  | selected k =>
      obtain rfl := h
      exact Finset.mem_insert_self _ _
  | listed ids marked =>
      refine mem_follow_listed.mpr (h.imp_right fun hmarked => ?_)
      rw [hmarked]
      rfl
  | removed k => exact h.elim
  | lost => exact h.elim

/-- An inferior that comes anew is brought by the event. -/
theorem brings_of_mem (hx : x ∉ r.ids) (h : x ∈ (r.follow e).ids) : Brings x r e := by
  cases e with
  | added k => exact (mem_follow_added.mp h).resolve_right hx
  | marked k => exact ((Finset.mem_insert.mp h).resolve_right hx).symm
  | selected k => exact ((Finset.mem_insert.mp h).resolve_right hx).symm
  | listed ids marked =>
      refine (mem_follow_listed.mp h).imp_right fun hcurrent => ?_
      cases marked with
      | some j => exact hcurrent
      | none => exact absurd (r.tracked x hcurrent) hx
  | removed k => exact absurd (Finset.mem_of_mem_erase h) hx
  | lost => exact absurd h (Finset.notMem_empty x)

theorem takesAway_iff (hx : x ∈ r.ids) : TakesAway x r e ↔ x ∉ (r.follow e).ids := by
  cases e with
  | added k => exact iff_of_false id fun h => h (mem_follow_added.mpr (.inr hx))
  | marked k => exact iff_of_false id fun h => h (Finset.mem_insert_of_mem hx)
  | selected k => exact iff_of_false id fun h => h (Finset.mem_insert_of_mem hx)
  | listed ids marked => rw [mem_follow_listed, not_or, TakesAway]
  | removed k =>
      rw [TakesAway, follow, Finset.mem_erase, not_and_or, not_not]
      exact ⟨fun heq => .inl heq.symm, fun h => (h.resolve_right (not_not_intro hx)).symm⟩
  | lost => exact iff_of_true trivial (Finset.notMem_empty x)

/-- One of the events brings the inferior, and none behind it takes it away. -/
abbrev ComesBack (x : Int) (r : Roster) (events : List RosterEvent) : Prop :=
  Given follow (Brings x) (TakesAway x) r events

theorem mem_after_iff {events : List RosterEvent} (hx : x ∉ r.ids) : x ∈ (r.after events).ids ↔ ComesBack x r events :=
  foldl_iff_given (fun r : Roster => x ∈ r.ids) (fun _ _ => mem_of_brings) (fun _ _ => brings_of_mem)
    (fun _ _ => takesAway_iff) hx

/-- Behind its removal an inferior is known if and only if it comes back. -/
theorem mem_after_removed_iff (before behind : List RosterEvent) :
    x ∈ (r.after (before ++ .removed x :: behind)).ids ↔
      ComesBack x (r.after (before ++ [.removed x])) behind := by
  have hgone : x ∉ (r.after (before ++ [.removed x])).ids := by
    rw [after_append]
    exact Finset.notMem_erase x _
  rw [← mem_after_iff hgone, ← after_append, List.append_assoc, List.singleton_append]

end Roster
end GdbMcp
