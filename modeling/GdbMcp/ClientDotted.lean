import GdbMcp.ClientAssign

/-! Runs of dotted assignments of strings. An assignment that raises leaves the mapping alone, the others change what
is at their path only; a path collects the values assigned to it, and assignments to unrelated paths commute. -/

namespace GdbMcp

open Eff

/-- The segments of a dotted path. -/
abbrev segments (path : String) : List String := PyStr.splitOn '.' path

/-- The mapping behind an assignment of a string, whether it raises or not. -/
def afterAssignment (fields : Mapping) (path value : String) : Mapping :=
  ((assignDottedValue path (.str value)).run fields).2

/-- The mapping that a sequence of assignments makes, each a path and its value. -/
def assignAll (assignments : List (String × String)) (fields : Mapping) : Mapping :=
  assignments.foldl (fun fields assignment => afterAssignment fields assignment.1 assignment.2) fields

def AssignmentRaises (fields : Mapping) (path value : String) : Prop :=
  ∃ error, ((assignDottedValue path (.str value)).run fields).1 = .error error

instance (fields : Mapping) (path value : String) : Decidable (AssignmentRaises fields path value) :=
  match h : ((assignDottedValue path (.str value)).run fields).1 with
  | .error error => isTrue ⟨error, h⟩
  | .ok () => isFalse fun ⟨_, herror⟩ => nomatch h.symm.trans herror

variable {fields : Mapping} {path value : String} {parts other : List String}

theorem assignment_cases (fields : Mapping) (path value : String) :
    (AssignmentRaises fields path value ∧ ¬Assignable fields (segments path) ∧
        afterAssignment fields path value = fields) ∨
      (¬AssignmentRaises fields path value ∧ Assignable fields (segments path) ∧
        ∀ other, nodeAt (afterAssignment fields path value) other =
          assigned fields (segments path) (.str value) other) := by
  have hspec : Assigns (segments path) (.str value) (assignParts path (.str value) (segments path)) fields :=
    assignParts_assigns path (by simp) (PyStr.splitOn_ne_nil '.' path) fields
  unfold Assigns wp at hspec
  unfold AssignmentRaises afterAssignment assignDottedValue
  rcases hrun : (assignParts path (.str value) (PyStr.splitOn '.' path)).run fields with ⟨error | _, after⟩
  · rw [hrun] at hspec
    exact .inl ⟨⟨error, rfl⟩, hspec.1, hspec.2⟩
  · rw [hrun] at hspec
    exact .inr ⟨fun ⟨_, herror⟩ => (nomatch herror), hspec.1, hspec.2⟩

theorem assignment_raises_iff : AssignmentRaises fields path value ↔ ¬Assignable fields (segments path) := by
  rcases assignment_cases fields path value with h | h
  · exact iff_of_true h.1 h.2.1
  · exact iff_of_false h.1 (not_not_intro h.2.1)

theorem nodeAt_afterAssignment (h : Assignable fields (segments path)) (other : List String) :
    nodeAt (afterAssignment fields path value) other = assigned fields (segments path) (.str value) other := by
  rcases assignment_cases fields path value with hcase | hcase
  · exact absurd h hcase.2.1
  · exact hcase.2.2 other

theorem afterAssignment_raised (h : ¬Assignable fields (segments path)) :
    afterAssignment fields path value = fields := by
  rcases assignment_cases fields path value with hcase | hcase
  · exact hcase.2.2
  · exact absurd hcase.2.1 h

/-! ### Unrelated paths -/

/-- Neither path leads through the other. -/
def Unrelated (parts other : List String) : Prop := ¬parts <+: other ∧ ¬other <+: parts

theorem Unrelated.symm (h : Unrelated parts other) : Unrelated other parts := ⟨h.2, h.1⟩

theorem Unrelated.ne_of_prefix {front : List String} (h : Unrelated parts other) (hfront : front <+: other) :
    front ≠ parts := by
  rintro rfl
  exact h.1 hfront

theorem assignable_afterAssignment (h : Assignable fields (segments path))
    (hparts : Unrelated (segments path) parts) :
    Assignable (afterAssignment fields path value) parts ↔ Assignable fields parts := by
  have henter : ∀ front, front <+: parts →
      (Enterable (nodeAt (afterAssignment fields path value) front) ↔ Enterable (nodeAt fields front)) := by
    intro front hfront
    rw [nodeAt_afterAssignment h, assigned, if_neg (hparts.ne_of_prefix hfront)]
    split
    · rename_i hbelow
      exact iff_of_true (.inr (.inr rfl)) (h.parents front hbelow (hparts.ne_of_prefix hfront))
    · rfl
  have hleaf : nodeAt (afterAssignment fields path value) parts = nodeAt fields parts := by
    rw [nodeAt_afterAssignment h, assigned, if_neg (hparts.ne_of_prefix (List.prefix_refl _)), if_neg hparts.2]
  constructor
  · intro hafter
    exact ⟨fun front hfront hne => (henter front hfront).mp (hafter.parents front hfront hne), hleaf ▸ hafter.leaf⟩
  · intro hbefore
    exact ⟨fun front hfront hne => (henter front hfront).mpr (hbefore.parents front hfront hne),
      by rw [hleaf]; exact hbefore.leaf⟩

theorem raises_afterAssignment {path' value' : String} (h : Unrelated (segments path) (segments path')) :
    AssignmentRaises (afterAssignment fields path value) path' value' ↔ AssignmentRaises fields path' value' := by
  rw [assignment_raises_iff, assignment_raises_iff, not_iff_not]
  by_cases hpath : Assignable fields (segments path)
  · exact assignable_afterAssignment hpath h
  · rw [afterAssignment_raised hpath]

theorem nodeAt_both {path' value' : String} (h : Unrelated (segments path) (segments path'))
    (hpath : Assignable fields (segments path)) (hpath' : Assignable fields (segments path')) (q : List String) :
    nodeAt (afterAssignment (afterAssignment fields path value) path' value') q =
      if q = segments path then some (.leaf (joined (nodeAt fields (segments path)) (.str value)))
      else if q = segments path' then some (.leaf (joined (nodeAt fields (segments path')) (.str value')))
      else if q <+: segments path ∨ q <+: segments path' then some .mapping
      else nodeAt fields q := by
  rw [nodeAt_afterAssignment ((assignable_afterAssignment hpath h).mpr hpath'), assigned,
    nodeAt_afterAssignment hpath, nodeAt_afterAssignment hpath, assigned, assigned,
    if_neg (h.ne_of_prefix (List.prefix_refl _)), if_neg h.2]
  by_cases hq : q = segments path
  · rw [if_pos hq, if_pos hq, if_neg, if_neg]
    · rw [hq]
      exact h.1
    · rw [hq]
      exact (h.ne_of_prefix (List.prefix_refl _)).symm
  · rw [if_neg hq, if_neg hq]
    by_cases hq' : q = segments path'
    · rw [if_pos hq', if_pos hq']
    · rw [if_neg hq', if_neg hq']
      by_cases hbelow : q <+: segments path <;> by_cases hbelow' : q <+: segments path' <;> simp [hbelow, hbelow']

theorem assignments_commute {path' value' : String} (h : Unrelated (segments path) (segments path')) (q : List String) :
    nodeAt (afterAssignment (afterAssignment fields path value) path' value') q =
      nodeAt (afterAssignment (afterAssignment fields path' value') path value) q := by
  by_cases hpath : Assignable fields (segments path) <;> by_cases hpath' : Assignable fields (segments path')
  · rw [nodeAt_both h hpath hpath', nodeAt_both h.symm hpath' hpath]
    by_cases hq : q = segments path
    · have hne : q ≠ segments path' := by
        rw [hq]
        exact (h.ne_of_prefix (List.prefix_refl _)).symm
      simp only [if_pos hq, if_neg hne]
    · simp only [if_neg hq, or_comm]
  · have hblocked : ¬Assignable (afterAssignment fields path value) (segments path') := fun hafter =>
      hpath' ((assignable_afterAssignment hpath h).mp hafter)
    rw [afterAssignment_raised hblocked, afterAssignment_raised hpath']
  · have hblocked : ¬Assignable (afterAssignment fields path' value') (segments path) := fun hafter =>
      hpath ((assignable_afterAssignment hpath' h.symm).mp hafter)
    rw [afterAssignment_raised hblocked, afterAssignment_raised hpath]
  · rw [afterAssignment_raised hpath, afterAssignment_raised hpath', afterAssignment_raised hpath]

/-! ### The values of a path -/

/-- The value that a mapping has at a path. -/
def leafAt (fields : Mapping) (parts : List String) : Option Value :=
  match nodeAt fields parts with
  | some (.leaf value) => some value
  | _ => none

/-- Several values are a list of them, a single one stands for itself. -/
def collected : List String → Option Value
  | [] => none
  | [value] => some (.str value)
  | values => some (.list (values.map .str))

/-- The values that a sequence of assignments has assigned to a path, in order. -/
def valuesAssigned (parts : List String) : Mapping → List (String × String) → List String
  | _, [] => []
  | fields, (path, value) :: rest =>
    (if segments path = parts ∧ ¬AssignmentRaises fields path value then [value] else []) ++
      valuesAssigned parts (afterAssignment fields path value) rest

theorem collected_ne_none (values : List String) : collected values ≠ some .none := by
  rcases values with _ | ⟨first, _ | ⟨second, rest⟩⟩ <;> simp [collected]

theorem leafAt_eq_some {v : Value} : leafAt fields parts = some v ↔ nodeAt fields parts = some (.leaf v) := by
  unfold leafAt
  split <;> simp_all

theorem joined_collected {values : List String} (h : leafAt fields parts = collected values)
    (hleaf : nodeAt fields parts ≠ some .mapping) (value : String) :
    some (joined (nodeAt fields parts) (.str value)) = collected (values ++ [value]) := by
  rcases values with _ | ⟨first, _ | ⟨second, rest⟩⟩
  · unfold leafAt at h
    split at h
    · exact nomatch h
    · rename_i hnone
      cases hnode : nodeAt fields parts with
      | none => rfl
      | some node =>
          cases node with
          | mapping => exact absurd hnode hleaf
          | leaf v => exact absurd hnode (hnone v)
  · rw [leafAt_eq_some.mp h]
    rfl
  · rw [leafAt_eq_some.mp h]
    simp [joined, collected]

/-- One assignment adds its value to those of its path and leaves the values of the others. -/
theorem leafAt_afterAssignment {values : List String} (h : leafAt fields parts = collected values)
    (path value : String) :
    leafAt (afterAssignment fields path value) parts =
      collected (values ++ if segments path = parts ∧ ¬AssignmentRaises fields path value then [value] else []) := by
  by_cases hpath : Assignable fields (segments path)
  · have hreturns : ¬AssignmentRaises fields path value := by
      rw [assignment_raises_iff]
      exact not_not_intro hpath
    rw [leafAt, nodeAt_afterAssignment hpath, assigned]
    by_cases hparts : segments path = parts
    · rw [if_pos hparts.symm, if_pos ⟨hparts, hreturns⟩, hparts]
      exact joined_collected h (hparts ▸ hpath.leaf) value
    · have hother : ¬(segments path = parts ∧ ¬AssignmentRaises fields path value) := fun hc => hparts hc.1
      rw [if_neg (Ne.symm hparts), if_neg hother, List.append_nil, ← h]
      by_cases hbelow : parts <+: segments path
      · rw [if_pos hbelow]
        -- A path through this one has been assigned, so no value was here.
        rcases hpath.parents parts hbelow (Ne.symm hparts) with hnode | hnode | hnode
        · simp [leafAt, hnode]
        · exact absurd (h.symm.trans (leafAt_eq_some.mpr hnode)) (collected_ne_none values)
        · simp [leafAt, hnode]
      · rw [if_neg hbelow, leafAt]
  · rw [afterAssignment_raised hpath, if_neg fun hc => hc.2 (assignment_raises_iff.mpr hpath), List.append_nil, h]

theorem leafAt_assignAll (assignments : List (String × String)) {values : List String}
    (h : leafAt fields parts = collected values) :
    leafAt (assignAll assignments fields) parts = collected (values ++ valuesAssigned parts fields assignments) := by
  induction assignments generalizing fields values with
  | nil => simpa [assignAll, valuesAssigned] using h
  | cons assignment rest ih =>
      have hstep := leafAt_afterAssignment h assignment.1 assignment.2
      rw [valuesAssigned, ← List.append_assoc]
      exact ih hstep

theorem assignable_again (h : Assignable fields (segments path)) :
    Assignable (afterAssignment fields path value) (segments path) := by
  constructor
  · intro front hfront hne
    rw [nodeAt_afterAssignment h, assigned, if_neg hne, if_pos hfront]
    exact .inr (.inr rfl)
  · rw [nodeAt_afterAssignment h, assigned, if_pos rfl]
    simp

theorem valuesAssigned_same (h : Assignable fields (segments path)) (values : List String) :
    valuesAssigned (segments path) fields (values.map (path, ·)) = values := by
  induction values generalizing fields with
  | nil => rfl
  | cons value rest ih =>
      have hreturns : ¬AssignmentRaises fields path value := by
        rw [assignment_raises_iff]
        exact not_not_intro h
      rw [List.map_cons, valuesAssigned, if_pos ⟨rfl, hreturns⟩, ih (assignable_again h), List.singleton_append]

/-- An assignment changes nothing but the value at its path. The mappings on the way to it that are missing are made. -/
structure ChangesOnly (fields after : Mapping) (parts : List String) : Prop where
  others : ∀ path, ¬path <+: parts → nodeAt after path = nodeAt fields path
  parents : ∀ front, front <+: parts → front ≠ parts →
    (nodeAt fields front = none ∨ nodeAt fields front = some .mapping) ∧ nodeAt after front = some .mapping
  value : ∃ v, nodeAt after parts = some (.leaf v)

theorem changesOnly_afterAssignment (h : Assignable fields (segments path))
    (hvalues : ∀ front, leafAt fields front ≠ some .none) :
    ChangesOnly fields (afterAssignment fields path value) (segments path) := by
  constructor
  · intro other hother
    have hne : other ≠ segments path := by
      rintro rfl
      exact hother (List.prefix_refl _)
    rw [nodeAt_afterAssignment h, assigned, if_neg hne, if_neg hother]
  · intro front hfront hne
    rw [nodeAt_afterAssignment h, assigned, if_neg hne, if_pos hfront]
    rcases h.parents front hfront hne with hnode | hnode | hnode
    · exact ⟨.inl hnode, rfl⟩
    · exact absurd (leafAt_eq_some.mpr hnode) (hvalues front)
    · exact ⟨.inr hnode, rfl⟩
  · rw [nodeAt_afterAssignment h, assigned, if_pos rfl]
    exact ⟨_, rfl⟩

/-- The mapping that a sequence of assignments makes of the empty one. -/
abbrev madeBy (earlier : List (String × String)) : Mapping := assignAll earlier []

theorem leafAt_madeBy (earlier : List (String × String)) (parts : List String) (hparts : parts ≠ []) :
    leafAt (madeBy earlier) parts = collected (valuesAssigned parts [] earlier) := by
  have hempty : leafAt [] parts = collected [] := by
    rw [leafAt, nodeAt_nothing parts hparts]
    rfl
  exact leafAt_assignAll earlier hempty

/-- In every mapping that earlier assignments have made, an assignment raises and leaves the mapping as it is, or it
changes the value at its path only. A path that can be assigned collects the values assigned to it, in order. Two
assignments to unrelated paths raise and do the same in both orders, up to the order of the fields. -/
theorem dotted_assignment_local (earlier : List (String × String)) (path value : String) :
    ((¬Assignable (madeBy earlier) (segments path) ∧
        ∃ error, (assignDottedValue path (.str value)).run (madeBy earlier) = (.error error, madeBy earlier)) ∨
      (Assignable (madeBy earlier) (segments path) ∧
        ∃ after, (assignDottedValue path (.str value)).run (madeBy earlier) = (.ok (), after) ∧
          ChangesOnly (madeBy earlier) after (segments path))) ∧
    (Assignable (madeBy earlier) (segments path) → ∀ values : List String,
      leafAt (assignAll (values.map (path, ·)) (madeBy earlier)) (segments path) =
        collected (valuesAssigned (segments path) [] earlier ++ values)) ∧
    ∀ path' value', Unrelated (segments path) (segments path') →
      (AssignmentRaises (afterAssignment (madeBy earlier) path value) path' value' ↔
        AssignmentRaises (madeBy earlier) path' value') ∧
      (AssignmentRaises (afterAssignment (madeBy earlier) path' value') path value ↔
        AssignmentRaises (madeBy earlier) path value) ∧
      ∀ q, nodeAt (afterAssignment (afterAssignment (madeBy earlier) path value) path' value') q =
        nodeAt (afterAssignment (afterAssignment (madeBy earlier) path' value') path value) q := by
  have hne : segments path ≠ [] := PyStr.splitOn_ne_nil '.' path
  refine ⟨?_, fun hpath values => ?_, fun path' value' h => ?_⟩
  · rcases assignment_cases (madeBy earlier) path value with ⟨⟨error, hraises⟩, hblocked, hsame⟩ | ⟨hreturns, hpath, _⟩
    · exact .inl ⟨hblocked, error, Prod.ext hraises hsame⟩
    · refine .inr ⟨hpath, afterAssignment (madeBy earlier) path value, Prod.ext ?_ rfl, ?_⟩
      · cases hrun : ((assignDottedValue path (.str value)).run (madeBy earlier)).1 with
        | ok => rfl
        | error error => exact absurd ⟨error, hrun⟩ hreturns
      · refine changesOnly_afterAssignment hpath fun front hleaf => ?_
        cases front with
        | nil => exact nomatch leafAt_eq_some.mp hleaf
        | cons segment rest =>
            rw [leafAt_madeBy earlier _ (List.cons_ne_nil _ _)] at hleaf
            exact collected_ne_none _ hleaf
  · rw [leafAt_assignAll _ (leafAt_madeBy earlier _ hne), valuesAssigned_same hpath]
  · exact ⟨raises_afterAssignment h, raises_afterAssignment h.symm, assignments_commute h⟩

example : leafAt (madeBy [("a.b", "1"), ("a", "2"), ("a.b", "3"), ("a.b.c", "4")]) ["a", "b"] =
    some (.list [.str "1", .str "3"]) := by rfl

end GdbMcp
