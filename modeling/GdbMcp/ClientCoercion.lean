import GdbMcp.BaseHeap

/-! The retry of a validation by the command line client: where the schema wants a list and finds something else, that
is wrapped into a list of one item, in a copy of the payload, and the copy is validated again. -/

namespace GdbMcp

/-- An immutable value in a payload. -/
inductive PayloadScalar where
  | none
  | bool (b : Bool)
  | int (i : Int)
  | str (s : String)
  | other (repr : String)
  deriving DecidableEq, Repr

abbrev PayloadSlot := Slot PayloadScalar

/-- The mappings and lists that payloads are made of. -/
abbrev PayloadHeap := Heap String PayloadScalar

/-- A segment of the location of a validation error: a field, or a position in a list. -/
inductive LocSegment where
  | field (name : String)
  | position (index : Int)
  deriving DecidableEq, Repr

structure ValidationIssue where
  type : String
  loc : List LocSegment
  deriving DecidableEq, Repr

/-- The fields on the way of a location, without the action in front. A position in a list is none. -/
def normalizedPath (action : Option String) (path : List LocSegment) : Option (List String) :=
  match path with
  | [] => some []
  | .position _ :: _ => none
  | .field name :: rest => do
    let names ← rest.mapM fun
      | .field name => some name
      | .position _ => none
    return if action = some name then names else name :: names

/-- Follow fields from one mapping into the next. -/
def followFields (heap : PayloadHeap) : PayloadSlot → List String → Option PayloadSlot
  | current, [] => some current
  | .scalar _, _ :: _ => none
  | .ref address, segment :: rest => do
    let fields ← heap.fields? address
    match fields.lookup segment with
    | none | some (.scalar .none) => none
    | some next => followFields heap next rest

/-- Wrap the value at a location into a list, and say whether there was one to wrap. -/
def coerceSingleItemListPath (payload : Nat) (action : Option String) (path : List LocSegment) (heap : PayloadHeap) :
    Bool × PayloadHeap :=
  match normalizedPath action path with
  | none => (false, heap)
  | some names =>
    match names.getLast? with
    | none => (false, heap)
    | some leaf =>
      match followFields heap (.ref payload) names.dropLast with
      | some (.ref address) =>
        match (heap.fields address).lookup leaf with
        | none | some (.scalar .none) => (false, heap)
        | some existing =>
          if heap.isSequence existing then (false, heap)
          else
            let (heap, items) := heap.alloc (.sequence [existing])
            (true, heap.setField address leaf (.ref items))
      | _ => (false, heap)

/-- `changed = _coerce_single_item_list_path(…) or changed`. -/
def coerceIssue (payload : Nat) (action : Option String) (state : Bool × PayloadHeap) (issue : ValidationIssue) :
    Bool × PayloadHeap :=
  let coerced := coerceSingleItemListPath payload action issue.loc state.2
  (coerced.1 || state.1, coerced.2)

/-- Wrap at the locations of all issues, in their order. -/
def coerceAll (payload : Nat) (action : Option String) (issues : List ValidationIssue) (heap : PayloadHeap) :
    Bool × PayloadHeap :=
  issues.foldl (coerceIssue payload action) (false, heap)

/-- The action that a payload names. -/
def payloadAction (payload : Nat) (heap : PayloadHeap) : Option String :=
  match (heap.fields payload).lookup "action" with
  | some (.scalar (.str action)) => some action
  | _ => none

/-- The loop over the copy of a payload, for at most the given number of validations. -/
def retryValidation {α : Type} (validate : PayloadHeap → Nat → Except (List ValidationIssue) α) (candidate : Nat) :
    Nat → PayloadHeap → Option (Except (List ValidationIssue) α × PayloadHeap)
  | 0, _ => none
  | validations + 1, heap =>
    match validate heap candidate with
    | .ok value => some (.ok value, heap)
    | .error issues =>
      if issues.isEmpty || issues.any (·.type ≠ "list_type") then some (.error issues, heap)
      else
        match coerceAll candidate (payloadAction candidate heap) issues heap with
        | (true, heap) => retryValidation validate candidate validations heap
        | (false, heap) => some (.error issues, heap)

/-- Validate one payload, retrying by widening scalars into single-item lists when needed; `none` if the given number of
validations does not suffice. -/
def validateModelPayloadWithListCoercion {α : Type} (validate : PayloadHeap → Nat → Except (List ValidationIssue) α)
    (validations : Nat) (payload : Nat) (heap : PayloadHeap) : Option (Except (List ValidationIssue) α × PayloadHeap) :=
  let (heap, candidate) := heap.deepcopy payload
  retryValidation validate candidate validations heap

/-! ### What a step can do -/

/-- A value that can be wrapped: there is one, and it is no list. -/
def wrappable (heap : PayloadHeap) : PayloadSlot → Bool
  | .scalar .none => false
  | slot => !heap.isSequence slot

/-- The heap with the value of a field wrapped. -/
def wrapped (heap : PayloadHeap) (address : Nat) (leaf : String) (existing : PayloadSlot) : PayloadHeap :=
  (heap.alloc (.sequence [existing])).1.setField address leaf (.ref heap.length)

variable {heap heap' : PayloadHeap} {payload address : Nat} {leaf : String} {existing : PayloadSlot} {n : Nat}
  {action : Option String} {path : List LocSegment} {fields : List (String × PayloadSlot)}

theorem followFields_reaches {names : List String} {start : Nat}
    (h : followFields heap (.ref start) names = some (.ref address)) (hmapping : (heap.fields? address).isSome) :
    heap.Reaches start address := by
  induction names generalizing start with
  | nil =>
      obtain rfl := Slot.ref.inj (Option.some.inj h)
      exact .refl
  | cons segment rest ih =>
      rw [followFields] at h
      obtain ⟨fields, hfields, h⟩ := Option.bind_eq_some_iff.mp h
      split at h
      · exact nomatch h
      · exact nomatch h
      · rename_i next _ hlookup
        cases next with
        | scalar value => cases rest <;> exact nomatch h
        | ref c =>
            have hc : (heap.fields? c).isSome := by
              cases rest with
              | nil =>
                  obtain rfl := Slot.ref.inj (Option.some.inj h)
                  exact hmapping
              | cons _ _ =>
                  rw [followFields] at h
                  obtain ⟨_, hc, -⟩ := Option.bind_eq_some_iff.mp h
                  rw [hc]
                  rfl
            have hmem : (segment, Slot.ref c) ∈ heap.fields start := by
              rw [Heap.fields, hfields]
              exact Dict.mem_of_lookup hlookup
            exact .head ⟨⟨segment, hmem⟩, hc⟩ (ih h)

/-- A step leaves the heap alone, or wraps the value of a field that the payload leads to. -/
theorem coerce_cases (payload : Nat) (action : Option String) (path : List LocSegment) (heap : PayloadHeap) :
    coerceSingleItemListPath payload action path heap = (false, heap) ∨
      ∃ address fields leaf existing, heap.Reaches payload address ∧ heap.fields? address = some fields ∧
        fields.lookup leaf = some existing ∧ wrappable heap existing = true ∧
        coerceSingleItemListPath payload action path heap = (true, wrapped heap address leaf existing) := by
  unfold coerceSingleItemListPath
  split
  · exact .inl rfl
  rename_i names _
  split
  · exact .inl rfl
  rename_i leaf _
  split
  · rename_i address hfollow
    split
    · exact .inl rfl
    · exact .inl rfl
    · rename_i existing hnone hlookup
      split
      · exact .inl rfl
      · rename_i hsequence
        have hmapping : ∃ fields, heap.fields? address = some fields := by
          cases hfields : heap.fields? address with
          | some fields => exact ⟨fields, rfl⟩
          | none =>
              rw [Heap.fields, hfields] at hlookup
              cases hlookup
        obtain ⟨fields, hfields⟩ := hmapping
        refine .inr ⟨address, fields, leaf, existing, followFields_reaches hfollow (by rw [hfields]; rfl), hfields, ?_, ?_, rfl⟩
        · rwa [Heap.fields, hfields] at hlookup
        · have hopen : heap.isSequence existing = false := by simpa using hsequence
          cases existing with
          | ref _ => simp [wrappable, hopen]
          | scalar value =>
              cases value with
              | none => exact absurd rfl hnone
              | bool _ | int _ | str _ | other _ => rfl
  · exact .inl rfl

section Wrapped

variable (hfields : heap.fields? address = some fields)
include hfields

theorem fields?_wrapped (b : Nat) : (wrapped heap address leaf existing).fields? b =
    if b = address then some (Dict.set fields leaf (.ref heap.length)) else heap.fields? b := by
  have halloc : (heap.alloc (.sequence [existing])).1.fields? address = some fields := by
    rw [Heap.fields?_alloc_sequence, hfields]
  rw [wrapped, Heap.fields?_setField halloc, Heap.fields?_alloc_sequence]

theorem fields_wrapped (b : Nat) : (wrapped heap address leaf existing).fields b =
    if b = address then Dict.set fields leaf (.ref heap.length) else heap.fields b := by
  rw [Heap.fields, fields?_wrapped hfields, Heap.fields]
  split <;> rfl

theorem edge_wrapped {a b : Nat} (h : (wrapped heap address leaf existing).Edge a b) : heap.Edge a b := by
  obtain ⟨⟨key, hmem⟩, hmapping⟩ := h
  have hb : (heap.fields? b).isSome := by
    rw [fields?_wrapped hfields] at hmapping
    by_cases hb : b = address
    · rw [hb, hfields]
      rfl
    · rwa [if_neg hb] at hmapping
  rw [fields_wrapped hfields] at hmem
  by_cases ha : a = address
  · subst ha
    rw [if_pos rfl] at hmem
    rcases Dict.mem_set hmem with heq | hmem
    · -- The field that has been written holds the new list, which is no mapping.
      obtain rfl := Slot.ref.inj (Prod.mk.inj heq).2
      rw [Heap.fields?, List.getElem?_eq_none le_rfl] at hb
      cases hb
    · exact ⟨⟨key, by rwa [Heap.fields, hfields]⟩, hb⟩
  · rw [if_neg ha] at hmem
    exact ⟨⟨key, hmem⟩, hb⟩

theorem wrappable_wrapped {slot : PayloadSlot} (h : wrappable (wrapped heap address leaf existing) slot = true) :
    wrappable heap slot = true := by
  have halloc : (heap.alloc (.sequence [existing])).1.fields? address = some fields := by
    rw [Heap.fields?_alloc_sequence, hfields]
  cases slot with
  | scalar value => cases value <;> exact h
  | ref b =>
      simp only [wrappable, Bool.not_eq_true'] at h ⊢
      rw [wrapped, Heap.isSequence_setField halloc] at h
      by_contra hsequence
      rw [Heap.isSequence_alloc heap _ (by simpa using hsequence)] at h
      exact nomatch h

theorem not_wrappable_list : wrappable (wrapped heap address leaf existing) (.ref heap.length) = false := by
  have halloc : (heap.alloc (.sequence [existing])).1.fields? address = some fields := by
    rw [Heap.fields?_alloc_sequence, hfields]
  rw [wrappable, wrapped, Heap.isSequence_setField halloc, Heap.isSequence, Heap.alloc, List.getElem?_concat_length]
  · rfl
  · exact fun heq => by cases heq

theorem weight_wrapped {root : Nat} (hreaches : heap.Reaches root address) (hlookup : fields.lookup leaf = some existing)
    (hexisting : wrappable heap existing = true) :
    Heap.weight (wrappable (wrapped heap address leaf existing)) (wrapped heap address leaf existing) root <
      Heap.weight (wrappable heap) heap root := by
  have hclosed : ((Dict.set fields leaf (.ref heap.length)).countP fun field =>
      wrappable (wrapped heap address leaf existing) field.2) < fields.countP fun field => wrappable heap field.2 :=
    Heap.countP_set_lt (fun _ => wrappable_wrapped hfields) hlookup hexisting (not_wrappable_list hfields)
  have hat : heap.fields address = fields := by rw [Heap.fields, hfields]; rfl
  refine Heap.weight_lt (fun _ _ => edge_wrapped hfields) (fun a => ?_) hreaches ?_
  · rw [fields_wrapped hfields]
    by_cases ha : a = address
    · rw [if_pos ha, ha, hat]
      exact hclosed.le
    · rw [if_neg ha]
      exact List.countP_mono_left fun field _ => wrappable_wrapped hfields
  · rw [fields_wrapped hfields, if_pos rfl, hat]
    exact hclosed

end Wrapped

/-! ### The loop -/

/-- What the steps of the loop keep: the objects in front of an address are as they were, and the objects of the copy
behind it lead to none of them. -/
structure Apart (original heap : PayloadHeap) : Prop where
  length : original.length ≤ heap.length
  same : heap.take original.length = original
  confined : heap.Confined original.length

/-- The values that a payload leads to and that can be wrapped. -/
noncomputable def openEntries (heap : PayloadHeap) (payload : Nat) : Nat := Heap.weight (wrappable heap) heap payload

variable {original : PayloadHeap} {candidate : Nat}

theorem Apart.wrapped (h : Apart original heap) (hcandidate : original.length ≤ candidate)
    (hreaches : heap.Reaches candidate address) (hfields : heap.fields? address = some fields) :
    Apart original (wrapped heap address leaf existing) := by
  have haddress := h.confined.reaches hcandidate hreaches
  constructor
  · simp only [GdbMcp.wrapped, Heap.setField, Heap.alloc, List.length_set, List.length_append]
    exact h.length.trans (Nat.le_add_right _ _)
  · rw [GdbMcp.wrapped, Heap.take_setField haddress, Heap.take_alloc h.length, h.same]
  · exact fun a b ha hedge => h.confined a b ha (edge_wrapped hfields hedge)

/-- One step keeps the objects apart, and wrapping a value leaves fewer that can be wrapped. -/
theorem coerce_step (h : Apart original heap) (hcandidate : original.length ≤ candidate) (action : Option String)
    (path : List LocSegment) {changed : Bool}
    (hstep : coerceSingleItemListPath candidate action path heap = (changed, heap')) :
    Apart original heap' ∧ openEntries heap' candidate + changed.toNat ≤ openEntries heap candidate := by
  rcases coerce_cases candidate action path heap with
    hsame | ⟨address, fields, leaf, existing, hreaches, hfields, hlookup, hexisting, hwrapped⟩
  · obtain ⟨rfl, rfl⟩ := Prod.mk.inj (hstep.symm.trans hsame)
    exact ⟨h, le_rfl⟩
  · obtain ⟨rfl, rfl⟩ := Prod.mk.inj (hstep.symm.trans hwrapped)
    exact ⟨h.wrapped hcandidate hreaches hfields, weight_wrapped hfields hreaches hlookup hexisting⟩

/-- So do the steps for all issues, behind steps that have changed something or nothing. -/
theorem coerceAll_step (h : Apart original heap) (hcandidate : original.length ≤ candidate) (action : Option String)
    (issues : List ValidationIssue) (changed : Bool) {changed' : Bool}
    (hsteps : issues.foldl (coerceIssue candidate action) (changed, heap) = (changed', heap')) :
    Apart original heap' ∧ openEntries heap' candidate ≤ openEntries heap candidate ∧
      (changed' = true → changed = false → openEntries heap' candidate < openEntries heap candidate) := by
  induction issues generalizing heap changed with
  | nil =>
      obtain ⟨rfl, rfl⟩ := Prod.mk.inj hsteps
      exact ⟨h, le_rfl, fun htrue hfalse => absurd (htrue.symm.trans hfalse) Bool.noConfusion⟩
  | cons issue rest ih =>
      rw [List.foldl_cons] at hsteps
      rcases hstep : coerceSingleItemListPath candidate action issue.loc heap with ⟨wrapped, next⟩
      obtain ⟨hnext, hopen⟩ := coerce_step h hcandidate action issue.loc hstep
      rw [coerceIssue, hstep] at hsteps
      obtain ⟨hafter, hle, hlt⟩ := ih hnext _ hsteps
      refine ⟨hafter, hle.trans (by omega), fun htrue hfalse => ?_⟩
      cases wrapped with
      | true => exact hle.trans_lt (Nat.lt_of_succ_le hopen)
      | false =>
          rw [Bool.false_or] at hlt
          exact (hlt htrue hfalse).trans_le (by omega)

/-- Each round but the last wraps a value, so there are no more rounds than values to wrap, and one. -/
theorem retry_terminates {α : Type} (validate : PayloadHeap → Nat → Except (List ValidationIssue) α)
    (h : Apart original heap) (hcandidate : original.length ≤ candidate) {validations : Nat}
    (hvalidations : openEntries heap candidate < validations) :
    ∃ outcome after, retryValidation validate candidate validations heap = some (outcome, after) ∧
      after.take original.length = original := by
  induction validations generalizing heap with
  | zero => exact absurd hvalidations (Nat.not_lt_zero _)
  | succ validations ih =>
      rw [retryValidation]
      split
      · exact ⟨_, heap, rfl, h.same⟩
      · rename_i issues _
        split
        · exact ⟨_, heap, rfl, h.same⟩
        · rcases hsteps : coerceAll candidate (payloadAction candidate heap) issues heap with ⟨changed, next⟩
          obtain ⟨hnext, -, hlt⟩ := coerceAll_step h hcandidate _ issues false hsteps
          cases changed with
          | true => exact ih hnext ((hlt rfl rfl).trans_le (Nat.lt_succ_iff.mp hvalidations))
          | false => exact ⟨_, next, rfl, hnext.same⟩

/-- For every payload, whatever it shares and whatever cycles it has, and every validator, one validation more than the
payload has entries in mappings that it leads to through mappings are enough: the client returns or raises, and every
object that was there before, those of the payload among them, is as it was. -/
theorem list_coercion_terminates {α : Type} (validate : PayloadHeap → Nat → Except (List ValidationIssue) α)
    (payload : Nat) (heap : PayloadHeap) :
    ∃ outcome after, validateModelPayloadWithListCoercion validate (heap.entries payload + 1) payload heap =
      some (outcome, after) ∧ after.take heap.length = heap := by
  have hapart : Apart heap (heap.deepcopy payload).1 :=
    ⟨by rw [Heap.deepcopy, List.length_append]; exact Nat.le_add_right _ _, Heap.take_deepcopy heap payload,
      Heap.confined_deepcopy heap payload⟩
  have hentries : openEntries (heap.deepcopy payload).1 (heap.deepcopy payload).2 ≤ heap.entries payload :=
    (Heap.weight_le_entries _ _ _).trans (Heap.entries_deepcopy heap payload)
  exact retry_terminates validate hapart (Nat.le_add_left _ _) (Nat.lt_succ_of_le hentries)

/-- The schema wants lists for `a` and for `c` below `b`, one after the other. -/
example :
    let heap : PayloadHeap := [.mapping [("a", .scalar (.str "x")), ("b", .ref 1)], .mapping [("c", .scalar (.int 1))]]
    let wants := fun (heap : PayloadHeap) (candidate : Nat) =>
      match (heap.fields candidate).map (·.2), heap[4]?, heap[5]? with
      | [.ref 4, .ref 3], some _, some _ => Except.ok ()
      | [.scalar _, _], _, _ => .error [⟨"list_type", [.field "a"]⟩]
      | _, _, _ => .error [⟨"list_type", [.field "b", .field "c"]⟩]
    (validateModelPayloadWithListCoercion wants 3 0 heap).map (·.1) = some (.ok ()) := by rfl

end GdbMcp
