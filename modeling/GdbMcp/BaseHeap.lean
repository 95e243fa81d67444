import GdbMcp.BaseDict
import Mathlib.Algebra.BigOperators.Group.Finset.Basic
import Mathlib.Algebra.Group.Embedding
import Mathlib.Algebra.Order.BigOperators.Group.Finset
import Mathlib.Logic.Relation

/-! Objects that refer to each other by address: mappings and sequences, which may be shared and may form cycles. Deep
copies leave the objects that were there alone, and a weight on the fields that can be reached from an object bounds how
often fields can be closed. Nothing here refers to a particular program. -/

namespace GdbMcp

/-- What a field or an item holds: a scalar, or the address of an object. -/
inductive Slot (α : Type) where
  | scalar (a : α)
  | ref (address : Nat)

inductive Object (κ α : Type) where
  | mapping (fields : List (κ × Slot α))
  | sequence (items : List (Slot α))

/-- The objects, at the addresses from zero on. -/
abbrev Heap (κ α : Type) := List (Object κ α)

def Slot.shift {α : Type} (n : Nat) : Slot α → Slot α
  | .scalar a => .scalar a
  | .ref address => .ref (address + n)

def Object.shift {κ α : Type} (n : Nat) : Object κ α → Object κ α
  | .mapping fields => .mapping (fields.map fun field => (field.1, field.2.shift n))
  | .sequence items => .sequence (items.map (Slot.shift n))

namespace Heap

variable {κ α : Type}

/-- The fields of a mapping. -/
def fields? (heap : Heap κ α) (address : Nat) : Option (List (κ × Slot α)) :=
  match heap[address]? with
  | some (.mapping fields) => some fields
  | _ => none

def fields (heap : Heap κ α) (address : Nat) : List (κ × Slot α) := (heap.fields? address).getD []

def isSequence (heap : Heap κ α) : Slot α → Bool
  | .scalar _ => false
  | .ref address =>
    match heap[address]? with
    | some (.sequence _) => true
    | _ => false

/-- A new object, and its address. -/
def alloc (heap : Heap κ α) (object : Object κ α) : Heap κ α × Nat := (heap ++ [object], heap.length)

/-- Copies of all objects, with references among themselves as the objects have them. -/
def deepcopy (heap : Heap κ α) (address : Nat) : Heap κ α × Nat :=
  (heap ++ heap.map (Object.shift heap.length), address + heap.length)

/-- `d[key] = slot` for the mapping at an address. -/
def setField [BEq κ] (heap : Heap κ α) (address : Nat) (key : κ) (slot : Slot α) : Heap κ α :=
  heap.set address (.mapping (Dict.set (heap.fields address) key slot))

/-- A field of one mapping holds another mapping. -/
def Edge (heap : Heap κ α) (a b : Nat) : Prop := (∃ key, (key, Slot.ref b) ∈ heap.fields a) ∧ (heap.fields? b).isSome

/-- An object can be reached through mappings. -/
def Reaches (heap : Heap κ α) : Nat → Nat → Prop := Relation.ReflTransGen heap.Edge

section Reached

/-- The objects that can be reached from an address through mappings. -/
noncomputable def reached (heap : Heap κ α) (root : Nat) : Finset Nat :=
  letI := Classical.decPred fun a => heap.Reaches root a
  (Finset.range heap.length).filter fun a => heap.Reaches root a

/-- How many fields of a kind can be reached. -/
noncomputable def weight (kind : Slot α → Bool) (heap : Heap κ α) (root : Nat) : Nat :=
  ∑ a ∈ heap.reached root, (heap.fields a).countP fun field => kind field.2

/-- How many fields can be reached. -/
noncomputable def entries (heap : Heap κ α) (root : Nat) : Nat := ∑ a ∈ heap.reached root, (heap.fields a).length

variable {heap heap' : Heap κ α} {kind kind' : Slot α → Bool} {root a b c n : Nat}

theorem mem_reached : a ∈ heap.reached root ↔ a < heap.length ∧ heap.Reaches root a := by
  simp only [reached, Finset.mem_filter, Finset.mem_range]

theorem fields_of_le (h : heap.length ≤ a) : heap.fields a = [] := by
  rw [fields, fields?, List.getElem?_eq_none h]
  rfl

theorem reaches_mono (hedge : ∀ a b, heap'.Edge a b → heap.Edge a b) (h : heap'.Reaches root a) : heap.Reaches root a :=
  Relation.ReflTransGen.mono hedge _ _ h

/-- Where a change leaves fields, there were objects. -/
theorem mem_reached_of_countP {p : κ × Slot α → Bool} (hedge : ∀ a b, heap'.Edge a b → heap.Edge a b)
    (hfields : (heap'.fields a).countP p ≤ (heap.fields a).countP fun field => kind field.2)
    (ha : a ∈ heap'.reached root) (hne : (heap'.fields a).countP p ≠ 0) : a ∈ heap.reached root := by
  refine mem_reached.mpr ⟨?_, reaches_mono hedge (mem_reached.mp ha).2⟩
  by_contra hle
  rw [fields_of_le (not_lt.mp hle), List.countP_nil] at hfields
  exact hne (Nat.le_zero.mp hfields)

section Weight

variable (hedge : ∀ a b, heap'.Edge a b → heap.Edge a b)
  (hfields : ∀ a, ((heap'.fields a).countP fun field => kind' field.2) ≤ (heap.fields a).countP fun field => kind field.2)
include hedge hfields

theorem weight_le_sum : weight kind' heap' root ≤
    ∑ a ∈ heap.reached root, (heap'.fields a).countP fun field => kind' field.2 := by
  rw [weight]
  refine Finset.sum_le_sum_of_ne_zero fun a ha hne => ?_
  exact mem_reached_of_countP hedge (hfields a) ha hne

/-- A change that makes no new way between objects and no new field of the kind, and closes one that can be reached,
takes from the weight. -/
theorem weight_lt (hc : heap.Reaches root c)
    (hless : ((heap'.fields c).countP fun field => kind' field.2) < (heap.fields c).countP fun field => kind field.2) :
    weight kind' heap' root < weight kind heap root := by
  have hlt : c < heap.length := by
    by_contra hle
    rw [fields_of_le (not_lt.mp hle), List.countP_nil] at hless
    exact absurd hless (Nat.not_lt_zero _)
  refine (weight_le_sum hedge hfields).trans_lt (Finset.sum_lt_sum (fun a _ => hfields a) ?_)
  exact ⟨c, mem_reached.mpr ⟨hlt, hc⟩, hless⟩

end Weight

/-! ### Deep copies -/

theorem weight_le_entries (kind : Slot α → Bool) (heap : Heap κ α) (root : Nat) : weight kind heap root ≤ heap.entries root :=
  Finset.sum_le_sum fun _ _ => List.countP_le_length

/-- The objects from an address on refer to none in front of it. -/
def Confined (n : Nat) (heap : Heap κ α) : Prop := ∀ a b, n ≤ a → heap.Edge a b → n ≤ b

theorem take_deepcopy (heap : Heap κ α) (root : Nat) : (heap.deepcopy root).1.take heap.length = heap :=
  List.take_left

theorem fields?_deepcopy (heap : Heap κ α) (root a : Nat) :
    (heap.deepcopy root).1.fields? (a + heap.length) =
      (heap.fields? a).map fun fields => fields.map fun field => (field.1, field.2.shift heap.length) := by
  rw [fields?, deepcopy, List.getElem?_append_right (Nat.le_add_left _ _), Nat.add_sub_cancel, List.getElem?_map, fields?]
  cases heap[a]? with
  | none => rfl
  | some object => cases object <;> rfl

theorem fields_deepcopy (heap : Heap κ α) (root a : Nat) :
    (heap.deepcopy root).1.fields (a + heap.length) =
      (heap.fields a).map fun field => (field.1, field.2.shift heap.length) := by
  rw [fields, fields?_deepcopy, fields]
  cases heap.fields? a <;> rfl

theorem edge_deepcopy : (heap.deepcopy root).1.Edge (a + heap.length) b ↔ ∃ b', b = b' + heap.length ∧ heap.Edge a b' := by
  simp only [Edge, fields_deepcopy, List.mem_map, Prod.mk.injEq]
  constructor
  · rintro ⟨⟨key, ⟨key', slot⟩, hmem, rfl, hslot⟩, hmapping⟩
    cases slot with
    | scalar _ => exact nomatch hslot
    | ref b' =>
        obtain rfl := Slot.ref.inj hslot
        rw [fields?_deepcopy, Option.isSome_map] at hmapping
        exact ⟨b', rfl, ⟨key', hmem⟩, hmapping⟩
  · rintro ⟨b', rfl, ⟨key, hmem⟩, hmapping⟩
    exact ⟨⟨key, (key, .ref b'), hmem, rfl, rfl⟩, by rwa [fields?_deepcopy, Option.isSome_map]⟩

theorem reaches_deepcopy (h : (heap.deepcopy root).1.Reaches (heap.deepcopy root).2 b) :
    ∃ b', b = b' + heap.length ∧ heap.Reaches root b' := by
  induction h with
  | refl => exact ⟨root, rfl, .refl⟩
  | tail _ hedge ih =>
      obtain ⟨a, rfl, ha⟩ := ih
      obtain ⟨b', rfl, hb⟩ := edge_deepcopy.mp hedge
      exact ⟨b', rfl, ha.tail hb⟩

/-- A copy has no more entries than its original. -/
theorem entries_deepcopy (heap : Heap κ α) (root : Nat) :
    (heap.deepcopy root).1.entries (heap.deepcopy root).2 ≤ heap.entries root := by
  have hsubset : (heap.deepcopy root).1.reached (heap.deepcopy root).2 ⊆
      (heap.reached root).map (addRightEmbedding heap.length) := by
    intro b hb
    obtain ⟨hlt, hreaches⟩ := mem_reached.mp hb
    obtain ⟨a, rfl, ha⟩ := reaches_deepcopy hreaches
    rw [deepcopy, List.length_append, List.length_map] at hlt
    exact Finset.mem_map_of_mem _ (mem_reached.mpr ⟨by omega, ha⟩)
  calc (heap.deepcopy root).1.entries (heap.deepcopy root).2
      ≤ ∑ b ∈ (heap.reached root).map (addRightEmbedding heap.length), ((heap.deepcopy root).1.fields b).length :=
        Finset.sum_le_sum_of_subset hsubset
    _ = ∑ a ∈ heap.reached root, ((heap.deepcopy root).1.fields (a + heap.length)).length := Finset.sum_map _ _ _
    _ = heap.entries root := Finset.sum_congr rfl fun a _ => by rw [fields_deepcopy, List.length_map]

theorem confined_deepcopy (heap : Heap κ α) (root : Nat) : (heap.deepcopy root).1.Confined heap.length := by
  intro a b ha hedge
  obtain ⟨a', rfl⟩ := Nat.exists_eq_add_of_le' ha
  obtain ⟨b', rfl, -⟩ := edge_deepcopy.mp hedge
  exact Nat.le_add_left _ _

theorem Confined.reaches (h : heap.Confined n) (ha : n ≤ a) (hreaches : heap.Reaches a b) : n ≤ b := by
  induction hreaches with
  | refl => exact ha
  | tail _ hedge ih => exact h _ _ ih hedge

/-! ### Writes -/

theorem take_alloc (hn : n ≤ heap.length) (object : Object κ α) : (heap.alloc object).1.take n = heap.take n :=
  List.take_append_of_le_length hn

theorem take_setField [BEq κ] (ha : n ≤ a) (key : κ) (slot : Slot α) : (heap.setField a key slot).take n = heap.take n :=
  List.take_set_of_le ha

theorem fields?_alloc_sequence (heap : Heap κ α) (items : List (Slot α)) (a : Nat) :
    (heap.alloc (.sequence items)).1.fields? a = heap.fields? a := by
  rw [fields?, alloc, fields?]
  rcases lt_trichotomy a heap.length with hlt | rfl | hlt
  · rw [List.getElem?_append_left hlt]
  · rw [List.getElem?_concat_length, List.getElem?_eq_none le_rfl]
  · rw [List.getElem?_eq_none (by rw [List.length_append]; exact hlt), List.getElem?_eq_none hlt.le]

theorem isSequence_alloc (heap : Heap κ α) (object : Object κ α) {slot : Slot α} (h : heap.isSequence slot = true) :
    (heap.alloc object).1.isSequence slot = true := by
  cases slot with
  | scalar _ => exact nomatch h
  | ref a =>
      have hlt : a < heap.length := by
        by_contra hle
        rw [isSequence, List.getElem?_eq_none (not_lt.mp hle)] at h
        exact nomatch h
      rw [isSequence, alloc, List.getElem?_append_left hlt]
      exact h

section Fields

variable [BEq κ] {key : κ} {slot slot' : Slot α} {d : List (κ × Slot α)}

theorem getElem?_setField (h : heap.fields? a = some d) (b : Nat) :
    (heap.setField a key slot)[b]? = if b = a then some (.mapping (Dict.set d key slot)) else heap[b]? := by
  have hlt : a < heap.length := by
    by_contra hle
    rw [fields?, List.getElem?_eq_none (not_lt.mp hle)] at h
    exact nomatch h
  rw [setField, List.getElem?_set, fields, h]
  by_cases hb : b = a
  · rw [if_pos hb.symm, if_pos hb, if_pos hlt]
    rfl
  · rw [if_neg (Ne.symm hb), if_neg hb]

theorem fields?_setField (h : heap.fields? a = some d) (b : Nat) :
    (heap.setField a key slot).fields? b = if b = a then some (Dict.set d key slot) else heap.fields? b := by
  rw [fields?, getElem?_setField h, fields?]
  by_cases hb : b = a
  · rw [if_pos hb, if_pos hb]
  · rw [if_neg hb, if_neg hb]

theorem isSequence_setField (h : heap.fields? a = some d) (slot' : Slot α) :
    (heap.setField a key slot).isSequence slot' = heap.isSequence slot' := by
  cases slot' with
  | scalar _ => rfl
  | ref b =>
      rw [isSequence, getElem?_setField h, isSequence]
      by_cases hb : b = a
      · subst hb
        unfold fields? at h
        split at h
        · rename_i hmapping
          rw [if_pos rfl, hmapping]
        · exact nomatch h
      · rw [if_neg hb]

/-- A write that closes a field leaves fewer open ones. -/
theorem countP_set_lt [LawfulBEq κ] (hkind : ∀ slot, kind' slot = true → kind slot = true)
    (h : d.lookup key = some slot) (hslot : kind slot = true) (hslot' : kind' slot' = false) :
    ((Dict.set d key slot').countP fun field => kind' field.2) < d.countP fun field => kind field.2 := by
  induction d with
  | nil => exact nomatch h
  | cons field rest ih =>
      rw [Dict.lookup_cons] at h
      rw [Dict.set]
      by_cases hkey : key = field.1
      · subst hkey
        rw [if_pos (beq_self_eq_true _)] at h
        rw [if_pos (beq_self_eq_true _), List.countP_cons_of_neg (by simp [hslot']),
          List.countP_cons_of_pos (by rw [Option.some.inj h]; exact hslot)]
        exact Nat.lt_succ_of_le (List.countP_mono_left fun field _ => hkind field.2)
      · rw [if_neg (by simpa using hkey)] at h
        rw [if_neg (by simpa using Ne.symm hkey), List.countP_cons, List.countP_cons]
        have hhead : (if kind' field.2 = true then 1 else 0) ≤ if kind field.2 = true then 1 else 0 := by
          by_cases hfield : kind' field.2 = true
          · rw [if_pos hfield, if_pos (hkind _ hfield)]
          · rw [if_neg hfield]
            exact Nat.zero_le _
        exact Nat.add_lt_add_of_lt_of_le (ih h) hhead

end Fields

end Reached

end Heap
end GdbMcp
