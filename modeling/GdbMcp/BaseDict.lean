import Mathlib.Data.List.Basic
import Mathlib.Data.List.Nodup

/-! Mappings that keep the order in which their keys were first set, as lists of fields. Nothing here refers to a
particular type of keys or values. -/

namespace GdbMcp
namespace Dict

variable {κ α : Type} [BEq κ] [LawfulBEq κ]

def keys (d : List (κ × α)) : List κ := d.map (·.1)

/-- `d[key] = value`. -/
def set : List (κ × α) → κ → α → List (κ × α)
  | [], key, value => [(key, value)]
  | field :: rest, key, value => if field.1 == key then (key, value) :: rest else field :: set rest key value

/-- `d.pop(key, None)`. -/
def erase (d : List (κ × α)) (key : κ) : List (κ × α) := d.filter (·.1 != key)

/-- `d.setdefault(key, value)`. -/
def setDefault (d : List (κ × α)) (key : κ) (value : α) : List (κ × α) :=
  if (keys d).elem key then d else d ++ [(key, value)]

/-- The mapping `d` with all fields of another one. -/
def update (d d' : List (κ × α)) : List (κ × α) := d'.foldl (fun d field => set d field.1 field.2) d

/-- Every key has one field. -/
def Distinct (d : List (κ × α)) : Prop := (keys d).Nodup

variable {d d' : List (κ × α)} {key key' : κ} {value value' : α} {field : κ × α}

omit [LawfulBEq κ] in
theorem lookup_cons (field : κ × α) (d : List (κ × α)) (key : κ) :
    (field :: d).lookup key = if key == field.1 then some field.2 else d.lookup key := by
  rw [List.lookup_cons]
  cases key == field.1 <;> rfl

theorem mem_of_lookup (h : d.lookup key = some value) : (key, value) ∈ d := by
  induction d with
  | nil => exact nomatch h
  | cons field rest ih =>
      rw [lookup_cons] at h
      split at h
      · rename_i hkey
        obtain rfl := Option.some.inj h
        rw [eq_of_beq hkey]
        exact List.mem_cons_self
      · exact List.mem_cons_of_mem _ (ih h)

theorem lookup_of_mem (hd : Distinct d) (h : (key, value) ∈ d) : d.lookup key = some value := by
  induction d with
  | nil => exact nomatch h
  | cons field rest ih =>
      rw [Distinct, keys, List.map_cons, List.nodup_cons] at hd
      rw [lookup_cons]
      rcases List.mem_cons.mp h with rfl | hrest
      · rw [if_pos (beq_self_eq_true _)]
      · rw [if_neg, ih hd.2 hrest]
        intro hkey
        rw [eq_of_beq hkey] at hrest
        exact hd.1 (List.mem_map_of_mem (f := (·.1)) hrest)

theorem lookup_eq_none : d.lookup key = none ↔ key ∉ keys d := by
  induction d with
  | nil => simp [keys]
  | cons field rest ih =>
      rw [lookup_cons, keys, List.map_cons, List.mem_cons, not_or]
      split
      · rename_i hkey
        simp [eq_of_beq hkey]
      · rename_i hkey
        rw [ih, keys]
        exact ⟨fun h => ⟨fun heq => hkey (by rw [heq]; exact beq_self_eq_true _), h⟩, fun h => h.2⟩

theorem exists_lookup (h : key ∈ keys d) : ∃ value, d.lookup key = some value := by
  cases hlookup : d.lookup key with
  | none => exact absurd h (lookup_eq_none.mp hlookup)
  | some value => exact ⟨value, rfl⟩

theorem mem_keys_of_lookup (h : d.lookup key = some value) : key ∈ keys d :=
  List.mem_map_of_mem (f := (·.1)) (mem_of_lookup h)

@[simp] theorem lookup_set (d : List (κ × α)) (key : κ) (value : α) (key' : κ) :
    (set d key value).lookup key' = if key' == key then some value else d.lookup key' := by
  induction d with
  | nil => rw [set, lookup_cons]
  | cons field rest ih =>
      rw [set]
      split
      · rename_i hkey
        rw [lookup_cons, lookup_cons, eq_of_beq hkey]
        split <;> rfl
      · rename_i hkey
        rw [lookup_cons, lookup_cons, ih]
        split
        · rename_i hkey'
          rw [if_neg]
          intro heq
          exact hkey (by rw [← eq_of_beq hkey', eq_of_beq heq]; exact beq_self_eq_true _)
        · rfl

@[simp] theorem lookup_erase (d : List (κ × α)) (key key' : κ) :
    (erase d key).lookup key' = if key' == key then none else d.lookup key' := by
  induction d with
  | nil => simp [erase]
  | cons field rest ih =>
      rw [erase] at ih ⊢
      by_cases hkey : field.1 = key
      · rw [List.filter_cons_of_neg (by simp [hkey]), ih, lookup_cons, hkey]
        split <;> simp_all
      · rw [List.filter_cons_of_pos (by simpa using hkey), lookup_cons, lookup_cons, ih]
        split
        · rename_i hkey'
          rw [if_neg]
          intro heq
          exact hkey ((eq_of_beq hkey').symm.trans (eq_of_beq heq))
        · rfl

omit [LawfulBEq κ] in
theorem mem_set (h : field ∈ set d key value) : field = (key, value) ∨ field ∈ d := by
  induction d with
  | nil => exact .inl (List.mem_singleton.mp h)
  | cons head rest ih =>
      rw [set] at h
      split at h
      · exact (List.mem_cons.mp h).imp_right (List.mem_cons_of_mem _)
      · rcases List.mem_cons.mp h with rfl | hrest
        · exact .inr List.mem_cons_self
        · exact (ih hrest).imp_right (List.mem_cons_of_mem _)

omit [LawfulBEq κ] in
theorem mem_set_self (d : List (κ × α)) (key : κ) (value : α) : (key, value) ∈ set d key value := by
  induction d with
  | nil => exact List.mem_singleton.mpr rfl
  | cons field rest ih =>
      rw [set]
      split
      · exact List.mem_cons_self
      · exact List.mem_cons_of_mem _ ih

theorem mem_set_of_ne (h : field.1 ≠ key) : field ∈ set d key value ↔ field ∈ d := by
  induction d with
  | nil =>
      rw [set, List.mem_singleton]
      exact ⟨fun heq => absurd (congrArg Prod.fst heq) h, fun hmem => (by cases hmem)⟩
  | cons head rest ih =>
      rw [set]
      split
      · rename_i hkey
        rw [List.mem_cons, List.mem_cons]
        refine or_congr_left ⟨fun heq => absurd (congrArg Prod.fst heq) h, fun heq => ?_⟩
        rw [heq] at h
        exact absurd (eq_of_beq hkey) h
      · rw [List.mem_cons, List.mem_cons, ih]

theorem mem_erase : field ∈ erase d key ↔ field ∈ d ∧ field.1 ≠ key := by
  rw [erase, List.mem_filter, bne_iff_ne]

omit [LawfulBEq κ] in
theorem mem_update (h : field ∈ update d d') : field ∈ d' ∨ field ∈ d := by
  induction d' generalizing d with
  | nil => exact .inr h
  | cons head rest ih =>
      rcases ih (d := set d head.1 head.2) h with hrest | hset
      · exact .inl (List.mem_cons_of_mem _ hrest)
      · exact (mem_set hset).imp_left fun heq => by rw [heq]; exact List.mem_cons_self

theorem keys_set (d : List (κ × α)) (key : κ) (value : α) :
    keys (set d key value) = if (keys d).elem key then keys d else keys d ++ [key] := by
  induction d with
  | nil => rfl
  | cons field rest ih =>
      rw [set]
      split
      · rename_i hkey
        simp [keys, eq_of_beq hkey]
      · rename_i hkey
        rw [beq_iff_eq] at hkey
        have hne : ¬key = field.1 := fun heq => hkey heq.symm
        simp only [keys, List.map_cons, List.elem_eq_mem, List.mem_cons, hne, false_or] at ih ⊢
        rw [ih]
        split <;> rfl

theorem mem_keys_set : key' ∈ keys (set d key value) ↔ key' = key ∨ key' ∈ keys d := by
  rw [keys_set]
  split
  · rename_i hmem
    rw [List.elem_eq_mem, decide_eq_true_eq] at hmem
    exact ⟨.inr, fun h => h.elim (fun heq => by rw [heq]; exact hmem) id⟩
  · rw [List.mem_append, List.mem_singleton, or_comm]

theorem setDefault_of_mem (h : key ∈ keys d) : setDefault d key value = d := by
  rw [setDefault, if_pos (List.elem_iff.mpr h)]

theorem setDefault_of_not_mem (h : key ∉ keys d) : setDefault d key value = d ++ [(key, value)] := by
  rw [setDefault, if_neg]
  rwa [List.elem_iff]

theorem mem_keys_setDefault : key' ∈ keys (setDefault d key value) ↔ key' = key ∨ key' ∈ keys d := by
  by_cases hkey : key ∈ keys d
  · rw [setDefault_of_mem hkey]
    exact ⟨.inr, fun h => h.elim (fun heq => by rwa [heq]) id⟩
  · rw [setDefault_of_not_mem hkey, keys, List.map_append, List.mem_append, or_comm]
    simp [keys]

/-- A choice of fields by their keys does not see a default for another key. -/
theorem filter_setDefault {p : κ → Bool} (h : p key = false) :
    (setDefault d key value).filter (fun field => p field.1) = d.filter fun field => p field.1 := by
  by_cases hkey : key ∈ keys d
  · rw [setDefault_of_mem hkey]
  · simp [setDefault_of_not_mem hkey, h]

theorem filter_setDefault_of_true {p : κ → Bool} (h : p key = true) :
    (setDefault d key value).filter (fun field => p field.1) =
      setDefault (d.filter fun field => p field.1) key value := by
  by_cases hkey : key ∈ keys d
  · obtain ⟨field, hfield, rfl⟩ := List.mem_map.mp hkey
    rw [setDefault_of_mem hkey, setDefault_of_mem]
    have hkept : field ∈ d.filter fun field => p field.1 := List.mem_filter.mpr ⟨hfield, h⟩
    exact List.mem_map_of_mem (f := (·.1)) hkept
  · have hkey' : key ∉ keys (d.filter fun field => p field.1) := by
      intro hmem
      obtain ⟨field, hfield, heq⟩ := List.mem_map.mp hmem
      exact hkey (List.mem_map.mpr ⟨field, (List.mem_filter.mp hfield).1, heq⟩)
    simp [setDefault_of_not_mem hkey, setDefault_of_not_mem hkey', h]

theorem Distinct.set (h : Distinct d) (key : κ) (value : α) : Distinct (set d key value) := by
  rw [Distinct, keys_set]
  split
  · exact h
  · rename_i hmem
    rw [List.elem_eq_mem, decide_eq_true_eq] at hmem
    exact List.nodup_append.mpr ⟨h, List.nodup_singleton key, fun a ha b hb => by
      rw [List.mem_singleton.mp hb]
      rintro rfl
      exact hmem ha⟩

omit [LawfulBEq κ] in
theorem Distinct.erase (h : Distinct d) (key : κ) : Distinct (erase d key) :=
  h.sublist (List.filter_sublist.map _)

end Dict
end GdbMcp
