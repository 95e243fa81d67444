import GdbMcp.BaseDict
import Mathlib.Algebra.Order.Ring.Unbundled.Rat
import Mathlib.Data.Rat.Defs

/-! JSON documents, and when two of them are equal: as JSON values, and for Python's `==`. -/

namespace GdbMcp

inductive Json where
  | null
  | bool (b : Bool)
  | num (q : Rat)
  | str (s : String)
  | arr (items : List Json)
  | obj (fields : List (String × Json))
  deriving Inhabited

namespace Json

/-- The fields of an object have different names, in all objects of the document. -/
inductive WellFormed : Json → Prop
  | null : WellFormed null
  | bool (b : Bool) : WellFormed (bool b)
  | num (q : Rat) : WellFormed (num q)
  | str (s : String) : WellFormed (str s)
  | arr {items : List Json} (hitems : ∀ v ∈ items, WellFormed v) : WellFormed (arr items)
  | obj {fields : List (String × Json)} (hdistinct : Dict.Distinct fields)
      (hfields : ∀ field ∈ fields, WellFormed field.2) : WellFormed (obj fields)

/-- A document holds for all its values if it holds for the atoms, and for arrays and objects with what is in
them. -/
@[elab_as_elim]
theorem induct {P : Json → Prop} (hnull : P null) (hbool : ∀ b, P (bool b)) (hnum : ∀ q, P (num q))
    (hstr : ∀ s, P (str s)) (harr : ∀ items, (∀ v ∈ items, P v) → P (arr items))
    (hobj : ∀ fields : List (String × Json), (∀ field ∈ fields, P field.2) → P (obj fields)) (j : Json) : P j := by
  refine Json.rec (motive_1 := P) (motive_2 := fun items => ∀ v ∈ items, P v)
    (motive_3 := fun fields => ∀ field ∈ fields, P field.2) (motive_4 := fun field => P field.2)
    hnull hbool hnum hstr harr hobj ?_ ?_ ?_ ?_ ?_ j
  · exact nofun
  · intro head tail hhead htail v hv
    rcases List.mem_cons.mp hv with rfl | hv
    · exact hhead
    · exact htail v hv
  · exact nofun
  · intro head tail hhead htail field hfield
    rcases List.mem_cons.mp hfield with rfl | hfield
    · exact hhead
    · exact htail field hfield
  · exact fun _ _ h => h

/-- The atoms of a document. -/
inductive Scalar where
  | null
  | bool (b : Bool)
  | num (q : Rat)
  | str (s : String)
  deriving DecidableEq

/-- For Python, `False` and `True` are the numbers 0 and 1. -/
def scalar (numeric : Bool) : Json → Option Scalar
  | .null => some .null
  | .bool b => some (if numeric then .num (if b then 1 else 0) else .bool b)
  | .num q => some (.num q)
  | .str s => some (.str s)
  | .arr _ | .obj _ => none

mutual

/-- Whether two documents are equal, up to the order of the fields. -/
def eqv (numeric : Bool) : Json → Json → Bool
  | .arr xs, .arr ys => eqvItems numeric xs ys
  | .obj xs, .obj ys => eqvFields numeric xs ys && ys.all fun field => (Dict.keys xs).elem field.1
  | x, y => (x.scalar numeric).isSome && x.scalar numeric == y.scalar numeric

def eqvItems (numeric : Bool) : List Json → List Json → Bool
  | [], [] => true
  | x :: xs, y :: ys => eqv numeric x y && eqvItems numeric xs ys
  | _, _ => false

def eqvFields (numeric : Bool) : List (String × Json) → List (String × Json) → Bool
  | [], _ => true
  | (key, x) :: xs, ys =>
    (match ys.lookup key with
      | some y => eqv numeric x y
      | none => false) && eqvFields numeric xs ys

end

/-- Python's `==`. -/
def pyEq (x y : Json) : Bool := x.eqv true y

/-- Equality of JSON values. -/
def same (x y : Json) : Bool := x.eqv false y

variable {numeric : Bool} {x y z : Json} {a : Scalar}

theorem eqv_scalar (h : x.scalar numeric = some a) : x.eqv numeric y = true ↔ y.scalar numeric = some a := by
  cases x with
  | arr | obj => exact nomatch h
  | _ => rw [eqv, h, Option.isSome_some, Bool.true_and, beq_iff_eq, eq_comm] <;> exact nofun

theorem eqv_arr {xs : List Json} : eqv numeric (arr xs) y = true ↔
    ∃ ys, y = arr ys ∧ List.Forall₂ (fun x y => x.eqv numeric y = true) xs ys := by
  have hitems : ∀ {ys : List Json}, eqvItems numeric xs ys = true ↔
      List.Forall₂ (fun x y => x.eqv numeric y = true) xs ys := by
    intro ys
    induction xs generalizing ys with
    | nil => cases ys <;> simp [eqvItems]
    | cons x xs ih =>
        cases ys with
        | nil => simp [eqvItems]
        | cons y ys => rw [eqvItems, Bool.and_eq_true, ih, List.forall₂_cons]
  cases y with
  | arr ys =>
      rw [eqv, hitems]
      exact ⟨fun h => ⟨ys, rfl, h⟩, fun ⟨_, heq, h⟩ => by rw [arr.inj heq]; exact h⟩
  | _ => exact ⟨(fun h => nomatch h), (fun ⟨_, heq, _⟩ => nomatch heq)⟩

theorem eqv_obj {xs : List (String × Json)} : eqv numeric (obj xs) y = true ↔
    ∃ ys, y = obj ys ∧ (∀ field ∈ xs, ∃ v, ys.lookup field.1 = some v ∧ field.2.eqv numeric v = true) ∧
      ∀ field ∈ ys, field.1 ∈ Dict.keys xs := by
  have hfields : ∀ {ys : List (String × Json)}, eqvFields numeric xs ys = true ↔
      ∀ field ∈ xs, ∃ v, ys.lookup field.1 = some v ∧ field.2.eqv numeric v = true := by
    intro ys
    induction xs with
    | nil => simp [eqvFields]
    | cons field rest ih =>
        rw [eqvFields, Bool.and_eq_true, ih, List.forall_mem_cons]
        refine and_congr_left fun _ => ?_
        cases ys.lookup field.1 <;> simp
  cases y with
  | obj ys =>
      rw [eqv, Bool.and_eq_true, hfields, List.all_eq_true]
      simp only [List.elem_eq_mem, decide_eq_true_eq]
      exact ⟨fun h => ⟨ys, rfl, h⟩, fun ⟨_, heq, h⟩ => by rw [obj.inj heq]; exact h⟩
  | _ => exact ⟨(fun h => nomatch h), (fun ⟨_, heq, _⟩ => nomatch heq)⟩

theorem eqv_symm (hy : y.WellFormed) (h : x.eqv numeric y = true) : y.eqv numeric x = true := by
  induction x using induct generalizing y with
  | hnull | hbool | hnum | hstr => exact (eqv_scalar ((eqv_scalar rfl).mp h)).mpr rfl
  | harr items ih =>
      obtain ⟨ys, rfl, hitems⟩ := eqv_arr.mp h
      cases hy with
      | arr hy =>
          refine eqv_arr.mpr ⟨_, rfl, ?_⟩
          clear h
          induction hitems with
          | nil => exact .nil
          | cons hxy _ ihs =>
              rw [List.forall_mem_cons] at ih hy
              exact .cons (ih.1 hy.1 hxy) (ihs ih.2 hy.2)
  | hobj fields ih =>
      obtain ⟨ys, rfl, hlookup, hkeys⟩ := eqv_obj.mp h
      cases hy with
      | obj hdistinct hfields =>
          refine eqv_obj.mpr ⟨_, rfl, fun field hfield => ?_, fun field hfield => ?_⟩
          · obtain ⟨v, hv⟩ := Dict.exists_lookup (hkeys field hfield)
            obtain ⟨w, hw, hvw⟩ := hlookup _ (Dict.mem_of_lookup hv)
            obtain rfl := Option.some.inj (hw.symm.trans (Dict.lookup_of_mem hdistinct hfield))
            exact ⟨v, hv, ih _ (Dict.mem_of_lookup hv) (hfields field hfield) hvw⟩
          · obtain ⟨w, hw, -⟩ := hlookup field hfield
            exact Dict.mem_keys_of_lookup hw

theorem eqv_trans (hxy : x.eqv numeric y = true) (hyz : y.eqv numeric z = true) : x.eqv numeric z = true := by
  induction x using induct generalizing y z with
  | hnull | hbool | hnum | hstr => exact (eqv_scalar rfl).mpr ((eqv_scalar ((eqv_scalar rfl).mp hxy)).mp hyz)
  | harr items ih =>
      obtain ⟨ys, rfl, hitems⟩ := eqv_arr.mp hxy
      obtain ⟨zs, rfl, hitems'⟩ := eqv_arr.mp hyz
      refine eqv_arr.mpr ⟨zs, rfl, ?_⟩
      clear hxy hyz
      induction hitems generalizing zs with
      | nil =>
          cases hitems'
          exact .nil
      | cons h _ ihs =>
          cases hitems' with
          | cons h' hrest =>
              rw [List.forall_mem_cons] at ih
              exact .cons (ih.1 h h') (ihs ih.2 _ hrest)
  | hobj fields ih =>
      obtain ⟨ys, rfl, hlookup, hkeys⟩ := eqv_obj.mp hxy
      obtain ⟨zs, rfl, hlookup', hkeys'⟩ := eqv_obj.mp hyz
      refine eqv_obj.mpr ⟨zs, rfl, fun field hfield => ?_, fun field hfield => ?_⟩
      · obtain ⟨v, hv, hvw⟩ := hlookup field hfield
        obtain ⟨w, hw, hvw'⟩ := hlookup' _ (Dict.mem_of_lookup hv)
        exact ⟨w, hw, ih field hfield hvw hvw'⟩
      · obtain ⟨v, hv⟩ := Dict.exists_lookup (hkeys' field hfield)
        exact hkeys (field.1, v) (Dict.mem_of_lookup hv)

/-- What is equal in JSON is equal for Python. -/
theorem pyEq_of_same (h : x.same y = true) : x.pyEq y = true := by
  induction x using induct generalizing y with
  | hnull | hbool | hnum | hstr =>
      have hscalar := (eqv_scalar rfl).mp h
      refine (eqv_scalar rfl).mpr ?_
      cases y <;> simp_all [scalar]
  | harr items ih =>
      obtain ⟨ys, rfl, hitems⟩ := eqv_arr.mp h
      refine eqv_arr.mpr ⟨ys, rfl, ?_⟩
      clear h
      induction hitems with
      | nil => exact .nil
      | cons hxy _ ihs =>
          rw [List.forall_mem_cons] at ih
          exact .cons (ih.1 hxy) (ihs ih.2)
  | hobj fields ih =>
      obtain ⟨ys, rfl, hlookup, hkeys⟩ := eqv_obj.mp h
      refine eqv_obj.mpr ⟨ys, rfl, fun field hfield => ?_, hkeys⟩
      obtain ⟨v, hv, hsame⟩ := hlookup field hfield
      exact ⟨v, hv, ih field hfield hsame⟩

end Json
end GdbMcp
