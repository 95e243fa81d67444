import GdbMcp.BaseDict
import GdbMcp.BaseEffect
import GdbMcp.MiRecord
import Mathlib.Data.List.TakeWhile

/-! The dotted assignments of the command line client. A path leads through nested mappings; the parents it misses are
made on the way, and a value that is assigned twice becomes a list. -/

namespace GdbMcp

namespace PyStr

/-- `s.split(separator)`. -/
def splitOn (separator : Char) (s : String) : List String := (s.toList.splitOn separator).map String.ofList

theorem splitOn_ne_nil (separator : Char) (s : String) : splitOn separator s ≠ [] := by
  simp [splitOn]

end PyStr

/-- Raised when CLI flag combinations are structurally invalid. -/
structure CliUsageError where
  message : String
  deriving DecidableEq, Repr

/-- The fields of a mapping. -/
abbrev Mapping := List (String × Value)

/-- Parse one PATH=VALUE dotted assignment. -/
def dottedAssignment (text : String) : Except String (String × String) :=
  if '=' ∉ text.toList then .error "Expected PATH=VALUE"
  else
    let path := String.ofList (text.toList.takeWhile (· ≠ '='))
    let rawValue := String.ofList ((text.toList.dropWhile (· ≠ '=')).drop 1)
    if path = "" then .error "Expected non-empty PATH in PATH=VALUE"
    else if (PyStr.splitOn '.' path).any (· == "") then
      .error "Expected PATH with non-empty dotted segments in PATH=VALUE"
    else .ok (path, rawValue)

/-- What the parser accepts is a path with non-empty segments in front of the first equals sign. -/
theorem dottedAssignment_eq_ok {text path rawValue : String} : dottedAssignment text = .ok (path, rawValue) ↔
    text = path ++ "=" ++ rawValue ∧ '=' ∉ path.toList ∧ "" ∉ PyStr.splitOn '.' path := by
  have hparts : ∀ path : String, (PyStr.splitOn '.' path).any (· == "") = true ↔ "" ∈ PyStr.splitOn '.' path := by simp
  constructor
  · intro h
    unfold dottedAssignment at h
    split at h
    · exact nomatch h
    · rename_i hequals
      dsimp only at h
      split at h
      · exact nomatch h
      split at h
      · exact nomatch h
      · rename_i hempty hsegments
        obtain ⟨hpath, hvalue⟩ := Prod.mk.inj (Except.ok.inj h)
        subst hpath hvalue
        refine ⟨?_, ?_, fun hmem => hsegments ((hparts _).mpr hmem)⟩
        · cases hrest : text.toList.dropWhile (· ≠ '=') with
          | nil =>
              exact absurd (List.dropWhile_eq_nil_iff.mp hrest '=' (not_not.mp hequals)) (by decide)
          | cons c rest =>
              have hhead := List.head?_dropWhile_not (· ≠ '=') text.toList
              rw [hrest] at hhead
              obtain rfl : c = '=' := by simpa using hhead
              refine String.toList_inj.mp ?_
              simp only [String.toList_append, String.toList_ofList, List.drop_one, List.tail_cons]
              calc text.toList = text.toList.takeWhile (· ≠ '=') ++ text.toList.dropWhile (· ≠ '=') :=
                    List.takeWhile_append_dropWhile.symm
                _ = _ := by rw [hrest, List.append_assoc]; rfl
        · rw [String.toList_ofList]
          exact fun hmem => absurd (List.mem_takeWhile_imp hmem) (by decide)
  · rintro ⟨rfl, hequals, hsegments⟩
    have hpath : ∀ c ∈ path.toList, decide (c ≠ '=') = true := fun c hc => decide_eq_true fun h => hequals (h ▸ hc)
    have hne : path ≠ "" := by
      rintro rfl
      exact hsegments (by decide)
    have htext : (path ++ "=" ++ rawValue).toList = path.toList ++ '=' :: rawValue.toList := by
      rw [String.toList_append, String.toList_append, List.append_assoc]
      rfl
    rw [dottedAssignment, htext, if_neg (by simp), List.takeWhile_append_of_pos hpath, List.dropWhile_append_of_pos hpath]
    rw [List.takeWhile_cons_of_neg (by decide), List.dropWhile_cons_of_neg (by decide), List.append_nil]
    simp only [String.ofList_toList, List.drop_one, List.tail_cons]
    rw [if_neg hne, if_neg fun h => hsegments ((hparts _).mp h)]

/-! ### Assignments -/

open Eff

/-- The mapping under a segment. -/
def childFields (fields : Mapping) (segment : String) : Mapping :=
  match fields.lookup segment with
  | some (.dict child) => child
  | _ => []

/-- Make the mapping under a segment, where there is nothing. -/
def enterSegment (path segment : String) : Eff Mapping CliUsageError Unit := do
  match ← gets fun fields => fields.lookup segment with
  | none | some .none => modify fun fields => Dict.set fields segment (.dict [])
  | some (.dict _) => return ()
  | some _ => raise ⟨s!"Conflicting dotted assignment for {path}: segment {PyStr.repr segment} already set"⟩

/-- Set the value under the last segment, or add it to those that are there. -/
def assignLeaf (path leaf : String) (value : Value) : Eff Mapping CliUsageError Unit := do
  match ← gets fun fields => fields.lookup leaf with
  | none | some .none => modify fun fields => Dict.set fields leaf value
  | some (.dict _) => raise ⟨s!"Conflicting dotted assignment for {path}: path already set to a mapping"⟩
  | some (.list items) => modify fun fields => Dict.set fields leaf (.list (items ++ [value]))
  | some existing => modify fun fields => Dict.set fields leaf (.list [existing, value])

/-- Go on in the mapping under a segment. -/
def inSegment (segment : String) (m : Eff Mapping CliUsageError Unit) : Eff Mapping CliUsageError Unit :=
  zoom (childFields · segment) (fun child fields => Dict.set fields segment (.dict child)) m

def assignParts (path : String) (value : Value) : List String → Eff Mapping CliUsageError Unit
  | [] => return ()
  | [leaf] => assignLeaf path leaf value
  | segment :: rest => do
    enterSegment path segment
    inSegment segment (assignParts path value rest)

/-- Assign one dotted path into a nested mapping. -/
def assignDottedValue (path : String) (value : Value) : Eff Mapping CliUsageError Unit :=
  assignParts path value (PyStr.splitOn '.' path)

/-! ### What is at a path -/

inductive Node where
  | leaf (value : Value)
  | mapping

/-- What a nested mapping has at a path, if anything. -/
def nodeAt : Mapping → List String → Option Node
  | _, [] => some .mapping
  | fields, segment :: rest =>
    match fields.lookup segment with
    | none => none
    | some (.dict child) => nodeAt child rest
    | some value => if rest.isEmpty then some (.leaf value) else none

/-- There is a mapping at the path, or one can be made. -/
def Enterable (node : Option Node) : Prop := node = none ∨ node = some (.leaf .none) ∨ node = some .mapping

/-- The value at a path behind an assignment. -/
def joined : Option Node → Value → Value
  | none, value | some .mapping, value | some (.leaf .none), value => value
  | some (.leaf (.list items)), value => .list (items ++ [value])
  | some (.leaf existing), value => .list [existing, value]

/-- A path can be assigned: every segment before its last one can be entered, and it leads to no mapping. -/
structure Assignable (fields : Mapping) (parts : List String) : Prop where
  parents : ∀ front, front <+: parts → front ≠ parts → Enterable (nodeAt fields front)
  leaf : nodeAt fields parts ≠ some .mapping

/-- What is at a path behind an assignment. -/
def assigned (fields : Mapping) (parts : List String) (value : Value) (path : List String) : Option Node :=
  if path = parts then some (.leaf (joined (nodeAt fields parts) value))
  else if path <+: parts then some .mapping else nodeAt fields path

variable {fields fields' child : Mapping} {path segment key : String} {value : Value} {parts rest : List String}

theorem Dict.set_same {d : Mapping} (h : d.lookup key = some value) : Dict.set d key value = d := by
  induction d with
  | nil => exact nomatch h
  | cons field others ih =>
      rw [Dict.lookup_cons] at h
      rw [Dict.set]
      split at h
      · rename_i hkey
        obtain rfl := Option.some.inj h
        have hkey := eq_of_beq hkey
        rw [if_pos (by rw [hkey]; exact beq_self_eq_true _), hkey]
      · rename_i hkey
        rw [if_neg, ih h]
        exact fun hkey' => hkey (by rw [eq_of_beq hkey']; exact beq_self_eq_true _)

theorem nodeAt_child (h : fields.lookup segment = some (.dict child)) (rest : List String) :
    nodeAt fields (segment :: rest) = nodeAt child rest := by
  rw [nodeAt, h]

theorem nodeAt_set (fields : Mapping) (segment : String) (child : Mapping) (key : String) (rest : List String) :
    nodeAt (Dict.set fields segment (.dict child)) (key :: rest) =
      if key = segment then nodeAt child rest else nodeAt fields (key :: rest) := by
  rw [nodeAt, Dict.lookup_set]
  by_cases hkey : key = segment
  · rw [if_pos hkey, if_pos (beq_iff_eq.mpr hkey)]
  · rw [if_neg hkey, if_neg (by simpa using hkey), nodeAt]

theorem nodeAt_nothing (path : List String) (hpath : path ≠ []) : nodeAt [] path = none := by
  cases path with
  | nil => exact absurd rfl hpath
  | cons segment rest => rfl

theorem nodeAt_missing (h : fields.lookup segment = none ∨ fields.lookup segment = some .none) (rest : List String)
    (hrest : rest ≠ []) : nodeAt fields (segment :: rest) = none := by
  have hempty : rest.isEmpty = false := by simpa using hrest
  rcases h with h | h <;> simp [nodeAt, h, hempty]

theorem prefix_cons (front : List String) : front <+: segment :: rest ↔
    front = [] ∨ ∃ back, front = segment :: back ∧ back <+: rest := by
  rw [List.prefix_cons_iff]

/-- Behind a segment with a mapping, a path is assigned in that mapping. -/
theorem assignable_cons (hchild : fields.lookup segment = some (.dict child)) :
    Assignable fields (segment :: rest) ↔ Assignable child rest := by
  constructor
  · intro h
    constructor
    · intro front hfront hne
      have hparent := h.parents (segment :: front) (List.cons_prefix_cons.mpr ⟨rfl, hfront⟩) (by simpa using hne)
      rwa [nodeAt_child hchild] at hparent
    · have hleaf := h.leaf
      rwa [nodeAt_child hchild] at hleaf
  · intro h
    constructor
    · intro front hfront hne
      rcases (prefix_cons front).mp hfront with rfl | ⟨back, rfl, hback⟩
      · exact .inr (.inr rfl)
      · rw [nodeAt_child hchild]
        exact h.parents back hback (by simpa using hne)
    · rw [nodeAt_child hchild]
      exact h.leaf

theorem assigned_child (hchild : fields.lookup segment = some (.dict child)) {child' : Mapping}
    (h : ∀ path, nodeAt child' path = assigned child rest value path) (path : List String) :
    nodeAt (Dict.set fields segment (.dict child')) path = assigned fields (segment :: rest) value path := by
  cases path with
  | nil => simp [nodeAt, assigned]
  | cons key back =>
      rw [nodeAt_set]
      by_cases hkey : key = segment
      · subst hkey
        rw [if_pos rfl, h]
        simp only [assigned, List.cons.injEq, true_and, List.cons_prefix_cons, nodeAt_child hchild]
      · rw [if_neg hkey]
        simp only [assigned, List.cons.injEq, hkey, false_and, if_false, List.cons_prefix_cons]

/-- Where a segment leads nowhere, nothing is in the way of a path through it. -/
theorem assignable_missing (h : fields.lookup segment = none ∨ fields.lookup segment = some .none) :
    Assignable fields (segment :: rest) := by
  have hnode : nodeAt fields [segment] = none ∨ nodeAt fields [segment] = some (.leaf .none) := by
    rcases h with h | h <;> simp [nodeAt, h]
  constructor
  · intro front hfront hne
    rcases (prefix_cons front).mp hfront with rfl | ⟨back, rfl, hback⟩
    · exact .inr (.inr rfl)
    · by_cases hnil : back = []
      · subst hnil
        exact hnode.imp_right .inl
      · exact .inl (nodeAt_missing h back hnil)
  · by_cases hnil : rest = []
    · subst hnil
      rcases hnode with hnode | hnode <;> simp [hnode]
    · simp [nodeAt_missing h rest hnil]

theorem assignable_empty (hparts : parts ≠ []) : Assignable [] parts := by
  cases parts with
  | nil => exact absurd rfl hparts
  | cons segment rest => exact assignable_missing (.inl rfl)

theorem assigned_missing (h : fields.lookup segment = none ∨ fields.lookup segment = some .none) (hrest : rest ≠ [])
    (path : List String) :
    assigned (Dict.set fields segment (.dict [])) (segment :: rest) value path =
      assigned fields (segment :: rest) value path := by
  unfold assigned
  rw [nodeAt_set, if_pos rfl, nodeAt_nothing rest hrest, nodeAt_missing h rest hrest]
  by_cases hbelow : path <+: segment :: rest
  · simp only [hbelow, if_true]
  · rw [if_neg hbelow, if_neg hbelow]
    cases path with
    | nil => exact absurd List.nil_prefix hbelow
    | cons key back =>
        rw [nodeAt_set]
        by_cases hkey : key = segment
        · subst hkey
          have hback : back ≠ [] := by
            rintro rfl
            exact hbelow (List.cons_prefix_cons.mpr ⟨rfl, List.nil_prefix⟩)
          rw [if_pos rfl, nodeAt_nothing back hback, nodeAt_missing h back hback]
        · rw [if_neg hkey]

theorem nodeAt_leaf (h : fields.lookup segment = some value) (hvalue : ∀ child, value ≠ .dict child)
    (rest : List String) :
    nodeAt fields (segment :: rest) = if rest = [] then some (.leaf value) else none := by
  cases value <;> simp_all [nodeAt]

theorem assigned_leaf (hleaf : ∀ child, fields.lookup segment ≠ some (.dict child)) {added : Value}
    (hvalue : ∀ child, value ≠ .dict child) (hjoined : joined (nodeAt fields [segment]) added = value)
    (path : List String) :
    nodeAt (Dict.set fields segment value) path = assigned fields [segment] added path := by
  unfold assigned
  rw [hjoined]
  cases path with
  | nil => simp [nodeAt]
  | cons key back =>
      by_cases hkey : key = segment
      · subst hkey
        have hset : (Dict.set fields key value).lookup key = some value := by simp
        rw [nodeAt_leaf hset hvalue]
        by_cases hback : back = []
        · simp [hback]
        · have hnothing : nodeAt fields (key :: back) = none := by
            cases hlookup : fields.lookup key with
            | none => exact nodeAt_missing (.inl hlookup) back hback
            | some existing =>
                rw [nodeAt_leaf hlookup (fun child heq => hleaf child (heq ▸ hlookup)), if_neg hback]
          simp [hback, hnothing]
      · have hother : nodeAt (Dict.set fields segment value) (key :: back) = nodeAt fields (key :: back) := by
          simp [nodeAt, hkey]
        simp [hother, hkey]

/-- What an assignment does: it raises and leaves the mapping as it was, where the path cannot be assigned. -/
def Assigns (parts : List String) (added : Value) (m : Eff Mapping CliUsageError Unit) (fields : Mapping) : Prop :=
  wp m (fun _ after => Assignable fields parts ∧ ∀ path, nodeAt after path = assigned fields parts added path)
    (fun _ after => ¬Assignable fields parts ∧ after = fields) fields

theorem assignLeaf_assigns (path leaf : String) {added : Value} (hadded : ∀ child, added ≠ .dict child)
    (fields : Mapping) : Assigns [leaf] added (assignLeaf path leaf added) fields := by
  have hparents : ∀ front, front <+: [leaf] → front ≠ [leaf] → Enterable (nodeAt fields front) := by
    intro front hfront hne
    rcases (prefix_cons front).mp hfront with rfl | ⟨back, rfl, hback⟩
    · exact .inr (.inr rfl)
    · exact absurd (by rw [List.prefix_nil.mp hback]) hne
  have hnode : ∀ existing, fields.lookup leaf = some existing → (∀ child, existing ≠ .dict child) →
      nodeAt fields [leaf] = some (.leaf existing) := fun existing hlookup hexisting => by
    rw [nodeAt_leaf hlookup hexisting, if_pos rfl]
  rw [Assigns, assignLeaf, wp_bind, wp_gets]
  cases hlookup : fields.lookup leaf with
  | none =>
      have hnothing : nodeAt fields [leaf] = none := by simp [nodeAt, hlookup]
      exact ⟨⟨hparents, by simp [hnothing]⟩, assigned_leaf (by simp [hlookup]) hadded (by rw [hnothing]; rfl)⟩
  | some existing =>
      cases existing with
      | dict child =>
          have hmapping : nodeAt fields [leaf] = some .mapping := by simp [nodeAt, hlookup]
          exact ⟨fun h => h.leaf hmapping, rfl⟩
      | none | bool _ | int _ | str _ | list _ =>
          have hleaf := hnode _ hlookup (by simp)
          refine ⟨⟨hparents, by simp [hleaf]⟩, assigned_leaf (by simp [hlookup]) ?_ (by rw [hleaf]; rfl)⟩
          first | exact hadded | simp

theorem inSegment_assigns {m : Eff Mapping CliUsageError Unit} {added : Value}
    (hchild : fields.lookup segment = some (.dict child)) (hm : Assigns rest added m child) :
    Assigns (segment :: rest) added (inSegment segment m) fields := by
  rw [Assigns, inSegment, wp_zoom, show childFields fields segment = child by simp [childFields, hchild]]
  refine wp_mono hm (fun _ after h => ?_) (fun _ after h => ?_)
  · exact ⟨(assignable_cons hchild).mpr h.1, assigned_child hchild h.2⟩
  · rw [h.2]
    exact ⟨fun h' => h.1 ((assignable_cons hchild).mp h'), Dict.set_same hchild⟩

/-- A mapping that has just been made is empty, so nothing below it is in the way of the path. -/
theorem inSegment_made {m : Eff Mapping CliUsageError Unit} {added : Value}
    (h : fields.lookup segment = none ∨ fields.lookup segment = some .none) (hrest : rest ≠ [])
    (hm : Assigns rest added m []) :
    wp (inSegment segment m)
      (fun _ after => Assignable fields (segment :: rest) ∧
        ∀ path, nodeAt after path = assigned fields (segment :: rest) added path)
      (fun _ after => ¬Assignable fields (segment :: rest) ∧ after = fields)
      (Dict.set fields segment (.dict [])) := by
  have hset : (Dict.set fields segment (.dict [])).lookup segment = some (.dict []) := by simp
  refine wp_mono (inSegment_assigns hset hm) (fun _ after hafter => ?_) (fun _ after hafter => ?_)
  · exact ⟨assignable_missing h, fun path => (hafter.2 path).trans (assigned_missing h hrest path)⟩
  · exact absurd ((assignable_cons hset).mpr (assignable_empty hrest)) hafter.1

theorem assignParts_assigns (path : String) {added : Value} (hadded : ∀ child, added ≠ .dict child)
    (hparts : parts ≠ []) (fields : Mapping) : Assigns parts added (assignParts path added parts) fields := by
  induction parts generalizing fields with
  | nil => exact absurd rfl hparts
  | cons segment rest ih =>
      by_cases hrest : rest = []
      · subst hrest
        exact assignLeaf_assigns path segment hadded fields
      · rw [Assigns, assignParts.eq_3 path added segment rest hrest, wp_bind, enterSegment, wp_bind, wp_gets]
        cases hlookup : fields.lookup segment with
        | none => exact inSegment_made (.inl hlookup) hrest (ih hrest [])
        | some existing =>
            cases existing with
            | none => exact inSegment_made (.inr hlookup) hrest (ih hrest [])
            | dict child => exact inSegment_assigns hlookup (ih hrest child)
            | bool _ | int _ | str _ | list _ =>
                have hleaf := nodeAt_leaf hlookup (by simp) []
                rw [if_pos rfl] at hleaf
                refine ⟨fun h => ?_, rfl⟩
                rcases h.parents [segment] (by simp) (by simpa using Ne.symm hrest) with henter | henter | henter <;>
                  simp [hleaf] at henter

end GdbMcp
