import GdbMcp.SchemaPublished
import GdbMcp.SchemaRefs

/-! Recursive schemas stay closed: whatever circles the references turn in, those that are left in a published
schema name definitions that are published with it. -/

namespace GdbMcp

/-- A schema is an object or a boolean. -/
def IsSchema (j : Json) : Prop := (∃ b, j = .bool b) ∨ ∃ fields, j = .obj fields

/-- A reference to a root definition, whose name has no slash. -/
def PointsTo (defs : Fields) (ref : String) : Prop :=
  ∃ name, ref = "#/$defs/" ++ name ∧ '/' ∉ name.toList ∧ name ∈ Dict.keys defs

def definitionsOf : Json → Fields
  | .obj fields => rootDefinitions fields
  | _ => []

/-- Every reference of the document points to one of its own definitions. -/
def Closed (j : Json) : Prop := ∀ ref, RefIn ref j → PointsTo (definitionsOf j) ref

/-- A schema of any keywords that is closed. -/
structure ClosedSchema (schema : Fields) : Prop where
  wellFormed : (Json.obj schema).WellFormed
  definitions : ∀ definition ∈ rootDefinitions schema, IsSchema definition.2
  closed : Closed (.obj schema)

variable {S : String → Prop} {fields node defs schema : Fields} {s j : Json} {name : String}
  {inline : String → Option Json}

/-! ### Normalization -/

theorem keys_normalizeEach (inline : String → Option Json) (fields : Fields) :
    Dict.keys (normalizeEach inline fields) = Dict.keys fields := by
  induction fields with
  | nil => rw [normalizeEach]
  | cons head rest ih => rw [normalizeEach, Dict.keys, List.map_cons, ← Dict.keys, ih, Dict.keys, Dict.keys, List.map_cons]

theorem IsSchema.normalizeNode (h : IsSchema s) (hinline : ∀ name t, inline name = some t → IsSchema t) :
    IsSchema (normalizeNode inline s) := by
  rcases h with ⟨b, rfl⟩ | ⟨node, rfl⟩
  · exact .inl ⟨b, by unfold GdbMcp.normalizeNode; rfl⟩
  · unfold GdbMcp.normalizeNode
    split
    · rename_i ref hlookup
      unfold resolveRef
      split
      · exact .inr ⟨_, rfl⟩
      · rename_i resolved hresolved
        exact hinline _ _ hresolved
      · exact .inr ⟨_, rfl⟩
    · split
      · exact .inr ⟨_, rfl⟩
      · exact .inr ⟨_, rfl⟩

theorem refsOf_resolveRef {ref : String} (hnode : FieldsOf S node)
    (hinline : ∀ t, inline (refName ref) = some t → RefsOf S t) : RefsOf S (resolveRef inline node ref) := by
  unfold resolveRef
  split
  · rename_i resolved hresolved
    exact refsOf_obj.mpr ((refsOf_obj.mp (hinline _ hresolved)).update (hnode.erase "$ref").fields)
  · rename_i resolved hresolved
    exact hinline _ hresolved
  · exact refsOf_obj.mpr hnode

/-- The normalized value of a field has the references of the value and of what is inlined; a text is only left
where it stood. -/
theorem fieldOf_normalizeNode {field : String × Json} (h : FieldOf S field)
    (hvalue : RefsOf S (normalizeNode inline field.2)) (hinline : ∀ name t, inline name = some t → IsSchema t) :
    FieldOf S (field.1, normalizeNode inline field.2) := by
  refine ⟨hvalue, fun hkey ref heq => h.ref hkey ref ?_⟩
  cases hfield : field.2 with
  | obj node =>
      rw [hfield] at heq
      rcases IsSchema.normalizeNode (.inr ⟨node, rfl⟩) hinline with ⟨b, hb⟩ | ⟨fields, hfields⟩
      · exact nomatch hb.symm.trans heq
      · exact nomatch hfields.symm.trans heq
  | _ =>
      rw [hfield] at heq
      unfold normalizeNode at heq
      exact heq

/-- Normalization adds no reference but those of the inlined definitions. -/
theorem refsOf_normalizeNode (hinline : ∀ name t, inline name = some t → RefsOf S t ∧ IsSchema t) (s : Json) :
    RefsOf S s → RefsOf S (normalizeNode inline s) ∧ RefsOf S (normalizeProperties inline s) ∧
      RefsOf S (normalizeItems inline s) := by
  have hschema : ∀ name t, inline name = some t → IsSchema t := fun name t h => (hinline name t h).2
  induction s using Json.induct with
  | hnull | hbool | hnum | hstr =>
      intro h
      rw [normalizeProperties, normalizeItems]
      · unfold normalizeNode
        exact ⟨h, h, h⟩
      all_goals exact fun _ h => by cases h
  | harr items ih =>
      intro h
      have hitems := refsOf_arr.mp h
      refine ⟨?_, ?_, ?_⟩
      · unfold normalizeNode
        exact h
      · rw [normalizeProperties]
        · exact h
        · exact fun _ h => by cases h
      · rw [normalizeItems]
        refine refsOf_arr.mpr fun v hv => ?_
        obtain ⟨item, hitem, rfl⟩ := mem_normalizeList hv
        exact (ih item hitem (hitems item hitem)).1
  | hobj node ih =>
      intro h
      have hnode := refsOf_obj.mp h
      have hih : ∀ field ∈ node, RefsOf S (normalizeNode inline field.2) ∧ RefsOf S (normalizeProperties inline field.2) ∧
          RefsOf S (normalizeItems inline field.2) := fun field hfield => ih field hfield (hnode.fields field hfield).value
      have hfields : FieldsOf S (normalizeFields inline node) := by
        refine ⟨?_, fun field hfield => ?_⟩
        · rw [Dict.Distinct, keys_normalizeFields]
          exact hnode.distinct
        · obtain ⟨value, hvalue, heq⟩ := mem_normalizeFields hfield
          have hold := hnode.fields _ hvalue
          obtain ⟨hone, hprops, hitems⟩ := hih _ hvalue
          obtain ⟨key, normalized⟩ := field
          simp only at hvalue heq hold hone hprops hitems
          rw [heq]
          split
          · rename_i hkey
            exact fieldOf_of_ne (by rw [hkey]; decide) hprops
          · split
            · rename_i hkey
              exact fieldOf_of_ne (by rcases hkey with rfl | rfl | rfl <;> decide) hone
            · split
              · rename_i hkey
                exact fieldOf_of_ne (by rcases hkey with rfl | rfl | rfl <;> decide) hitems
              · exact hold
      refine ⟨?_, ?_, ?_⟩
      · unfold normalizeNode
        split
        · rename_i ref hlookup
          exact refsOf_resolveRef hnode fun t ht => (hinline _ t ht).1
        · split
          · exact refsOf_obj.mpr (hnode.normalizeUnion hfields)
          · exact refsOf_obj.mpr (hfields.erase _).constToEnum
      · rw [normalizeProperties]
        refine refsOf_obj.mpr ⟨?_, fun field hfield => ?_⟩
        · rw [Dict.Distinct, keys_normalizeEach]
          exact hnode.distinct
        · obtain ⟨value, hvalue, heq⟩ := mem_normalizeEach hfield
          have hnormalized := fieldOf_normalizeNode (hnode.fields _ hvalue) (hih _ hvalue).1 hschema
          rw [← heq] at hnormalized
          exact hnormalized
      · rw [normalizeItems]
        · exact h
        · exact fun _ h => by cases h

/-- What is inlined for a name has no references but those of the definitions. -/
theorem refsOf_inlineRef (hdefs : ∀ definition ∈ defs, RefsOf S definition.2 ∧ IsSchema definition.2)
    (stack : List String) (name : String) : ∀ t, inlineRef defs stack name = some t → RefsOf S t ∧ IsSchema t := by
  induction stack, name using inlineRef.induct defs with
  | case1 stack name hstack =>
      intro t ht
      rw [inlineRef, dif_pos hstack] at ht
      cases ht
  | case2 stack name hstack hlookup =>
      intro t ht
      rw [inlineRef, dif_neg hstack] at ht
      split at ht <;> simp_all
  | case3 stack name hstack hlookup =>
      intro t ht
      rw [inlineRef, dif_neg hstack] at ht
      split at ht <;> simp_all
  | case4 stack name hstack target hnull hlookup ih =>
      intro t ht
      rw [inlineRef, dif_neg hstack] at ht
      split at ht
      · cases ht
      · cases ht
      · rename_i target' hnull' hlookup'
        obtain rfl := Option.some.inj ht
        obtain ⟨hrefs, hschema⟩ := hdefs _ (Dict.mem_of_lookup hlookup')
        exact ⟨(refsOf_normalizeNode ih _ hrefs).1, hschema.normalizeNode fun name t h => (ih name t h).2⟩

/-! ### Reachable definitions -/

/-- The collected names are those of the references in the document. -/
theorem mem_collectRefNames {ref : String} (h : RefIn ref j) (hj : j.WellFormed) : refName ref ∈ collectRefNames j := by
  induction h with
  | @here fields hmem =>
      cases hj with
      | obj hdistinct =>
          rw [collectRefNames, Dict.lookup_of_mem hdistinct hmem]
          exact List.mem_append_left _ (List.mem_singleton.mpr rfl)
  | @field fields field hfield href ih =>
      cases hj with
      | obj hdistinct hfields =>
          rw [collectRefNames]
          refine List.mem_append_right _ ?_
          have hname := ih (hfields field hfield)
          clear hdistinct hfields
          induction fields with
          | nil => cases hfield
          | cons head rest ihrest =>
              rw [collectFields]
              rcases List.mem_cons.mp hfield with rfl | hfield
              · exact List.mem_append_left _ hname
              · exact List.mem_append_right _ (ihrest hfield)
  | @item items v hv href ih =>
      cases hj with
      | arr hitems =>
          rw [collectRefNames]
          have hname := ih (hitems v hv)
          clear hitems
          induction items with
          | nil => cases hv
          | cons head rest ihrest =>
              rw [collectItems]
              rcases List.mem_cons.mp hv with rfl | hv
              · exact List.mem_append_left _ hname
              · exact List.mem_append_right _ (ihrest hv)

/-- The names that one definition refers to. -/
def successors (defs : Fields) (name : String) : List String := collectRefNames ((defs.lookup name).getD .null)

/-- The loop keeps the defined names that were pending, those it had kept, and with a name the defined names that
it refers to. -/
theorem pruneLoop_closed (defs : Fields) (kept pending : List String)
    (hkept : ∀ name ∈ kept, ∀ next ∈ successors defs name, next ∈ Dict.keys defs → next ∈ kept ∨ next ∈ pending) :
    (∀ name, name ∈ kept ∨ name ∈ pending ∧ name ∈ Dict.keys defs → name ∈ pruneLoop defs kept pending) ∧
      ∀ name ∈ pruneLoop defs kept pending, ∀ next ∈ successors defs name, next ∈ Dict.keys defs →
        next ∈ pruneLoop defs kept pending := by
  induction kept, pending using pruneLoop.induct defs with
  | case1 kept =>
      rw [pruneLoop]
      refine ⟨fun name h => ?_, fun name hname next hnext hdefined => ?_⟩
      · exact h.resolve_right fun h => nomatch h.1
      · exact (hkept name hname next hnext hdefined).resolve_right (List.not_mem_nil)
  | case2 kept name pending hname ih =>
      rw [pruneLoop, dif_pos hname]
      obtain ⟨hmem, hclosed⟩ := ih fun other hother next hnext hdefined => by
        rcases List.mem_cons.mp hother with rfl | hother
        · exact .inr (List.mem_append_left _ hnext)
        · rcases hkept other hother next hnext hdefined with h | h
          · exact .inl (List.mem_cons_of_mem _ h)
          · rcases List.mem_cons.mp h with rfl | h
            · exact .inl List.mem_cons_self
            · exact .inr (List.mem_append_right _ h)
      refine ⟨fun other h => hmem other ?_, hclosed⟩
      rcases h with h | ⟨h, hdefined⟩
      · exact .inl (List.mem_cons_of_mem _ h)
      · rcases List.mem_cons.mp h with rfl | h
        · exact .inl List.mem_cons_self
        · exact .inr ⟨List.mem_append_right _ h, hdefined⟩
  | case3 kept name pending hname ih =>
      rw [pruneLoop, dif_neg hname]
      have hskip : ∀ other, other = name → other ∈ Dict.keys defs → other ∈ kept := by
        rintro other rfl hdefined
        by_contra hnot
        exact hname ⟨hnot, hdefined⟩
      obtain ⟨hmem, hclosed⟩ := ih fun other hother next hnext hdefined => by
        rcases hkept other hother next hnext hdefined with h | h
        · exact .inl h
        · rcases List.mem_cons.mp h with h | h
          · exact .inl (hskip next h hdefined)
          · exact .inr h
      refine ⟨fun other h => hmem other ?_, hclosed⟩
      rcases h with h | ⟨h, hdefined⟩
      · exact .inl h
      · rcases List.mem_cons.mp h with h | h
        · exact .inl (hskip other h hdefined)
        · exact .inr ⟨h, hdefined⟩

/-- The kept definitions are those that the initial names lead to. -/
theorem mem_keys_pruneDefs {initial : List String} :
    name ∈ Dict.keys (pruneDefs defs initial) ↔ name ∈ Dict.keys defs ∧ name ∈ pruneLoop defs [] initial := by
  simp only [Dict.keys, pruneDefs, List.mem_map, List.mem_filter, List.elem_eq_mem, decide_eq_true_eq]
  constructor
  · rintro ⟨definition, ⟨hmem, hkept⟩, rfl⟩
    exact ⟨⟨definition, hmem, rfl⟩, hkept⟩
  · rintro ⟨⟨definition, hmem, rfl⟩, hkept⟩
    exact ⟨definition, ⟨hmem, hkept⟩, rfl⟩

theorem refName_of_slashless (h : '/' ∉ name.toList) : refName ("#/$defs/" ++ name) = name := by
  have hstop : ("#/$defs/".toList.reverse.takeWhile (· != '/')) = [] := by decide
  have hpass : ∀ c ∈ name.toList.reverse, (c != '/') = true := by
    intro c hc
    rw [bne_iff_ne]
    rintro rfl
    exact h (List.mem_reverse.mp hc)
  rw [refName, String.toList_append, List.reverse_append, List.takeWhile_append_of_pos hpass, hstop, List.append_nil,
    List.reverse_reverse, String.ofList_toList]

/-- Of the references to the definitions, those whose names are kept point to the kept definitions. -/
theorem PointsTo.pruned {initial : List String} {ref : String} (h : PointsTo defs ref)
    (hkept : refName ref ∈ pruneLoop defs [] initial) : PointsTo (pruneDefs defs initial) ref := by
  obtain ⟨name, rfl, hslash, hmem⟩ := h
  rw [refName_of_slashless hslash] at hkept
  exact ⟨name, rfl, hslash, mem_keys_pruneDefs.mpr ⟨hmem, hkept⟩⟩

/-! ### The published schema -/

theorem FieldsOf.rootDefinitions (h : FieldsOf S schema) : FieldsOf S (rootDefinitions schema) := by
  rw [GdbMcp.rootDefinitions]
  split
  · rename_i defs hlookup
    exact refsOf_obj.mp (h.lookup hlookup)
  · exact .nil

/-- Publishing the definitions that are left closes a schema whose references point to them. -/
theorem keepDefinitions_closed (hdistinct : Dict.Distinct defs)
    (hdefs : ∀ definition ∈ defs, RefsOf (PointsTo defs) definition.2 ∧ IsSchema definition.2)
    (hj : RefsOf (PointsTo defs) j) (hschema : IsSchema j) : Closed (keepDefinitions defs j) := by
  rcases hschema with ⟨b, rfl⟩ | ⟨fields, rfl⟩
  · exact fun ref href => by cases href
  rw [keepDefinitions]
  simp only []
  split
  · rename_i hnone
    intro ref href
    have hmem := mem_collectRefNames href hj.wellFormed
    rw [List.isEmpty_iff.mp hnone] at hmem
    cases hmem
  · generalize hinitial : collectRefNames (.obj fields) = initial
    obtain ⟨hstart, hclosed⟩ := pruneLoop_closed defs [] initial fun name hname => by cases hname
    have hkept : ∀ definition ∈ pruneDefs defs initial,
        RefsOf (PointsTo (pruneDefs defs initial)) definition.2 ∧ IsSchema definition.2 := by
      intro definition hdefinition
      obtain ⟨hmem, hname⟩ := List.mem_filter.mp hdefinition
      rw [List.elem_eq_mem, decide_eq_true_eq] at hname
      obtain ⟨hrefs, hschema⟩ := hdefs definition hmem
      refine ⟨hrefs.mono fun ref href hpoints => hpoints.pruned ?_, hschema⟩
      have hnext : refName ref ∈ successors defs definition.1 := by
        rw [successors, Dict.lookup_of_mem hdistinct hmem]
        exact mem_collectRefNames href hrefs.wellFormed
      obtain ⟨name, rfl, hslash, hdefined⟩ := hpoints
      exact hclosed _ hname _ hnext (by rwa [refName_of_slashless hslash])
    have hroot : FieldsOf (PointsTo (pruneDefs defs initial)) fields := by
      refine refsOf_obj.mp (hj.mono fun ref href hpoints => hpoints.pruned (hstart _ (.inr ⟨?_, ?_⟩)))
      · rw [← hinitial]
        exact mem_collectRefNames href hj.wellFormed
      · obtain ⟨name, rfl, hslash, hdefined⟩ := hpoints
        rwa [refName_of_slashless hslash]
    have hpublished : FieldsOf (PointsTo (pruneDefs defs initial)) ((pruneDefs defs initial).map fun definition =>
        (definition.1, normalizeNode (inlineRef (pruneDefs defs initial) [definition.1]) definition.2)) := by
      have hraw : FieldsOf (PointsTo (pruneDefs defs initial)) (pruneDefs defs initial) := by
        refine ⟨hdistinct.sublist (List.filter_sublist.map _), fun definition hdefinition => ⟨(hkept _ hdefinition).1, ?_⟩⟩
        intro _ ref heq
        rcases (hkept _ hdefinition).2 with ⟨b, hb⟩ | ⟨fields, hfields⟩
        · cases hb.symm.trans heq
        · cases hfields.symm.trans heq
      refine hraw.map fun definition hdefinition => ?_
      have hinline := refsOf_inlineRef hkept [definition.1]
      exact fieldOf_normalizeNode (hraw.fields _ hdefinition)
        (refsOf_normalizeNode hinline _ (hkept _ hdefinition).1).1 fun name t h => (hinline name t h).2
    have hresult := hroot.set (fieldOf_obj (refsOf_obj.mpr hpublished) : FieldOf _ ("$defs", _))
    intro ref href
    obtain ⟨name, rfl, hslash, hname⟩ := (refsOf_obj.mpr hresult).refs ref href
    refine ⟨name, rfl, hslash, ?_⟩
    rw [definitionsOf, rootDefinitions, Dict.lookup_set, if_pos (beq_self_eq_true _)]
    rw [Dict.keys, List.map_map]
    exact hname

/-- The normalizer terminates on every closed schema, however its references turn in circles, and what it
publishes is closed. -/
theorem normalizeInputSchema_closed (h : ClosedSchema schema) : Closed (normalizeInputSchema schema) := by
  have hfields : FieldsOf (PointsTo (rootDefinitions schema)) schema := refsOf_obj.mp ⟨h.wellFormed, h.closed⟩
  have hdefs : ∀ definition ∈ rootDefinitions schema,
      RefsOf (PointsTo (rootDefinitions schema)) definition.2 ∧ IsSchema definition.2 := fun definition hdefinition =>
    ⟨(hfields.rootDefinitions.fields definition hdefinition).value, h.definitions definition hdefinition⟩
  have hinline := refsOf_inlineRef hdefs []
  refine keepDefinitions_closed hfields.rootDefinitions.distinct hdefs ?_ ?_
  · exact (refsOf_normalizeNode hinline _ (refsOf_obj.mpr (hfields.erase "$defs"))).1
  · exact IsSchema.normalizeNode (.inr ⟨_, rfl⟩) fun name t ht => (hinline name t ht).2

/-- A node of a linked list, which refers to itself through a union. -/
def listNode : Json :=
  .obj [("type", .str "object"), ("properties", .obj
    [("next", .obj [("anyOf", .arr [.obj [("$ref", .str "#/$defs/Node")], .obj [("type", .str "null")]])])])]

def linkedList : Fields := [("$ref", .str "#/$defs/Node"), ("$defs", .obj [("Node", listNode)])]

theorem closedSchema_linkedList : ClosedSchema linkedList := by
  have hpoints : PointsTo [("Node", listNode)] "#/$defs/Node" := ⟨"Node", rfl, by decide, List.mem_singleton.mpr rfl⟩
  have hone : ∀ {key : String} {value : Json}, FieldOf (PointsTo [("Node", listNode)]) (key, value) →
      FieldsOf (PointsTo [("Node", listNode)]) [(key, value)] := fun h =>
    ⟨List.nodup_singleton _, fun field hfield => List.mem_singleton.mp hfield ▸ h⟩
  have hreference : FieldOf (PointsTo [("Node", listNode)]) ("$ref", .str "#/$defs/Node") :=
    ⟨refsOf_str _, fun _ ref href => Json.str.inj href ▸ hpoints⟩
  have hunion : RefsOf (PointsTo [("Node", listNode)])
      (.arr [.obj [("$ref", .str "#/$defs/Node")], .obj [("type", .str "null")]]) := by
    refine refsOf_arr.mpr fun v hv => ?_
    rcases List.mem_cons.mp hv with rfl | hv
    · exact refsOf_obj.mpr (hone hreference)
    · rw [List.mem_singleton.mp hv]
      exact refsOf_obj.mpr (fieldsOf_type "null")
  have hnode : RefsOf (PointsTo [("Node", listNode)]) listNode := by
    have hnext := hone (fieldOf_obj (refsOf_obj.mpr (hone (fieldOf_of_ne (by decide) hunion))) :
      FieldOf _ ("next", .obj [("anyOf", _)]))
    exact refsOf_obj.mpr ((fieldsOf_type "object").set (fieldOf_obj (refsOf_obj.mpr hnext) : FieldOf _ ("properties", _)))
  have hdefinitions := hone (fieldOf_obj hnode : FieldOf _ ("Node", _))
  have hschema : FieldsOf (PointsTo [("Node", listNode)]) linkedList :=
    (hone hreference).set (fieldOf_obj (refsOf_obj.mpr hdefinitions) : FieldOf _ ("$defs", _))
  obtain ⟨hwellFormed, hrefs⟩ := refsOf_obj.mpr hschema
  have hdefinition : IsSchema listNode := .inr ⟨_, rfl⟩
  exact ⟨hwellFormed, fun definition hmem => List.mem_singleton.mp hmem ▸ hdefinition, hrefs⟩

theorem normalizeInputSchema_closed_linkedList : Closed (normalizeInputSchema linkedList) :=
  normalizeInputSchema_closed closedSchema_linkedList

end GdbMcp
