import GdbMcp.SchemaFlat

/-! The schemas that the normalizer is given, and that it flattens them: with references that do not turn in a
circle, what is published holds no combinator. -/

namespace GdbMcp

/-- A name in a JSON pointer. -/
def escapeName (name : String) : String :=
  String.ofList (name.toList.flatMap fun c => if c = '~' then ['~', '0'] else if c = '/' then ['~', '1'] else [c])

/-- The reference to a root definition. -/
def pointer (name : String) : String := "#/$defs/" ++ escapeName name

/-- A name that stands for itself in a JSON pointer. -/
def PlainName (name : String) : Prop := ∀ c ∈ name.toList, c ≠ '~' ∧ c ≠ '/'

/-- The forms of a schema node: what its data may be, what annotations may stand beside a reference, and what
it may refer to. -/
inductive NodeForm (data : Json → Prop) (beside : List String) (refers : String → Prop) : Json → Prop
  | bool (b : Bool) : NodeForm data beside refers (.bool b)
  | plain {node : Fields} (hkeys : ∀ field ∈ node, field.1 ∉ ["oneOf", "anyOf", "$ref", "$defs"])
      (hproperties : ∀ value, ("properties", value) ∈ node → ∃ properties, value = .obj properties)
      (hitems : ∀ value, ("prefixItems", value) ∈ node → ∃ schemas, value = .arr schemas)
      (hdata : ∀ field ∈ node,
        field.1 ∉ ["properties", "items", "contains", "additionalProperties", "prefixItems", "discriminator"] →
          data field.2) : NodeForm data beside refers (.obj node)
  | union {node : Fields} (hsome : ∃ field ∈ node, field.1 ∈ ["oneOf", "anyOf"])
      (hbeside : ∀ field ∈ node, field.1 ∈ ["oneOf", "anyOf"] ∧ (∃ alternatives, field.2 = .arr alternatives) ∨
        field.1 = "discriminator" ∨ field.1 ∈ ["title", "description", "default"] ∧ data field.2) :
      NodeForm data beside refers (.obj node)
  | ref {node : Fields} {name : String} (hname : refers name) (hsome : ("$ref", .str (pointer name)) ∈ node)
      (hbeside : ∀ field ∈ node, field = ("$ref", .str (pointer name)) ∨ field.1 ∈ beside ∧ data field.2) :
      NodeForm data beside refers (.obj node)

/-- A reference to a definition stands somewhere in a schema. -/
def Mentions (schema : Json) (name : String) : Prop :=
  ∃ node, Position schema (.obj node) ∧ ("$ref", .str (pointer name)) ∈ node

/-- One definition refers to another one. -/
def Refers (defs : Fields) (name name' : String) : Prop := ∃ target, defs.lookup name = some target ∧ Mentions target name'

/-- A schema for the normalizer: every node of the schema and of its definitions has one of the forms, and the
references do not turn in a circle. -/
structure InputSchema (data : Json → Prop) (beside : List String) (refers : String → Prop) (schema : Fields) :
    Prop where
  root : ∀ p, Position (.obj (Dict.erase schema "$defs")) p →
    NodeForm data beside (fun name => name ∈ Dict.keys (rootDefinitions schema) ∧ refers name) p
  definitions : ∀ field ∈ rootDefinitions schema, ∀ p, Position field.2 p →
    NodeForm data beside (fun name => name ∈ Dict.keys (rootDefinitions schema) ∧ refers name) p
  acyclic : ∀ name, ¬Relation.TransGen (Refers (rootDefinitions schema)) name name

variable {fields node defs schema : Fields} {s : Json} {key name : String} {inline : String → Option Json}
  {refers : String → Prop}

theorem refName_pointer (h : PlainName name) : refName (pointer name) = name := by
  have hescape : escapeName name = name := by
    have hflat : ∀ chars : List Char, (∀ c ∈ chars, c ≠ '~' ∧ c ≠ '/') →
        (chars.flatMap fun c => if c = '~' then ['~', '0'] else if c = '/' then ['~', '1'] else [c]) = chars := by
      intro chars hchars
      induction chars with
      | nil => rfl
      | cons c rest ih =>
          rw [List.forall_mem_cons] at hchars
          rw [List.flatMap_cons, ih hchars.2, if_neg hchars.1.1, if_neg hchars.1.2]
          rfl
    rw [escapeName, hflat _ h, String.ofList_toList]
  have hstop : ("#/$defs/".toList.reverse.takeWhile (· != '/')) = [] := by decide
  rw [refName, pointer, hescape, String.toList_append, List.reverse_append,
    List.takeWhile_append_of_pos fun c hc => bne_iff_ne.mpr (h c (List.mem_reverse.mp hc)).2, hstop, List.append_nil,
    List.reverse_reverse, String.ofList_toList]

theorem sizeOf_child {child : Json} (h : Child s child) : sizeOf child < sizeOf s := by
  cases h with
  | property hproperties hschema =>
      have h₁ := List.sizeOf_lt_of_mem hproperties
      have h₂ := List.sizeOf_lt_of_mem hschema
      simp only [Prod.mk.sizeOf_spec, Json.obj.sizeOf_spec] at h₁ h₂ ⊢
      omega
  | single _ hschema =>
      have h₁ := List.sizeOf_lt_of_mem hschema
      simp only [Prod.mk.sizeOf_spec, Json.obj.sizeOf_spec] at h₁ ⊢
      omega
  | listed _ hschemas hschema =>
      have h₁ := List.sizeOf_lt_of_mem hschemas
      have h₂ := List.sizeOf_lt_of_mem hschema
      simp only [Prod.mk.sizeOf_spec, Json.obj.sizeOf_spec, Json.arr.sizeOf_spec] at h₁ h₂ ⊢
      omega

/-- The normalized value of a field. -/
theorem mem_normalizeFields {field : String × Json} (h : field ∈ normalizeFields inline fields) :
    ∃ value, (field.1, value) ∈ fields ∧ field.2 =
      if field.1 = "properties" then normalizeProperties inline value
      else if field.1 = "items" ∨ field.1 = "additionalProperties" ∨ field.1 = "contains" then normalizeNode inline value
      else if field.1 = "prefixItems" ∨ field.1 = "oneOf" ∨ field.1 = "anyOf" then normalizeItems inline value
      else value := by
  induction fields with
  | nil => rw [normalizeFields] at h; exact nomatch h
  | cons head rest ih =>
      rw [normalizeFields] at h
      rcases List.mem_cons.mp h with rfl | h
      · exact ⟨head.2, List.mem_cons_self, rfl⟩
      · obtain ⟨value, hvalue, heq⟩ := ih h
        exact ⟨value, List.mem_cons_of_mem _ hvalue, heq⟩

theorem keys_normalizeFields (inline : String → Option Json) (fields : Fields) :
    Dict.keys (normalizeFields inline fields) = Dict.keys fields := by
  induction fields with
  | nil => rw [normalizeFields]
  | cons head rest ih => rw [normalizeFields, Dict.keys, List.map_cons, ← Dict.keys, ih, Dict.keys, Dict.keys, List.map_cons]

theorem mem_normalizeEach {p : String × Json} (h : p ∈ normalizeEach inline fields) :
    ∃ value, (p.1, value) ∈ fields ∧ p.2 = normalizeNode inline value := by
  induction fields with
  | nil => rw [normalizeEach] at h; exact nomatch h
  | cons head rest ih =>
      rw [normalizeEach] at h
      rcases List.mem_cons.mp h with rfl | h
      · exact ⟨head.2, List.mem_cons_self, rfl⟩
      · obtain ⟨value, hvalue, heq⟩ := ih h
        exact ⟨value, List.mem_cons_of_mem _ hvalue, heq⟩

theorem mem_normalizeList {items : List Json} {v : Json} (h : v ∈ normalizeList inline items) :
    ∃ value ∈ items, v = normalizeNode inline value := by
  induction items with
  | nil => rw [normalizeList] at h; exact nomatch h
  | cons head rest ih =>
      rw [normalizeList] at h
      rcases List.mem_cons.mp h with rfl | h
      · exact ⟨head, List.mem_cons_self, rfl⟩
      · obtain ⟨value, hvalue, heq⟩ := ih h
        exact ⟨value, List.mem_cons_of_mem _ hvalue, heq⟩

/-- The annotations that may stand beside a union or a reference. -/
def annotations : List String := ["title", "description", "default"]

theorem plainKey_of_annotated (h : key ∈ annotations) : plainKey key := by
  simp only [annotations, List.mem_cons, List.not_mem_nil, or_false] at h
  rcases h with rfl | rfl | rfl <;> simp [plainKey, combinators]

theorem normalizeNode_ref {ref : String} (h : node.lookup "$ref" = some (.str ref)) :
    normalizeNode inline (.obj node) = resolveRef inline node ref := by
  unfold normalizeNode
  rw [h]

theorem resolveRef_settled {resolved : Json} {ref : String} (hinline : inline (refName ref) = some resolved)
    (hresolved : Settled resolved) (hbeside : ∀ field ∈ node, field.1 = "$ref" ∨ field.1 ∈ annotations ∧ RefFree field.2) :
    Settled (resolveRef inline node ref) := by
  rw [resolveRef, hinline]
  rcases hresolved.form _ .refl with ⟨b, rfl⟩ | ⟨fields, rfl⟩
  · exact settled_bool b
  · refine settled_obj.mpr (update_settled (settled_obj.mp hresolved) fun field hfield => ?_)
    obtain ⟨hfield, hkey⟩ := Dict.mem_erase.mp hfield
    obtain ⟨hmark, hdata⟩ := (hbeside field hfield).resolve_left hkey
    exact settledField_plain (plainKey_of_annotated hmark) hdata

theorem constToEnum_settled (h : ∀ field ∈ fields, field.1 ≠ "const" → SettledField field)
    (hconst : ∀ value, ("const", value) ∈ fields → RefFree value) : ∀ field ∈ constToEnum fields, SettledField field := by
  unfold constToEnum
  split
  · rename_i value hlookup
    have hrest : ∀ field ∈ Dict.erase fields "const", SettledField field := fun field hfield =>
      h field (Dict.mem_erase.mp hfield).1 (Dict.mem_erase.mp hfield).2
    simp only []
    split
    · exact hrest
    · refine set_settled hrest (settledField_plain (by simp [plainKey, combinators]) (refFree_arr.mpr fun v hv => ?_))
      rw [List.mem_singleton.mp hv]
      exact hconst value (Dict.mem_of_lookup hlookup)
  · rename_i hlookup
    refine fun field hfield => h field hfield fun hkey => ?_
    rw [Dict.lookup_eq_none, ← hkey] at hlookup
    exact hlookup (List.mem_map_of_mem hfield)

/-- The fields of a node that is no union and no reference, once its schemas are settled. -/
theorem normalizeFields_settled (hkeys : ∀ field ∈ node, field.1 ∉ ["oneOf", "anyOf", "$ref", "$defs"])
    (hproperties : ∀ value, ("properties", value) ∈ node → ∃ properties, value = .obj properties)
    (hitems : ∀ value, ("prefixItems", value) ∈ node → ∃ schemas, value = .arr schemas)
    (hdata : ∀ field ∈ node,
      field.1 ∉ ["properties", "items", "contains", "additionalProperties", "prefixItems", "discriminator"] →
        RefFree field.2)
    (hchild : ∀ c, Child (.obj node) c → Settled (normalizeNode inline c)) {field : String × Json}
    (hfield : field ∈ normalizeFields inline node) (hdiscriminator : field.1 ≠ "discriminator")
    (hconst : field.1 ≠ "const") : SettledField field := by
  obtain ⟨value, hvalue, heq⟩ := mem_normalizeFields hfield
  have hkey := hkeys _ hvalue
  obtain ⟨key, normalized⟩ := field
  simp only at hvalue heq hkey hconst hdiscriminator
  by_cases hprops : key = "properties"
  · subst hprops
    obtain ⟨properties, rfl⟩ := hproperties value hvalue
    rw [heq, if_pos rfl, normalizeProperties]
    refine settledField_properties fun p hp => ?_
    obtain ⟨schema, hschema, heq⟩ := mem_normalizeEach hp
    rw [heq]
    exact hchild _ (.property hvalue hschema)
  rw [if_neg hprops] at heq
  by_cases hsingle : key = "items" ∨ key = "additionalProperties" ∨ key = "contains"
  · have hsettled := hchild value (.single (by simp; tauto) hvalue)
    rw [heq, if_pos hsingle]
    refine ⟨?_, hsettled.refFree, fun h => absurd h hprops, fun _ => hsettled, fun h => ?_⟩
    · rcases hsingle with rfl | rfl | rfl <;> simp [combinators]
    · rw [show key = "prefixItems" from h] at hsingle
      simp at hsingle
  rw [if_neg hsingle] at heq
  by_cases hlist : key = "prefixItems"
  · subst hlist
    obtain ⟨schemas, rfl⟩ := hitems value hvalue
    have hsettled : ∀ v ∈ normalizeList inline schemas, Settled v := by
      intro v hv
      obtain ⟨schema, hschema, rfl⟩ := mem_normalizeList hv
      exact hchild _ (.listed (by simp) hvalue hschema)
    rw [heq, if_pos (.inl rfl), normalizeItems]
    refine ⟨by simp [combinators], refFree_arr.mpr fun v hv => (hsettled v hv).refFree, by simp, by simp, ?_⟩
    rintro - _ ⟨⟩
    exact hsettled
  · simp only [List.mem_cons, List.not_mem_nil, or_false, not_or] at hkey
    rw [if_neg (by tauto)] at heq
    subst heq
    refine settledField_plain ?_ (hdata _ hvalue ?_)
    · simp only [plainKey, combinators, List.mem_cons, List.not_mem_nil, or_false, not_or] at hsingle ⊢
      tauto
    · simp only [List.mem_cons, List.not_mem_nil, or_false, not_or] at hsingle ⊢
      tauto

/-- The alternatives of a union, once its schemas are settled. -/
theorem exists_alternatives (hsome : ∃ field ∈ node, field.1 ∈ ["oneOf", "anyOf"])
    (hlists : ∀ key ∈ ["oneOf", "anyOf"], ∀ value, (key, value) ∈ node → ∃ schemas, value = .arr schemas)
    (hchild : ∀ c, Child (.obj node) c → Settled (normalizeNode inline c)) :
    ∃ alternatives, ((normalizeFields inline node).lookup "oneOf").or ((normalizeFields inline node).lookup "anyOf") =
      some (.arr alternatives) ∧ ∀ v ∈ alternatives, Settled v := by
  have halternatives : ∀ {key value}, key ∈ ["oneOf", "anyOf"] → (normalizeFields inline node).lookup key = some value →
      ∃ alternatives, value = .arr alternatives ∧ ∀ v ∈ alternatives, Settled v := by
    intro key value hkey hlookup
    obtain ⟨raw, hraw, heq⟩ := mem_normalizeFields (Dict.mem_of_lookup hlookup)
    obtain ⟨schemas, rfl⟩ := hlists key hkey raw hraw
    simp only [List.mem_cons, List.not_mem_nil, or_false] at hkey
    refine ⟨normalizeList inline schemas, ?_, fun v hv => ?_⟩
    · rcases hkey with rfl | rfl <;> simpa [normalizeItems] using heq
    · obtain ⟨schema, hschema, rfl⟩ := mem_normalizeList hv
      exact hchild _ (.listed (by rcases hkey with rfl | rfl <;> simp) hraw hschema)
  cases honeOf : (normalizeFields inline node).lookup "oneOf" with
  | some value =>
      obtain ⟨alternatives, rfl, hsettled⟩ := halternatives (by simp) honeOf
      exact ⟨alternatives, rfl, hsettled⟩
  | none =>
      obtain ⟨field, hfield, hkey⟩ := hsome
      rw [Dict.lookup_eq_none, keys_normalizeFields] at honeOf
      have hanyOf : "anyOf" ∈ Dict.keys (normalizeFields inline node) := by
        rw [keys_normalizeFields]
        simp only [List.mem_cons, List.not_mem_nil, or_false] at hkey
        rcases hkey with hkey | hkey
        · exact absurd (hkey ▸ List.mem_map_of_mem hfield) honeOf
        · exact hkey ▸ List.mem_map_of_mem hfield
      obtain ⟨value, hvalue⟩ := Dict.exists_lookup hanyOf
      obtain ⟨alternatives, rfl, hsettled⟩ := halternatives (by simp) hvalue
      exact ⟨alternatives, hvalue, hsettled⟩

/-- A node of one of the forms is settled once it is normalized, where its references have been. -/
theorem normalizeNode_settled (schema : Json)
    (hform : ∀ p, Position schema p → NodeForm RefFree annotations refers p)
    (hinline : ∀ name, refers name → Mentions schema name →
      ∃ resolved, inline (refName (pointer name)) = some resolved ∧ Settled resolved) :
    Settled (normalizeNode inline schema) := by
  induction hsize : sizeOf schema using Nat.strong_induction_on generalizing schema with
  | _ size ih =>
    subst hsize
    have hchild : ∀ c, Child schema c → Settled (normalizeNode inline c) := by
      refine fun c hc => ih _ (sizeOf_child hc) c (fun p hp => hform p (hp.head hc)) ?_ rfl
      rintro name hname ⟨node, hposition, hmem⟩
      exact hinline name hname ⟨node, hposition.head hc, hmem⟩
    cases hform schema .refl with
    | bool b => exact settled_bool b
    | @ref node name hname hsome hbeside =>
        obtain ⟨resolved, hresolved, hsettled⟩ := hinline name hname ⟨node, .refl, hsome⟩
        have hlookup : node.lookup "$ref" = some (.str (pointer name)) := by
          obtain ⟨value, hvalue⟩ := Dict.exists_lookup (List.mem_map_of_mem (f := (·.1)) hsome)
          rcases hbeside _ (Dict.mem_of_lookup hvalue) with heq | ⟨hmark, -⟩
          · rw [hvalue, (Prod.mk.inj heq).2]
          · simp [annotations] at hmark
        rw [normalizeNode_ref hlookup]
        exact resolveRef_settled hresolved hsettled fun field hfield => (hbeside field hfield).imp_left fun heq => by rw [heq]
    | @plain node hkeys hproperties hitems hdata =>
        have hnone : node.lookup "$ref" = none := by
          refine Dict.lookup_eq_none.mpr fun hmem => ?_
          obtain ⟨field, hfield, hkey⟩ := List.mem_map.mp hmem
          exact hkeys field hfield (by rw [hkey]; simp)
        have hany : (node.any fun field => field.1 == "oneOf" || field.1 == "anyOf") = false := by
          refine List.any_eq_false.mpr fun field hfield => ?_
          have hkey := hkeys field hfield
          simp only [List.mem_cons, List.not_mem_nil, or_false, not_or] at hkey
          simp [hkey.1, hkey.2.1]
        unfold normalizeNode
        rw [hnone]
        simp only [hany]
        refine settled_obj.mpr (constToEnum_settled (fun field hfield hconst => ?_) fun value hvalue => ?_)
        · obtain ⟨hfield, hdiscriminator⟩ := Dict.mem_erase.mp hfield
          exact normalizeFields_settled hkeys hproperties hitems hdata hchild hfield hdiscriminator hconst
        · obtain ⟨value', hvalue', heq⟩ := mem_normalizeFields (Dict.mem_erase.mp hvalue).1
          simp at heq
          subst heq
          exact hdata _ hvalue' (by simp)
    | @union node hsome hbeside =>
        have hnone : node.lookup "$ref" = none := by
          refine Dict.lookup_eq_none.mpr fun hmem => ?_
          obtain ⟨field, hfield, hkey⟩ := List.mem_map.mp hmem
          rcases hbeside field hfield with ⟨h, -⟩ | h | ⟨h, -⟩ <;> rw [hkey] at h <;> simp at h
        have hany : (node.any fun field => field.1 == "oneOf" || field.1 == "anyOf") = true := by
          obtain ⟨field, hfield, hkey⟩ := hsome
          refine List.any_eq_true.mpr ⟨field, hfield, ?_⟩
          simpa using hkey
        have hlists : ∀ key ∈ ["oneOf", "anyOf"], ∀ value, (key, value) ∈ node → ∃ schemas, value = .arr schemas := by
          intro key hkey value hvalue
          simp only [List.mem_cons, List.not_mem_nil, or_false] at hkey
          rcases hbeside _ hvalue with ⟨-, h⟩ | h | ⟨h, -⟩
          · exact h
          · rcases hkey with rfl | rfl <;> simp at h
          · rcases hkey with rfl | rfl <;> simp at h
        obtain ⟨alternatives, hlookup, hsettled⟩ := exists_alternatives hsome hlists hchild
        unfold normalizeNode
        rw [hnone]
        simp only [hany]
        refine settled_obj.mpr (normalizeUnion_settled hlookup hsettled fun field hfield => ?_)
        rcases hbeside field hfield with ⟨hkey, -⟩ | hkey | ⟨hkey, hdata⟩
        · refine .inl ?_
          simp only [List.mem_cons, List.not_mem_nil, or_false] at hkey ⊢
          tauto
        · exact .inl (by rw [hkey]; simp)
        · exact .inr (settledField_plain (plainKey_of_annotated hkey) hdata)

/-- A reference is inlined where it closes no circle with those it stands in. -/
theorem inlineRef_settled (hdefs : ∀ field ∈ defs, ∀ p, Position field.2 p →
      NodeForm RefFree annotations (fun name => name ∈ Dict.keys defs ∧ PlainName name) p)
    (hacyclic : ∀ name, ¬Relation.TransGen (Refers defs) name name) (stack : List String) (name : String)
    (hname : name ∈ Dict.keys defs) (hstack : ∀ n ∈ stack, Relation.TransGen (Refers defs) n name) :
    ∃ resolved, inlineRef defs stack name = some resolved ∧ Settled resolved := by
  induction hsize : (Fields.outside defs stack).length using Nat.strong_induction_on generalizing stack name with
  | _ size ih =>
    subst hsize
    have hnew : name ∉ stack := fun hmem => hacyclic name (hstack name hmem)
    obtain ⟨target, hlookup⟩ := Dict.exists_lookup hname
    have htarget := hdefs _ (Dict.mem_of_lookup hlookup)
    have hnull : target ≠ .null := by
      rintro rfl
      cases htarget _ .refl
    refine ⟨normalizeNode (fun name' => inlineRef defs (stack ++ [name]) name') target, ?_, ?_⟩
    · rw [inlineRef, dif_neg hnew]
      split
      · rename_i h
        cases h.symm.trans hlookup
      · rename_i h
        exact absurd (Option.some.inj (hlookup.symm.trans h)) hnull
      · rename_i target' _ h
        rw [Option.some.inj (hlookup.symm.trans h)]
    · refine normalizeNode_settled target htarget fun name' hname' hmentions => ?_
      have hrefers : Relation.TransGen (Refers defs) name name' := .single ⟨target, hlookup, hmentions⟩
      rw [refName_pointer hname'.2]
      refine ih _ ?_ (stack ++ [name]) name' hname'.1 (fun n hn => ?_) rfl
      · exact Fields.outside_lt hnew hname (fun n hn => List.mem_append_left _ hn)
          (List.mem_append_right _ List.mem_cons_self)
      · rcases List.mem_append.mp hn with hn | hn
        · exact (hstack n hn).trans hrefers
        · rw [List.mem_singleton.mp hn]
          exact hrefers

theorem position_leaf (h : ∀ field ∈ node,
      field.1 ∉ ["properties", "items", "contains", "additionalProperties", "prefixItems", "anyOf", "oneOf"]) {p : Json}
    (hp : Position (.obj node) p) : p = .obj node := by
  rcases hp.cases_head with rfl | ⟨c, hc, -⟩
  · rfl
  · cases hc with
    | property hproperties => exact absurd (by simp) (h _ hproperties)
    | single hkey hschema =>
        refine absurd ?_ (h _ hschema)
        simp only [List.mem_cons, List.not_mem_nil, or_false] at hkey ⊢
        tauto
    | listed hkey hschemas =>
        refine absurd ?_ (h _ hschemas)
        simp only [List.mem_cons, List.not_mem_nil, or_false] at hkey ⊢
        tauto

/-- The definition of an object, under a name. -/
def objectDefinition (name : String) : String × Json := ("$defs", .obj [(name, .obj [("type", .str "object")])])

/-- One reference to the definition of an object, or none. -/
theorem inputSchema_leaf (name : String) {data : Json → Prop} {beside : List String} (hobject : data (.str "object"))
    (hleaf : ∀ field ∈ Dict.erase schema "$defs",
      field.1 ∉ ["properties", "items", "contains", "additionalProperties", "prefixItems", "anyOf", "oneOf"])
    (hdefs : rootDefinitions schema = [(name, .obj [("type", .str "object")])])
    (hform : NodeForm data beside (fun n => n ∈ [name] ∧ refers n) (.obj (Dict.erase schema "$defs"))) :
    InputSchema data beside refers schema := by
  have htype : ∀ p, Position (.obj [("type", .str "object")]) p → p = .obj [("type", .str "object")] :=
    fun p hp => position_leaf (by simp) hp
  refine ⟨fun p hp => ?_, fun field hfield p hp => ?_, fun n hcycle => ?_⟩
  · rw [position_leaf hleaf hp, hdefs]
    exact hform
  · rw [hdefs, List.mem_singleton] at hfield
    subst hfield
    rw [htype p hp]
    refine .plain (by simp) (by simp) (by simp) fun field hfield _ => ?_
    rw [List.mem_singleton.mp hfield]
    exact hobject
  · rw [Relation.TransGen.head'_iff] at hcycle
    obtain ⟨n', ⟨target, hlookup, node, hposition, hmem⟩, -⟩ := hcycle
    rw [hdefs] at hlookup
    have htarget := List.mem_singleton.mp (Dict.mem_of_lookup hlookup)
    rw [(Prod.mk.inj htarget).2] at hposition
    rw [Json.obj.inj (htype _ hposition)] at hmem
    simp at hmem

theorem not_flat_of_key {fields : Fields} (hkey : key ∈ combinators) (hmem : key ∈ Dict.keys fields) :
    ¬Flat (.obj fields) := by
  intro hflat
  obtain ⟨field, hfield, rfl⟩ := List.mem_map.mp hmem
  exact hflat fields .refl field hfield hkey

/-- The fields of a normalized schema are published, whatever references are left. -/
theorem not_flat_published (key : String) (normalized : Fields) (h : normalizeNode (inlineRef (rootDefinitions schema) [])
      (.obj (Dict.erase schema "$defs")) = .obj normalized) (hkey : key ∈ combinators)
    (hmem : key ∈ Dict.keys normalized ∨ key = "$defs" ∧ ¬RefFree (.obj normalized)) :
    ¬Flat (normalizeInputSchema schema) := by
  rw [normalizeInputSchema]
  rw [h, keepDefinitions]
  simp only []
  split
  · rename_i hnone
    refine not_flat_of_key hkey (hmem.resolve_right fun hrefs => hrefs.2 ?_)
    exact List.isEmpty_iff.mp hnone
  · exact not_flat_of_key hkey (Dict.mem_keys_set.mpr (hmem.symm.imp_left And.left))

theorem pointer_mem (name : String) {rest : Fields} : ("$ref", Json.str (pointer name)) ∈ ("$ref", .str (pointer name)) :: rest :=
  List.mem_cons_self

theorem plainName_point : PlainName "Point" := by
  intro c hc
  have hletter : c = 'P' ∨ c = 'o' ∨ c = 'i' ∨ c = 'n' ∨ c = 't' := by simpa using hc
  rcases hletter with rfl | rfl | rfl | rfl | rfl <;> decide

def titledReference : Fields := [("$ref", .str "#/$defs/Point"), ("title", .str "P"), objectDefinition "Point"]

def markedReference : Fields :=
  [("$ref", .str "#/$defs/Point"), ("discriminator", .obj [("propertyName", .str "kind")]), objectDefinition "Point"]

def referenceData : Fields := [("default", .obj [("$ref", .str "x")]), objectDefinition "Point"]

def escapedReference : Fields := [("$ref", .str "#/$defs/a~1b"), objectDefinition "a/b"]

end GdbMcp
