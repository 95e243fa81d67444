import GdbMcp.SchemaAccepts
import GdbMcp.SchemaClosed
import GdbMcp.SchemaMeaning

/-! Normalizing changes nothing of what a schema says where a union has one alternative besides null: a published
schema accepts the instances of the schema that it is made from. -/

namespace GdbMcp

variable {V : Vocabulary} {refers : String → Json → Bool} {key name : String} {value x : Json}
  {fields fields' node defs schema : Fields} {inline : String → Option Json}

/-! ### The forms of a node -/

def isNullAlternative : Json → Bool
  | .obj fields => isNullSchema fields
  | _ => false

/-- The nodes of a schema in which a union is an optional one: it has at most one alternative that is not null. -/
inductive OptionalForm (defined : String → Prop) : Json → Prop
  | bool (b : Bool) : OptionalForm defined (.bool b)
  | plain {node : Fields} (hdistinct : Dict.Distinct node)
      (hkeys : ∀ field ∈ node, field.1 ∉ ["oneOf", "anyOf", "$ref", "$defs"])
      (hone : ¬("const" ∈ Dict.keys node ∧ "enum" ∈ Dict.keys node)) : OptionalForm defined (.obj node)
  | union {node : Fields} {key : String} {alternatives : List Json} (hkey : key ∈ ["oneOf", "anyOf"])
      (hmem : (key, .arr alternatives) ∈ node)
      (hbeside : ∀ field ∈ node, field = (key, .arr alternatives) ∨ field.1 ∈ "discriminator" :: annotations)
      (hobjects : ∀ alternative ∈ alternatives, ∃ fields, alternative = .obj fields) (hsome : alternatives ≠ [])
      (hone : (alternatives.countP fun alternative => !isNullAlternative alternative) ≤ 1) : OptionalForm defined (.obj node)
  | ref {node : Fields} {name : String} (hname : defined name) (hmem : ("$ref", .str (pointer name)) ∈ node)
      (hbeside : ∀ field ∈ node, field = ("$ref", .str (pointer name)) ∨ field.1 ∈ annotations) :
      OptionalForm defined (.obj node)

/-- A schema of optional unions. Its references may turn in circles. -/
structure OptionalSchema (schema : Fields) : Prop where
  distinct : Dict.Distinct (rootDefinitions schema)
  objects : ∀ definition ∈ rootDefinitions schema, ∃ fields, definition.2 = .obj fields
  root : ∀ p, Position (.obj (Dict.erase schema "$defs")) p →
    OptionalForm (fun name => name ∈ Dict.keys (rootDefinitions schema) ∧ PlainName name) p
  definitions : ∀ definition ∈ rootDefinitions schema, ∀ p, Position definition.2 p →
    OptionalForm (fun name => name ∈ Dict.keys (rootDefinitions schema) ∧ PlainName name) p

variable {defined : String → Prop} {schemas : List Fields} {normalized : Fields}

theorem commentary_of_beside (h : key ∈ "discriminator" :: annotations) : key ∈ commentary := by
  simp only [annotations, commentary, List.mem_cons, List.not_mem_nil, or_false] at h ⊢
  tauto

theorem lookup_constToEnum (hconst : key ≠ "const") (henum : key ≠ "enum") :
    (constToEnum fields).lookup key = fields.lookup key := by
  rw [constToEnum]
  split
  · dsimp only
    split
    · rw [Dict.lookup_erase, if_neg (by simpa using hconst)]
    · rw [Dict.lookup_set, if_neg (by simpa using henum), Dict.lookup_erase, if_neg (by simpa using hconst)]
  · rfl

theorem lookup_update (h : ∀ field ∈ fields', field.1 ≠ key) : (Dict.update fields fields').lookup key = fields.lookup key := by
  induction fields' generalizing fields with
  | nil => rfl
  | cons field rest ih =>
      rw [List.forall_mem_cons] at h
      refine (ih h.2).trans ?_
      rw [Dict.lookup_set, if_neg (by simpa using h.1.symm)]

theorem normalizeNode_plain (hkeys : ∀ field ∈ node, field.1 ∉ ["oneOf", "anyOf", "$ref", "$defs"]) :
    normalizeNode inline (.obj node) = .obj (constToEnum (Dict.erase (normalizeFields inline node) "discriminator")) := by
  have hnone : node.lookup "$ref" = none := by
    refine Dict.lookup_eq_none.mpr fun hmem => ?_
    obtain ⟨field, hfield, hkey⟩ := List.mem_map.mp hmem
    exact hkeys field hfield (by rw [hkey]; simp)
  have hany : (node.any fun field => field.1 == "oneOf" || field.1 == "anyOf") = false := by
    rw [List.any_eq_false]
    intro field hfield hkey
    refine hkeys field hfield ?_
    simp only [Bool.or_eq_true, beq_iff_eq] at hkey
    rcases hkey with heq | heq <;> rw [heq] <;> simp
  unfold normalizeNode
  rw [hnone]
  simp only [hany]
  rfl

theorem normalizeNode_union (hnone : node.lookup "$ref" = none) (hkey : key ∈ ["oneOf", "anyOf"]) (hmem : (key, value) ∈ node) :
    normalizeNode inline (.obj node) = .obj (normalizeUnion node (normalizeFields inline node)) := by
  have hany : (node.any fun field => field.1 == "oneOf" || field.1 == "anyOf") = true :=
    List.any_eq_true.mpr ⟨_, hmem, by simpa using hkey⟩
  unfold normalizeNode
  rw [hnone]
  simp only [hany]
  rfl

/-- The flattened union of alternatives that are objects, of which at most one is not null. -/
theorem normalizeUnion_optional (node : Fields)
    (hlookup : (normalized.lookup "oneOf").or (normalized.lookup "anyOf") = some (.arr (schemas.map .obj))) :
    ∃ wrapper : Fields, (∀ field ∈ wrapper, field ∈ node ∧ field.1 ∉ ["oneOf", "anyOf", "discriminator"]) ∧
      ((schemas.filter fun schema => !isNullSchema schema) = [] → normalizeUnion node normalized =
        Dict.update (if schemas.any isNullSchema then [("type", .str "null")] else []) wrapper) ∧
      ∀ variant, (schemas.filter fun schema => !isNullSchema schema) = [variant] →
        normalizeUnion node normalized = Dict.update variant wrapper := by
  have hwrapper : ∀ field ∈ node.filter fun field => !(["oneOf", "anyOf", "discriminator"].elem field.1),
      field ∈ node ∧ field.1 ∉ ["oneOf", "anyOf", "discriminator"] := by
    intro field hfield
    obtain ⟨hmem, hkey⟩ := List.mem_filter.mp hfield
    exact ⟨hmem, by simpa using hkey⟩
  unfold normalizeUnion
  rw [hlookup]
  simp only [List.filterMap_map, Function.comp_def, List.filterMap_some]
  refine ⟨_, of_wrapper (P := fun wrapper => ∀ field ∈ wrapper, field ∈ node ∧ field.1 ∉ ["oneOf", "anyOf", "discriminator"])
    (schemas.any isNullSchema) hwrapper fun field hfield => hwrapper field (Dict.mem_erase.mp hfield).1, ?_, ?_⟩
  · intro hnone
    rw [hnone]
  · intro variant hvariant
    rw [hvariant]

/-! ### What normalizing keeps -/

/-- The normalized form of a schema says the same, and it is an object if the schema is one. -/
structure Kept (V : Vocabulary) (refers : String → Json → Bool) (s s' : Json) : Prop where
  same : SameMeaning V refers s s'
  object : ∀ fields, s = .obj fields → ∃ fields', s' = .obj fields' ∧ fields'.lookup "$defs" = none

theorem kept_bool (b : Bool) : Kept V refers (.bool b) (normalizeNode inline (.bool b)) := by
  unfold normalizeNode
  exact ⟨fun _ _ => rfl, fun _ heq => (by cases heq)⟩

theorem kept_plain (hdistinct : Dict.Distinct node) (hkeys : ∀ field ∈ node, field.1 ∉ ["oneOf", "anyOf", "$ref", "$defs"])
    (hone : ¬("const" ∈ Dict.keys node ∧ "enum" ∈ Dict.keys node))
    (hchild : ∀ c, Child (.obj node) c → SameMeaning V refers c (normalizeNode inline c)) :
    Kept V refers (.obj node) (normalizeNode inline (.obj node)) := by
  rw [normalizeNode_plain hkeys]
  have hlookup : ∀ key ∉ ["const", "enum", "discriminator"],
      (constToEnum (Dict.erase (normalizeFields inline node) "discriminator")).lookup key =
        (normalizeFields inline node).lookup key := by
    intro key hkey
    simp only [List.mem_cons, List.not_mem_nil, or_false, not_or] at hkey
    rw [lookup_constToEnum hkey.1 hkey.2.1, Dict.lookup_erase, if_neg (by simpa using hkey.2.2)]
  have hnormalized : Dict.keys (normalizeFields inline node) = Dict.keys node := keys_normalizeFields inline node
  constructor
  · intro x hx
    obtain ⟨hnames, hleading⟩ := beside_congr (hlookup "properties" (by simp)) (hlookup "prefixItems" (by simp))
    obtain ⟨hnames', hleading'⟩ := beside_normalizeFields inline node
    rw [Bool.eq_iff_iff, conforms_obj, conforms_obj, hnames, hleading, hnames', hleading']
    rw [says_constToEnum (Dict.Distinct.erase (by rw [Dict.Distinct, hnormalized]; exact hdistinct) _)]
    · have hfields : ∀ field ∈ node, Says V refers (Dict.keys (declared node)) (leadingItems node)
          (field.1, normalizedValue inline field.1 field.2) x ↔
            Says V refers (Dict.keys (declared node)) (leadingItems node) field x := by
        intro field hfield
        refine says_normalizedValue hx hfield (fun hmem => hkeys field hfield ?_) hchild
        simp only [List.mem_cons, List.not_mem_nil, or_false] at hmem ⊢
        tauto
      constructor
      · intro h field hfield
        by_cases hkey : field.1 = "discriminator"
        · exact says_commentary (by rw [hkey]; simp [commentary])
        · refine (hfields field hfield).mp (h _ (Dict.mem_erase.mpr ⟨?_, hkey⟩))
          rw [normalizeFields_eq]
          exact List.mem_map_of_mem (f := fun field => (field.1, normalizedValue inline field.1 field.2)) hfield
      · intro h field hfield
        have hmem := (Dict.mem_erase.mp hfield).1
        rw [normalizeFields_eq] at hmem
        obtain ⟨old, hold, rfl⟩ := List.mem_map.mp hmem
        exact (hfields old hold).mpr (h old hold)
    · rintro ⟨hconst, henum⟩
      rw [← hnormalized] at hone
      refine hone ⟨?_, ?_⟩
      · obtain ⟨field, hfield, heq⟩ := List.mem_map.mp hconst
        exact heq ▸ List.mem_map_of_mem (Dict.mem_erase.mp hfield).1
      · obtain ⟨field, hfield, heq⟩ := List.mem_map.mp henum
        exact heq ▸ List.mem_map_of_mem (Dict.mem_erase.mp hfield).1
  · intro fields _
    refine ⟨_, rfl, ?_⟩
    rw [hlookup "$defs" (by simp), Dict.lookup_eq_none, hnormalized]
    intro hmem
    obtain ⟨field, hfield, hkey⟩ := List.mem_map.mp hmem
    exact hkeys field hfield (by rw [hkey]; simp)

/-- A node with one field that counts says what that field says. -/
theorem conforms_single (hmem : (key, value) ∈ node)
    (hbeside : ∀ field ∈ node, field = (key, value) ∨ field.1 ∈ commentary) :
    conforms V refers (.obj node) x = true ↔
      Says V refers (Dict.keys (declared node)) (leadingItems node) (key, value) x := by
  rw [conforms_obj]
  refine ⟨fun h => h _ hmem, fun h field hfield => ?_⟩
  rcases hbeside field hfield with rfl | hkey
  · exact h
  · exact says_commentary hkey

theorem lookup_single (hmem : (key, value) ∈ node) (hkey : key ∉ commentary)
    (hbeside : ∀ field ∈ node, field = (key, value) ∨ field.1 ∈ commentary) : node.lookup key = some value := by
  obtain ⟨other, hlookup⟩ := Dict.exists_lookup (List.mem_map_of_mem (f := (·.1)) hmem)
  rcases hbeside _ (Dict.mem_of_lookup hlookup) with heq | hcomment
  · rw [hlookup, (Prod.mk.inj heq).2]
  · exact absurd hcomment hkey

theorem lookup_other (hbeside : ∀ field ∈ node, field = (key, value) ∨ field.1 ∈ commentary) (hname : name ≠ key)
    (hcomment : name ∉ commentary) : node.lookup name = none := by
  refine Dict.lookup_eq_none.mpr fun hmem => ?_
  obtain ⟨field, hfield, rfl⟩ := List.mem_map.mp hmem
  rcases hbeside field hfield with rfl | hkey
  · exact hname rfl
  · exact hcomment hkey

theorem kept_ref (hinline : ∀ t, inline (refName (pointer name)) = some t →
      (∃ fields, t = .obj fields ∧ fields.lookup "$defs" = none) ∧
        ∀ x : Json, x.NullFree → conforms V refers t x = refers (pointer name) x)
    (hmem : ("$ref", .str (pointer name)) ∈ node)
    (hbeside : ∀ field ∈ node, field = ("$ref", .str (pointer name)) ∨ field.1 ∈ annotations) :
    Kept V refers (.obj node) (normalizeNode inline (.obj node)) := by
  have hcomment : ∀ field ∈ node, field = ("$ref", .str (pointer name)) ∨ field.1 ∈ commentary :=
    fun field hfield => (hbeside field hfield).imp_right fun hkey => commentary_of_beside (List.mem_cons_of_mem _ hkey)
  have hdefs : ∀ field ∈ Dict.erase node "$ref", field.1 ≠ "$defs" := by
    intro field hfield heq
    obtain ⟨hold, hkey⟩ := Dict.mem_erase.mp hfield
    rcases hbeside field hold with rfl | hannotation
    · exact hkey rfl
    · rw [heq] at hannotation
      simp [annotations] at hannotation
  rw [normalizeNode_ref (lookup_single hmem (by simp [commentary]) hcomment), resolveRef]
  cases hresolved : inline (refName (pointer name)) with
  | none =>
      refine ⟨fun _ _ => rfl, fun fields heq => ⟨node, rfl, Dict.lookup_eq_none.mpr fun hkey => ?_⟩⟩
      obtain ⟨field, hfield, hname⟩ := List.mem_map.mp hkey
      rcases hbeside field hfield with rfl | hannotation
      · exact absurd hname (by simp)
      · rw [hname] at hannotation
        simp [annotations] at hannotation
  | some t =>
      obtain ⟨⟨resolved, rfl, hnone⟩, hsame⟩ := hinline t hresolved
      refine ⟨fun x hx => ?_, fun fields heq => ⟨_, rfl, ?_⟩⟩
      · dsimp only
        rw [conforms_update, hsame x hx, Bool.eq_iff_iff, conforms_single hmem hcomment, says_ref]
        intro field hfield
        obtain ⟨hold, hkey⟩ := Dict.mem_erase.mp hfield
        rcases hcomment field hold with rfl | h
        · exact absurd rfl hkey
        · exact h
      · rw [lookup_update hdefs]
        exact hnone

/-- A schema of the null type accepts no instance without null. -/
theorem conforms_nullSchema (hnull : isNullSchema schema = true) (hx : x.NullFree) :
    conforms V refers (.obj schema) x = false := by
  rw [isNullSchema, beq_iff_eq, Option.bind_eq_some_iff] at hnull
  obtain ⟨value, hlookup, hvalue⟩ := hnull
  obtain rfl : value = .str "null" := by
    cases value with
    | str text => rw [Option.some.inj hvalue]
    | _ => cases hvalue
  rw [← Bool.not_eq_true, conforms_obj]
  intro h
  obtain rfl := V.null (h _ (Dict.mem_of_lookup hlookup))
  cases hx

/-- An alternative of the null type keeps its type. -/
theorem isNullAlternative_normalizeNode {s : Json} (hform : OptionalForm defined s) (h : isNullAlternative s = true) :
    isNullAlternative (normalizeNode inline s) = true := by
  cases hform with
  | bool b => cases h
  | @plain node hdistinct hkeys hone =>
      rw [normalizeNode_plain hkeys]
      have htype : (constToEnum (Dict.erase (normalizeFields inline node) "discriminator")).lookup "type" =
          node.lookup "type" := by
        rw [lookup_constToEnum (by simp) (by simp), Dict.lookup_erase, if_neg (by simp), lookup_normalizeFields]
        cases node.lookup "type" <;> rfl
      change isNullSchema _ = true
      rw [isNullSchema, htype]
      exact h
  | @union node key alternatives hkey hmem hbeside hobjects hsome hone =>
      have hnone : node.lookup "type" = none := by
        refine lookup_other (fun field hfield => (hbeside field hfield).imp_right commentary_of_beside) ?_ (by simp [commentary])
        rintro rfl
        simp at hkey
      change isNullSchema node = true at h
      rw [isNullSchema, hnone] at h
      cases h
  | @ref node name hname hmem hbeside =>
      have hnone : node.lookup "type" = none :=
        lookup_other (fun field hfield => (hbeside field hfield).imp_right fun hkey =>
          commentary_of_beside (List.mem_cons_of_mem _ hkey)) (by simp) (by simp [commentary])
      change isNullSchema node = true at h
      rw [isNullSchema, hnone] at h
      cases h

theorem exists_schemas {alternatives : List Json} (hobjects : ∀ alternative ∈ alternatives, ∃ fields, alternative = .obj fields)
    (hkept : ∀ alternative ∈ alternatives, Kept V refers alternative (normalizeNode inline alternative)) :
    ∃ schemas : List Fields, alternatives.map (normalizeNode inline) = schemas.map .obj ∧
      ∀ schema ∈ schemas, schema.lookup "$defs" = none := by
  induction alternatives with
  | nil => exact ⟨[], rfl, fun _ h => (by cases h)⟩
  | cons alternative rest ih =>
      rw [List.forall_mem_cons] at hobjects hkept
      obtain ⟨schemas, hschemas, hnone⟩ := ih hobjects.2 hkept.2
      obtain ⟨fields, hfields⟩ := hobjects.1
      obtain ⟨fields', hnormalized, hfirst⟩ := hkept.1.object fields hfields
      refine ⟨fields' :: schemas, ?_, List.forall_mem_cons.mpr ⟨hfirst, hnone⟩⟩
      rw [List.map_cons, hnormalized, hschemas, List.map_cons]

/-- The alternatives that accept an instance without null are among those that are kept. -/
theorem countP_variants {alternatives : List Json}
    (hkept : ∀ alternative ∈ alternatives, Kept V refers alternative (normalizeNode inline alternative))
    (hschemas : alternatives.map (normalizeNode inline) = schemas.map .obj) (hx : x.NullFree) :
    (alternatives.countP fun schema => conforms V refers schema x) =
      (schemas.filter fun schema => !isNullSchema schema).countP fun schema => conforms V refers (.obj schema) x := by
  calc (alternatives.countP fun schema => conforms V refers schema x)
      = (alternatives.map (normalizeNode inline)).countP fun schema => conforms V refers schema x := by
        rw [List.countP_map]
        refine List.countP_congr fun alternative hmem => ?_
        rw [Function.comp_apply, (hkept alternative hmem).same x hx]
    _ = schemas.countP fun schema => conforms V refers (.obj schema) x := by
        rw [hschemas, List.countP_map]
        rfl
    _ = (schemas.filter fun schema => !isNullSchema schema).countP fun schema => conforms V refers (.obj schema) x := by
        rw [List.countP_filter]
        refine List.countP_congr fun schema _ => ?_
        cases hnull : isNullSchema schema with
        | false => simp
        | true => simp [conforms_nullSchema hnull hx]

/-- At most one alternative is kept. -/
theorem length_variants {alternatives : List Json} (hone : (alternatives.countP fun alternative => !isNullAlternative alternative) ≤ 1)
    (hforms : ∀ alternative ∈ alternatives, OptionalForm defined alternative)
    (hschemas : alternatives.map (normalizeNode inline) = schemas.map .obj) :
    (schemas.filter fun schema => !isNullSchema schema).length ≤ 1 := by
  have hcount : (schemas.map Json.obj).countP (fun schema => !isNullAlternative schema) =
      (schemas.filter fun schema => !isNullSchema schema).length := by
    rw [List.countP_map, List.countP_eq_length_filter]
    rfl
  rw [← hcount, ← hschemas, List.countP_map]
  refine le_trans (List.countP_mono_left fun alternative hmem hkeep => ?_) hone
  rw [Bool.not_eq_true', ← Bool.not_eq_true]
  intro hnull
  rw [Function.comp_apply, isNullAlternative_normalizeNode (hforms alternative hmem) hnull] at hkeep
  cases hkeep

/-- The alternative that is left of a union says what the union said. -/
theorem kept_union {alternatives : List Json} (hkey : key ∈ ["oneOf", "anyOf"]) (hmem : (key, .arr alternatives) ∈ node)
    (hbeside : ∀ field ∈ node, field = (key, .arr alternatives) ∨ field.1 ∈ "discriminator" :: annotations)
    (hobjects : ∀ alternative ∈ alternatives, ∃ fields, alternative = .obj fields) (hsome : alternatives ≠ [])
    (hone : (alternatives.countP fun alternative => !isNullAlternative alternative) ≤ 1)
    (hforms : ∀ alternative ∈ alternatives, OptionalForm defined alternative)
    (hkept : ∀ alternative ∈ alternatives, Kept V refers alternative (normalizeNode inline alternative)) :
    Kept V refers (.obj node) (normalizeNode inline (.obj node)) := by
  have hcomment : ∀ field ∈ node, field = (key, .arr alternatives) ∨ field.1 ∈ commentary :=
    fun field hfield => (hbeside field hfield).imp_right commentary_of_beside
  have hnotComment : key ∉ commentary := by
    simp only [List.mem_cons, List.not_mem_nil, or_false] at hkey
    rcases hkey with rfl | rfl <;> simp [commentary]
  have href : node.lookup "$ref" = none := by
    refine lookup_other hcomment ?_ (by simp [commentary])
    rintro rfl
    simp at hkey
  obtain ⟨schemas, hschemas, hnone⟩ := exists_schemas hobjects hkept
  have hvalue : normalizedValue inline key (.arr alternatives) = .arr (schemas.map .obj) := by
    rw [← hschemas, ← normalizeList_eq]
    simp only [List.mem_cons, List.not_mem_nil, or_false] at hkey
    rcases hkey with rfl | rfl <;> rfl
  have hself : (normalizeFields inline node).lookup key = some (.arr (schemas.map .obj)) := by
    rw [lookup_normalizeFields, lookup_single hmem hnotComment hcomment, ← hvalue]
    rfl
  have hlookup : ((normalizeFields inline node).lookup "oneOf").or ((normalizeFields inline node).lookup "anyOf") =
      some (.arr (schemas.map .obj)) := by
    simp only [List.mem_cons, List.not_mem_nil, or_false] at hkey
    rcases hkey with rfl | rfl
    · rw [hself]
      rfl
    · have hother : (normalizeFields inline node).lookup "oneOf" = none := by
        rw [lookup_normalizeFields, lookup_other hcomment (by simp) (by simp [commentary])]
        rfl
      rw [hother, hself]
      rfl
  obtain ⟨wrapper, hwrapper, hempty, hsingle⟩ := normalizeUnion_optional node hlookup
  have hannotations : ∀ field ∈ wrapper, field.1 ∈ commentary ∧ field.1 ≠ "$defs" := by
    intro field hfield
    obtain ⟨hold, hplain⟩ := hwrapper field hfield
    rcases hbeside field hold with rfl | hannotation
    · refine absurd ?_ hplain
      simp only [List.mem_cons, List.not_mem_nil, or_false] at hkey ⊢
      tauto
    · refine ⟨commentary_of_beside hannotation, fun heq => ?_⟩
      rw [heq] at hannotation
      simp [annotations] at hannotation
  have hsays : ∀ x : Json, x.NullFree → (conforms V refers (.obj node) x = true ↔
      0 < (schemas.filter fun schema => !isNullSchema schema).countP fun schema => conforms V refers (.obj schema) x) := by
    intro x hx
    have hcount := countP_variants hkept hschemas hx
    have hlength := (List.countP_le_length (p := fun schema => conforms V refers (.obj schema) x)
      (l := schemas.filter fun schema => !isNullSchema schema)).trans (length_variants hone hforms hschemas)
    rw [conforms_single hmem hcomment]
    simp only [List.mem_cons, List.not_mem_nil, or_false] at hkey
    rcases hkey with rfl | rfl
    · rw [says_oneOf, hcount]
      exact ⟨fun h => h ▸ Nat.one_pos, fun h => le_antisymm hlength h⟩
    · rw [says_anyOf, hcount]
  rw [normalizeNode_union href hkey hmem]
  have hlength := length_variants hone hforms hschemas
  cases hvariants : schemas.filter fun schema => !isNullSchema schema with
  | nil =>
      have hnull : schemas.any isNullSchema = true := by
        cases schemas with
        | nil => exact absurd (List.map_eq_nil_iff.mp (hschemas.trans List.map_nil)) hsome
        | cons schema rest =>
            rw [List.filter_eq_nil_iff] at hvariants
            exact List.any_eq_true.mpr ⟨schema, List.mem_cons_self, by simpa using hvariants schema List.mem_cons_self⟩
      rw [hempty hvariants, if_pos hnull]
      refine ⟨fun x hx => ?_, fun fields _ => ⟨_, rfl, ?_⟩⟩
      · rw [conforms_update fun field hfield => (hannotations field hfield).1, conforms_nullSchema rfl hx, eq_comm,
          ← Bool.not_eq_true, hsays x hx, hvariants]
        exact lt_irrefl 0
      · rw [lookup_update fun field hfield => (hannotations field hfield).2]
        rfl
  | cons variant rest =>
      obtain rfl : rest = [] := by
        rw [hvariants, List.length_cons] at hlength
        exact List.length_eq_zero_iff.mp (by omega)
      rw [hsingle variant hvariants]
      refine ⟨fun x hx => ?_, fun fields _ => ⟨_, rfl, ?_⟩⟩
      · rw [conforms_update fun field hfield => (hannotations field hfield).1, Bool.eq_iff_iff, hsays x hx, hvariants,
          List.countP_singleton]
        cases conforms V refers (.obj variant) x <;> simp
      · rw [lookup_update fun field hfield => (hannotations field hfield).2]
        have hmem : variant ∈ schemas.filter fun schema => !isNullSchema schema := by
          rw [hvariants]
          exact List.mem_cons_self
        exact hnone variant (List.mem_filter.mp hmem).1

/-- What stands for a reference says what the reference says. -/
def Inlines (V : Vocabulary) (refers : String → Json → Bool) (inline : String → Option Json) : Prop :=
  ∀ name t, inline name = some t → (∃ fields, t = .obj fields ∧ fields.lookup "$defs" = none) ∧
    ∀ x : Json, x.NullFree → conforms V refers t x = refers (pointer name) x

theorem normalizeNode_kept (hplain : ∀ name, defined name → PlainName name) (hinline : Inlines V refers inline) (s : Json)
    (hform : ∀ p, Position s p → OptionalForm defined p) : Kept V refers s (normalizeNode inline s) := by
  induction hsize : sizeOf s using Nat.strong_induction_on generalizing s with
  | _ size ih =>
    have hchild : ∀ c, Child s c → Kept V refers c (normalizeNode inline c) := fun c hc =>
      ih (sizeOf c) (hsize ▸ sizeOf_child hc) c (fun p hp => hform p (hp.head hc)) rfl
    cases hform s .refl with
    | bool b => exact kept_bool b
    | plain hdistinct hkeys hone => exact kept_plain hdistinct hkeys hone fun c hc => (hchild c hc).same
    | @union node key alternatives hkey hmem hbeside hobjects hsome hone =>
        have hlisted : ∀ alternative ∈ alternatives, Child (.obj node) alternative := by
          refine fun alternative halternative => .listed ?_ hmem halternative
          simp only [List.mem_cons, List.not_mem_nil, or_false] at hkey ⊢
          tauto
        exact kept_union hkey hmem hbeside hobjects hsome hone
          (fun alternative h => hform alternative (.single (hlisted alternative h))) fun alternative h =>
            hchild alternative (hlisted alternative h)
    | @ref node name hname hmem hbeside =>
        refine kept_ref (fun t ht => ?_) hmem hbeside
        rw [refName_pointer (hplain name hname)] at ht
        exact hinline name t ht

/-- A definition that is inlined says what the references to it say, however the references turn. -/
theorem inlines_inlineRef (hplain : ∀ name, defined name → PlainName name)
    (hobjects : ∀ definition ∈ defs, ∃ fields, definition.2 = .obj fields)
    (hforms : ∀ definition ∈ defs, ∀ p, Position definition.2 p → OptionalForm defined p) (hmeaning : Meaning V refers defs)
    (stack : List String) : Inlines V refers (inlineRef defs stack) := by
  intro name
  induction stack, name using inlineRef.induct defs with
  | case1 stack name hstack =>
      intro t ht
      rw [inlineRef, dif_pos hstack] at ht
      cases ht
  | case2 stack name hstack hlookup =>
      intro t ht
      rw [inlineRef, dif_neg hstack] at ht
      split at ht <;> simp_all
  | case3 stack name hstack hlookup =>
      intro t ht
      rw [inlineRef, dif_neg hstack] at ht
      split at ht <;> simp_all
  | case4 stack name hstack target hnull hlookup ih =>
      intro t ht
      rw [inlineRef, dif_neg hstack] at ht
      split at ht
      · cases ht
      · cases ht
      · rename_i target' hnull' hlookup'
        obtain rfl := Option.some.inj ht
        have hmem := Dict.mem_of_lookup hlookup'
        obtain ⟨fields, hfields⟩ := hobjects _ hmem
        have hkept := normalizeNode_kept hplain ih target' (hforms _ hmem)
        refine ⟨hkept.object fields hfields, fun x hx => ?_⟩
        rw [hkept.same x hx, hmeaning name target' hlookup' x hx]

theorem conforms_erase (h : key ∈ commentary) :
    conforms V refers (.obj (Dict.erase fields key)) x = conforms V refers (.obj fields) x := by
  have hkeep : ∀ name ∈ ["properties", "prefixItems"], (Dict.erase fields key).lookup name = fields.lookup name := by
    intro name hname
    rw [Dict.lookup_erase, if_neg]
    rw [beq_iff_eq]
    rintro rfl
    simp only [commentary, List.mem_cons, List.not_mem_nil, or_false] at h hname
    rcases hname with rfl | rfl <;> simp at h
  obtain ⟨hnames, hleading⟩ := beside_congr (hkeep _ (by simp)) (hkeep _ (by simp))
  rw [Bool.eq_iff_iff, conforms_obj, conforms_obj, hnames, hleading]
  constructor
  · intro hsays field hfield
    by_cases hkey : field.1 = key
    · exact says_commentary (hkey ▸ h)
    · exact hsays field (Dict.mem_erase.mpr ⟨hfield, hkey⟩)
  · exact fun hsays field hfield => hsays field (Dict.mem_erase.mp hfield).1

/-- The keywords of `acceptsSimple`, and constants. -/
def Vocabulary.standard : Vocabulary where
  holds key value x := if key = "const" then x.same value else acceptsSimple key value x
  commentary h value x := by
    simp only [GdbMcp.commentary, List.mem_cons, List.not_mem_nil, or_false] at h
    rcases h with rfl | rfl | rfl | rfl | rfl <;> cases x <;> cases value <;> rfl
  null {x} h := by
    have htype : x.hasType "null" = true := h
    cases x with
    | null => rfl
    | _ => simp [Json.hasType] at htype
  const value x := (Bool.or_false _).symm

mutual

/-- A linked list, which ends at an object without a next one. -/
def isChain : Json → Bool
  | .obj fields => chainFields fields
  | _ => false

def chainFields : Fields → Bool
  | [] => true
  | (key, value) :: rest => if key = "next" then isChain value else chainFields rest

end

theorem chainFields_eq (fields : Fields) : chainFields fields = ((fields.lookup "next").map isChain).getD true := by
  induction fields with
  | nil => rfl
  | cons field rest ih =>
      rw [chainFields, Dict.lookup_cons, ih]
      by_cases hkey : field.1 = "next"
      · rw [if_pos hkey, if_pos (by rw [hkey]; rfl)]
        rfl
      · rw [if_neg hkey, if_neg (by simpa using fun heq => hkey heq.symm)]

/-- The field of the next node. -/
def nextUnion : Fields := [("anyOf", .arr [.obj [("$ref", .str "#/$defs/Node")], .obj [("type", .str "null")]])]

theorem conforms_nextUnion (hx : x.NullFree) :
    conforms .standard (fun _ => isChain) (.obj nextUnion) x = true ↔ isChain x = true := by
  have href : conforms .standard (fun _ => isChain) (.obj [("$ref", .str "#/$defs/Node")]) x = isChain x := by
    rw [Bool.eq_iff_iff, conforms_obj, List.forall_mem_singleton, says_ref]
  have hnull : conforms .standard (fun _ => isChain) (.obj [("type", .str "null")]) x = false := conforms_nullSchema rfl hx
  rw [nextUnion, conforms_obj, List.forall_mem_singleton, says_anyOf, List.countP_cons, List.countP_singleton, href, hnull]
  cases isChain x <;> simp

/-- The chains are what the node of a linked list means. -/
theorem meaning_linkedList : Meaning .standard (fun _ => isChain) (rootDefinitions linkedList) := by
  intro name definition hlookup x hx
  have hmem := Dict.mem_of_lookup hlookup
  obtain ⟨-, rfl⟩ := Prod.mk.inj (List.mem_singleton.mp (show (name, definition) ∈ [("Node", listNode)] from hmem))
  have hnode : conforms .standard (fun _ => isChain) listNode x = true ↔
      x.hasType "object" = true ∧ ∀ y, x.members.lookup "next" = some y → isChain y = true := by
    rw [listNode, conforms_obj, List.forall_mem_cons, List.forall_mem_singleton]
    refine and_congr Iff.rfl ?_
    change conformsProperties .standard (fun _ => isChain) [("next", .obj nextUnion)] x.members = true ↔ _
    rw [conformsProperties_iff, List.forall_mem_singleton]
    exact forall₂_congr fun y hy => conforms_nextUnion (hx.members _ (Dict.mem_of_lookup hy))
  rw [Bool.eq_iff_iff, hnode]
  cases hx with
  | @obj fields hfields =>
      change chainFields fields = true ↔ _ ∧ ∀ y, fields.lookup "next" = some y → _
      rw [chainFields_eq]
      cases fields.lookup "next" <;> simp [Json.hasType]
  | _ => simp [isChain, Json.hasType]

theorem optionalSchema_linkedList : OptionalSchema linkedList := by
  have hname : PlainName "Node" := by
    intro c hc
    have hletter : c = 'N' ∨ c = 'o' ∨ c = 'd' ∨ c = 'e' := by simpa using hc
    rcases hletter with rfl | rfl | rfl | rfl <;> decide
  have href : ∀ p, Position (.obj [("$ref", .str "#/$defs/Node")]) p →
      OptionalForm (fun name => name ∈ ["Node"] ∧ PlainName name) p := by
    intro p hp
    rw [position_leaf (by simp) hp]
    exact .ref ⟨List.mem_singleton.mpr rfl, hname⟩ (pointer_mem "Node") fun field hfield => .inl (List.mem_singleton.mp hfield)
  have hnull : ∀ p, Position (.obj [("type", .str "null")]) p →
      OptionalForm (fun name => name ∈ ["Node"] ∧ PlainName name) p := by
    intro p hp
    rw [position_leaf (by simp) hp]
    exact .plain (List.nodup_singleton _) (by simp) (by simp [Dict.keys])
  have hunion : ∀ p, Position (.obj nextUnion) p → OptionalForm (fun name => name ∈ ["Node"] ∧ PlainName name) p := by
    intro p hp
    rcases hp.cases_head with rfl | ⟨c, hc, hrest⟩
    · refine .union (show "anyOf" ∈ ["oneOf", "anyOf"] by simp) List.mem_cons_self (fun field hfield => .inl (List.mem_singleton.mp hfield))
        ?_ (by simp) (by decide)
      simp
    · cases hc with
      | property hproperties => simp [nextUnion] at hproperties
      | single hkey hschema =>
          simp only [nextUnion, List.mem_singleton, Prod.mk.injEq] at hschema
          rw [hschema.1] at hkey
          simp at hkey
      | listed hkey hschemas hschema =>
          simp only [nextUnion, List.mem_singleton, Prod.mk.injEq, Json.arr.injEq] at hschemas
          rw [hschemas.2] at hschema
          rcases List.mem_cons.mp hschema with rfl | hschema
          · exact href p hrest
          · rw [List.mem_singleton.mp hschema] at hrest
            exact hnull p hrest
  have hnode : ∀ p, Position listNode p → OptionalForm (fun name => name ∈ ["Node"] ∧ PlainName name) p := by
    intro p hp
    rcases hp.cases_head with rfl | ⟨c, hc, hrest⟩
    · exact .plain (show ["type", "properties"].Nodup by decide) (by simp) (by simp [Dict.keys])
    · rw [listNode] at hc
      cases hc with
      | property hproperties hschema =>
          simp only [List.mem_cons, List.not_mem_nil, or_false, Prod.mk.injEq, Json.obj.injEq] at hproperties
          obtain ⟨heq, -⟩ | ⟨-, rfl⟩ := hproperties
          · simp at heq
          · obtain ⟨-, rfl⟩ := Prod.mk.inj (List.mem_singleton.mp hschema)
            exact hunion p hrest
      | single hkey hschema =>
          simp only [List.mem_cons, List.not_mem_nil, or_false, Prod.mk.injEq] at hkey hschema
          rcases hschema with ⟨rfl, -⟩ | ⟨rfl, -⟩ <;> simp at hkey
      | listed hkey hschemas =>
          simp only [List.mem_cons, List.not_mem_nil, or_false, Prod.mk.injEq] at hkey hschemas
          rcases hschemas with ⟨rfl, -⟩ | ⟨rfl, -⟩ <;> simp at hkey
  refine ⟨List.nodup_singleton _, fun definition hdefinition => ?_, href, fun definition hdefinition => ?_⟩
  · rw [List.mem_singleton.mp (show definition ∈ [("Node", listNode)] from hdefinition)]
    exact ⟨_, rfl⟩
  · rw [List.mem_singleton.mp (show definition ∈ [("Node", listNode)] from hdefinition)]
    exact hnode

end GdbMcp
