import GdbMcp.SchemaNormalize
import Mathlib.Logic.Relation

/-! The normalized schemas are flat: no union, reference or constant is left at any schema position. -/

namespace GdbMcp

/-! ### Positions -/

/-- The schemas that a schema is made of. -/
inductive Child : Json → Json → Prop
  | property {node properties : Fields} {name : String} {schema : Json}
      (hproperties : ("properties", .obj properties) ∈ node) (hschema : (name, schema) ∈ properties) :
      Child (.obj node) schema
  | single {node : Fields} {key : String} {schema : Json} (hkey : key ∈ ["items", "contains", "additionalProperties"])
      (hschema : (key, schema) ∈ node) : Child (.obj node) schema
  | listed {node : Fields} {key : String} {schemas : List Json} {schema : Json}
      (hkey : key ∈ ["prefixItems", "anyOf", "oneOf"]) (hschemas : (key, .arr schemas) ∈ node)
      (hschema : schema ∈ schemas) : Child (.obj node) schema

/-- A schema position of a schema. -/
def Position : Json → Json → Prop := Relation.ReflTransGen Child

def combinators : List String := ["oneOf", "anyOf", "$ref", "$defs", "discriminator", "const"]

/-- No combinator is left at any schema position. -/
def Flat (schema : Json) : Prop :=
  ∀ node : Fields, Position schema (.obj node) → ∀ field ∈ node, field.1 ∉ combinators

/-- No text stands under the key of a reference, at whatever depth. -/
def RefFree (value : Json) : Prop := collectRefNames value = []

/-- A flat schema without references in its data. -/
structure Settled (schema : Json) : Prop where
  form : ∀ p, Position schema p → (∃ b, p = .bool b) ∨ ∃ fields, p = .obj fields
  flat : Flat schema
  refFree : RefFree schema

variable {fields left right merged node properties : Fields} {schema value l r : Json} {key name : String}
  {field : String × Json}

theorem refFree_arr {items : List Json} : RefFree (.arr items) ↔ ∀ v ∈ items, RefFree v := by
  rw [RefFree, collectRefNames]
  induction items with
  | nil => simp [collectItems]
  | cons v rest ih => rw [collectItems, List.append_eq_nil_iff, ih, List.forall_mem_cons]; rfl

theorem refFree_obj : RefFree (.obj fields) ↔
    (∀ ref, fields.lookup "$ref" ≠ some (.str ref)) ∧ ∀ field ∈ fields, RefFree field.2 := by
  have hfields : ∀ {fields : Fields}, collectFields fields = [] ↔ ∀ field ∈ fields, RefFree field.2 := by
    intro fields
    induction fields with
    | nil => simp [collectFields]
    | cons field rest ih => rw [collectFields, List.append_eq_nil_iff, ih, List.forall_mem_cons]; rfl
  rw [RefFree, collectRefNames, List.append_eq_nil_iff, hfields]
  refine and_congr_left fun _ => ?_
  split
  · rename_i ref hlookup
    simp [hlookup]
  · rename_i hlookup
    simpa using hlookup

/-- A field of a settled schema. -/
structure SettledField (field : String × Json) : Prop where
  key : field.1 ∉ combinators
  refFree : RefFree field.2
  properties : field.1 = "properties" → ∀ properties : Fields, field.2 = .obj properties →
    ∀ property ∈ properties, Settled property.2
  single : field.1 ∈ ["items", "contains", "additionalProperties"] → Settled field.2
  listed : field.1 = "prefixItems" → ∀ schemas : List Json, field.2 = .arr schemas → ∀ v ∈ schemas, Settled v

theorem settled_bool (b : Bool) : Settled (.bool b) := by
  have hself : ∀ {p}, Position (.bool b) p → p = .bool b := by
    intro p hposition
    rcases hposition.cases_head with rfl | ⟨c, hchild, -⟩
    · rfl
    · exact nomatch hchild
  exact ⟨fun p hposition => .inl ⟨b, hself hposition⟩, (fun node hposition => nomatch hself hposition), rfl⟩

theorem Settled.child {child : Json} (h : Settled schema) (hchild : Child schema child) (hrefFree : RefFree child) :
    Settled child :=
  ⟨fun p hposition => h.form p (hposition.head hchild), fun node hposition => h.flat node (hposition.head hchild),
    hrefFree⟩

theorem settled_obj : Settled (.obj fields) ↔ ∀ field ∈ fields, SettledField field := by
  constructor
  · intro h field hfield
    have hrefFree : RefFree field.2 := (refFree_obj.mp h.refFree).2 field hfield
    refine ⟨h.flat fields .refl field hfield, hrefFree, fun hkey properties hvalue property hproperty => ?_,
      fun hkey => ?_, fun hkey schemas hvalue v hv => ?_⟩
    · have hproperties : ("properties", Json.obj properties) ∈ fields := by
        rw [← hkey, ← hvalue]
        exact hfield
      refine h.child (.property hproperties hproperty) ?_
      rw [hvalue] at hrefFree
      exact (refFree_obj.mp hrefFree).2 property hproperty
    · exact h.child (.single hkey hfield) hrefFree
    · have hschemas : ("prefixItems", Json.arr schemas) ∈ fields := by
        rw [← hkey, ← hvalue]
        exact hfield
      refine h.child (.listed (by simp) hschemas hv) ?_
      rw [hvalue] at hrefFree
      exact refFree_arr.mp hrefFree v hv
  · intro h
    have hchild : ∀ c, Child (.obj fields) c → Settled c := by
      intro c hc
      cases hc with
      | property hproperties hschema => exact (h _ hproperties).properties rfl _ rfl _ hschema
      | single hkey hschema => exact (h _ hschema).single hkey
      | listed hkey hschemas hschema =>
          simp only [List.mem_cons, List.not_mem_nil, or_false] at hkey
          rcases hkey with rfl | rfl | rfl
          · exact (h _ hschemas).listed rfl _ rfl _ hschema
          · exact absurd (by simp [combinators]) (h _ hschemas).key
          · exact absurd (by simp [combinators]) (h _ hschemas).key
    refine ⟨fun p hposition => ?_, fun node hposition => ?_, refFree_obj.mpr ⟨fun ref hlookup => ?_, fun field hfield =>
      (h field hfield).refFree⟩⟩
    · rcases hposition.cases_head with rfl | ⟨c, hc, hrest⟩
      · exact .inr ⟨fields, rfl⟩
      · exact (hchild c hc).form p hrest
    · rcases hposition.cases_head with heq | ⟨c, hc, hrest⟩
      · rw [← Json.obj.inj heq]
        exact fun field hfield => (h field hfield).key
      · exact (hchild c hc).flat node hrest
    · exact absurd (by simp [combinators]) (h _ (Dict.mem_of_lookup hlookup)).key

/-- The properties of an object of settled schemas hold no reference. -/
theorem refFree_properties (h : ∀ property ∈ properties, Settled property.2) : RefFree (.obj properties) := by
  refine refFree_obj.mpr ⟨fun ref hlookup => ?_, fun property hproperty => (h property hproperty).refFree⟩
  rcases (h _ (Dict.mem_of_lookup hlookup)).form _ .refl with ⟨b, hb⟩ | ⟨fields, hfields⟩
  · exact nomatch hb
  · exact nomatch hfields

/-- The keys whose values are no schemas, and no combinators. -/
def plainKey (key : String) : Prop :=
  key ∉ combinators ∧ key ∉ ["properties", "items", "contains", "additionalProperties", "prefixItems"]

theorem settledField_plain (hkey : plainKey key) (hvalue : RefFree value) : SettledField (key, value) := by
  simp only [plainKey, List.mem_cons, List.not_mem_nil, or_false, not_or] at hkey
  refine ⟨hkey.1, hvalue, fun h => absurd h hkey.2.1, fun h => ?_, fun h => absurd h hkey.2.2.2.2.2⟩
  simp only [List.mem_cons, List.not_mem_nil, or_false] at h
  tauto

theorem settledField_properties (h : ∀ property ∈ properties, Settled property.2) :
    SettledField ("properties", .obj properties) := by
  refine ⟨by simp [combinators], refFree_properties h, fun _ _ heq => ?_, fun hkey => ?_, nofun⟩
  · obtain rfl := Json.obj.inj heq
    exact h
  · simp at hkey

/-! ### Merging -/

theorem refFree_mergeText (hl : RefFree l) (hr : RefFree r) : RefFree (mergeText l r) := by
  unfold mergeText
  split
  · split
    · exact hl
    · split
      · split
        · exact hr
        · split
          · exact hl
          · rfl
      · exact hr
  · exact hl

theorem mem_of_mem_dedupe {values : List Json} (h : value ∈ dedupe values) : value ∈ values := by
  have hloop : ∀ kept : List Json, value ∈ values.foldl (fun kept value =>
      if kept.any value.pyEq then kept else kept ++ [value]) kept → value ∈ kept ∨ value ∈ values := by
    clear h
    induction values with
    | nil => exact fun kept hvalue => .inl hvalue
    | cons w rest ih =>
        intro kept hvalue
        rw [List.foldl_cons] at hvalue
        rcases ih _ hvalue with hkept | hrest
        · split at hkept
          · exact .inl hkept
          · rcases List.mem_append.mp hkept with hkept | hw
            · exact .inl hkept
            · exact .inr (by rw [List.mem_singleton.mp hw]; exact List.mem_cons_self)
        · exact .inr (List.mem_cons_of_mem _ hrest)
  exact (hloop [] h).resolve_left List.not_mem_nil

theorem mergeFields_settled {new : Fields} (hmerged : ∀ field ∈ merged, SettledField field)
    (hnew : ∀ field ∈ new, SettledField field)
    (hproperties : ∀ properties : Fields, ("properties", .obj properties) ∈ new → ∀ old : Fields,
      (∀ p ∈ old, Settled p.2) → ∀ p ∈ mergeProperties old properties, Settled p.2) :
    ∀ field ∈ mergeFields merged new, SettledField field := by
  induction new generalizing merged with
  | nil => rw [mergeFields]; exact hmerged
  | cons head rest ih =>
      rw [List.forall_mem_cons] at hnew
      rw [mergeFields]
      refine ih ?_ hnew.2 fun properties hmem => hproperties properties (List.mem_cons_of_mem _ hmem)
      have hset : ∀ {value}, SettledField (head.1, value) →
          ∀ field ∈ Dict.set merged head.1 value, SettledField field := by
        intro value hvalue field hfield
        rcases Dict.mem_set hfield with rfl | hold
        · exact hvalue
        · exact hmerged field hold
      unfold mergeField
      split
      · exact hmerged
      split
      · split
        · exact hmerged
        · exact fun field hfield => hmerged field (Dict.mem_erase.mp hfield).1
      split
      · rename_i htext
        refine hset (settledField_plain ?_ (refFree_mergeText ?_ hnew.1.refFree))
        · rcases htext with htext | htext <;> rw [htext] <;> simp [plainKey, combinators]
        · cases hold : merged.lookup head.1 with
          | none => rfl
          | some old => exact (hmerged _ (Dict.mem_of_lookup hold)).refFree
      · split
        · exact hset hnew.1
        · rename_i old new hold hvalue
          split
          · rename_i hkey
            refine hset (settledField_plain (by rw [hkey]; simp [plainKey, combinators]) (refFree_arr.mpr fun v hv => ?_))
            rcases List.mem_append.mp (mem_of_mem_dedupe hv) with hv | hv
            · exact refFree_arr.mp (hmerged _ (Dict.mem_of_lookup hold)).refFree v hv
            · have := hnew.1.refFree
              rw [hvalue] at this
              exact refFree_arr.mp this v hv
          · exact hmerged
        · rename_i old new hold hvalue
          split
          · rename_i hkey
            rw [hkey] at hold hset ⊢
            refine hset (settledField_properties ?_)
            refine hproperties new ?_ old ((hmerged _ (Dict.mem_of_lookup hold)).properties rfl _ rfl)
            rw [← hkey, ← hvalue]
            exact List.mem_cons_self
          · exact hmerged
        · exact hmerged

theorem mergeRequired_settled (hleft : ∀ field ∈ left, SettledField field) :
    ∀ field ∈ mergeRequired left right, SettledField field := by
  intro field hfield
  unfold mergeRequired at hfield
  split at hfield
  · exact hleft field hfield
  · simp only [] at hfield
    split at hfield
    · exact hleft field (Dict.mem_erase.mp hfield).1
    · rcases Dict.mem_set hfield with rfl | hold
      · refine settledField_plain (by simp [plainKey, combinators]) (refFree_arr.mpr fun v hv => ?_)
        have hmem := (List.mem_filter.mp hv).1
        cases hlookup : left.lookup "required" with
        | none => simp [hlookup] at hmem
        | some value =>
            cases value with
            | arr items =>
                rw [hlookup] at hmem
                exact refFree_arr.mp (hleft _ (Dict.mem_of_lookup hlookup)).refFree v hmem
            | _ => simp [hlookup, Json.asList] at hmem
      · exact hleft field hold

/-- Merging settled schemas gives a settled one, and so does merging their properties. -/
theorem merge_settled (r : Json) : (∀ l, Settled l → Settled r → Settled (mergePropertySchemas l r)) ∧
    ∀ properties : Fields, r = .obj properties → (∀ p ∈ properties, Settled p.2) → ∀ old : Fields,
      (∀ p ∈ old, Settled p.2) → ∀ p ∈ mergeProperties old properties, Settled p.2 := by
  induction r using Json.induct with
  | hnull | hbool | hnum | hstr | harr =>
      refine ⟨fun l hl _ => ?_, (fun _ h => nomatch h)⟩
      rw [mergePropertySchemas_of_not_obj]
      · exact hl
      · exact nofun
  | hobj right ih =>
      constructor
      · intro l hl hr
        unfold mergePropertySchemas
        split
        · exact hl
        · cases l with
          | obj left =>
              rw [settled_obj] at hl hr
              refine settled_obj.mpr (mergeFields_settled (mergeRequired_settled hl) hr fun properties hmem old hold => ?_)
              exact (ih _ hmem).2 properties rfl ((hr _ hmem).properties rfl _ rfl) old hold
          | _ => exact hl
      · rintro _ ⟨⟩ hright
        induction right with
        | nil => intro old hold; rw [mergeProperties]; exact hold
        | cons head rest ihrest =>
            rw [List.forall_mem_cons] at ih hright
            intro old hold
            rw [mergeProperties]
            refine ihrest ih.2 hright.2 _ fun p hp => ?_
            rcases Dict.mem_set hp with rfl | hp
            · cases hlookup : old.lookup head.1 with
              | none => exact hright.1
              | some value => exact ih.1.1 value (hold _ (Dict.mem_of_lookup hlookup)) hright.1
            · exact hold p hp

/-! ### Unions -/

theorem declared_settled (h : ∀ field ∈ fields, SettledField field) : ∀ p ∈ declared fields, Settled p.2 := by
  rw [declared]
  split
  · rename_i properties hlookup
    exact (h _ (Dict.mem_of_lookup hlookup)).properties rfl _ rfl
  · exact fun _ hp => nomatch hp

theorem set_settled (h : ∀ field ∈ fields, SettledField field) (hvalue : SettledField (key, value)) :
    ∀ field ∈ Dict.set fields key value, SettledField field := by
  intro field hfield
  rcases Dict.mem_set hfield with rfl | hold
  · exact hvalue
  · exact h field hold

theorem update_settled (hleft : ∀ field ∈ left, SettledField field) (hright : ∀ field ∈ right, SettledField field) :
    ∀ field ∈ Dict.update left right, SettledField field :=
  fun field hfield => (Dict.mem_update hfield).elim (hright field) (hleft field)

theorem mergeObjectVariants_settled {variants : List Fields}
    (h : ∀ variant ∈ variants, ∀ field ∈ variant, SettledField field) :
    ∀ field ∈ mergeObjectVariants variants, SettledField field := by
  have hproperties : ∀ (variants : List Fields) (old : Fields), (∀ p ∈ old, Settled p.2) →
      (∀ variant ∈ variants, ∀ field ∈ variant, SettledField field) →
        ∀ p ∈ variants.foldl (fun properties variant => mergeProperties properties (declared variant)) old,
          Settled p.2 := by
    intro variants
    induction variants with
    | nil => exact fun old hold _ => hold
    | cons variant rest ih =>
        intro old hold hvariants
        rw [List.forall_mem_cons] at hvariants
        exact ih _ ((merge_settled (.obj (declared variant))).2 _ rfl (declared_settled hvariants.1) old hold) hvariants.2
  have htype : ∀ field ∈ [("type", Json.str "object")], SettledField field := by
    intro field hfield
    rw [List.mem_singleton.mp hfield]
    exact settledField_plain (by simp [plainKey, combinators]) rfl
  have hclosed : SettledField ("additionalProperties", .bool false) :=
    ⟨by simp [combinators], rfl, by simp, fun _ => settled_bool false, by simp⟩
  have hrequired : ∀ names : List String, SettledField ("required", .arr (names.map .str)) := by
    refine fun names => settledField_plain (by simp [plainKey, combinators]) (refFree_arr.mpr fun v hv => ?_)
    obtain ⟨s, -, rfl⟩ := List.mem_map.mp hv
    rfl
  have hunless : ∀ {b : Bool} {fields : Fields} {key : String} {value : Json},
      (∀ field ∈ fields, SettledField field) → SettledField (key, value) →
        ∀ field ∈ if b then fields else Dict.set fields key value, SettledField field := by
    intro b fields key value hfields hvalue
    split
    · exact hfields
    · exact set_settled hfields hvalue
  have hmerged := hunless (b := (variants.foldl (fun properties variant => mergeProperties properties (declared variant))
    []).isEmpty) htype (settledField_properties (hproperties variants [] (fun _ hp => nomatch hp) h))
  unfold mergeObjectVariants
  simp only []
  split
  · exact set_settled (hunless hmerged (hrequired _)) hclosed
  · exact hunless hmerged (hrequired _)

theorem refFree_withNote {base : Json} {note : String} : RefFree (withNote base note) := by
  unfold withNote
  split
  · split <;> rfl
  · rfl

theorem documentAcceptedFields_settled {variants : List Fields} {discriminator : Option Json}
    (h : ∀ field ∈ merged, SettledField field) :
    ∀ field ∈ documentAcceptedFields merged variants discriminator, SettledField field := by
  unfold documentAcceptedFields
  split
  · rename_i propertyName properties hname hlookup
    have hproperties := (h _ (Dict.mem_of_lookup hlookup)).properties rfl _ rfl
    refine set_settled h (settledField_properties fun p hp => ?_)
    obtain ⟨⟨name, schema⟩, hmem, rfl⟩ := List.mem_map.mp hp
    have hschema : Settled schema := hproperties _ hmem
    simp only []
    split
    · split
      · exact hschema
      · exact settled_obj.mpr (set_settled (settled_obj.mp hschema)
          (settledField_plain (by simp [plainKey, combinators]) refFree_withNote))
    · exact hschema
  · exact h

/-- A union of settled alternatives is settled, when nothing but annotations stand beside it. -/
theorem normalizeUnion_settled {normalized : Fields} {alternatives : List Json}
    (hlookup : (normalized.lookup "oneOf").or (normalized.lookup "anyOf") = some (.arr alternatives))
    (halternatives : ∀ schema ∈ alternatives, Settled schema)
    (hbeside : ∀ field ∈ node, field.1 ∈ ["oneOf", "anyOf", "discriminator"] ∨ SettledField field) :
    ∀ field ∈ normalizeUnion node normalized, SettledField field := by
  have hschemas := forall_objects fun fields hfields => settled_obj.mp (halternatives (.obj fields) hfields)
  have hwrapper : ∀ field ∈ node.filter fun field => !(["oneOf", "anyOf", "discriminator"].elem field.1),
      SettledField field := by
    intro field hfield
    obtain ⟨hfield, hkey⟩ := List.mem_filter.mp hfield
    rw [Bool.not_eq_true', List.elem_eq_mem, decide_eq_false_iff_not] at hkey
    exact (hbeside field hfield).resolve_left hkey
  have htype : ∀ field ∈ [("type", Json.str "null")], SettledField field := by
    intro field hfield
    rw [List.mem_singleton.mp hfield]
    exact settledField_plain (by simp [plainKey, combinators]) rfl
  unfold normalizeUnion
  rw [hlookup]
  simp only []
  generalize (alternatives.filterMap _) = schemas at hschemas ⊢
  have hvariants : ∀ variant ∈ schemas.filter fun schema => !isNullSchema schema, ∀ field ∈ variant,
      SettledField field := fun variant hvariant => hschemas variant (List.mem_filter.mp hvariant).1
  generalize (schemas.filter _) = variants at hvariants ⊢
  generalize (node.filter _) = wrapper at hwrapper ⊢
  have hwrapper' := of_wrapper (P := fun w => ∀ field ∈ w, SettledField field) (schemas.any isNullSchema) hwrapper
    fun field hfield => hwrapper field (Dict.mem_erase.mp hfield).1
  split
  · refine update_settled ?_ hwrapper'
    split
    · exact htype
    · exact fun _ hfield => by cases hfield
  · exact update_settled (hvariants _ List.mem_cons_self) hwrapper'
  · rename_i primary rest _
    refine documentAcceptedFields_settled ?_
    have hprimary : ∀ field ∈ (if (primary :: rest).all isObjectLike then mergeObjectVariants (primary :: rest) else primary),
        SettledField field := by
      split
      · exact mergeObjectVariants_settled hvariants
      · exact hvariants _ List.mem_cons_self
    have hmerged := update_settled hprimary hwrapper'
    split
    · exact set_settled hmerged (settledField_plain (by simp [plainKey, combinators]) refFree_withNote)
    · exact hmerged

end GdbMcp
