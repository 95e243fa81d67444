import GdbMcp.SchemaFlat

/-! The references in a document, and that merging and flattening add none: what the normalizer builds out of
documents whose references are all in one set is a document whose references are in it. -/

namespace GdbMcp

/-- A reference stands somewhere in a document. -/
inductive RefIn (ref : String) : Json → Prop
  | here {fields : Fields} (h : ("$ref", .str ref) ∈ fields) : RefIn ref (.obj fields)
  | field {fields : Fields} {field : String × Json} (hfield : field ∈ fields) (h : RefIn ref field.2) :
      RefIn ref (.obj fields)
  | item {items : List Json} {v : Json} (hv : v ∈ items) (h : RefIn ref v) : RefIn ref (.arr items)

/-- A JSON document all of whose references meet a condition. -/
structure RefsOf (S : String → Prop) (j : Json) : Prop where
  wellFormed : j.WellFormed
  refs : ∀ ref, RefIn ref j → S ref

/-- A field of such a document. -/
structure FieldOf (S : String → Prop) (field : String × Json) : Prop where
  value : RefsOf S field.2
  ref : field.1 = "$ref" → ∀ ref, field.2 = .str ref → S ref

/-- The fields of such a document. -/
structure FieldsOf (S : String → Prop) (fields : Fields) : Prop where
  distinct : Dict.Distinct fields
  fields : ∀ field ∈ fields, FieldOf S field

variable {S S' : String → Prop} {fields fields' left right merged node normalized properties : Fields}
  {schema value l r : Json} {key name : String} {field : String × Json} {items : List Json}

theorem refsOf_obj : RefsOf S (.obj fields) ↔ FieldsOf S fields := by
  constructor
  · intro h
    cases h.wellFormed with
    | obj hdistinct hfields =>
        refine ⟨hdistinct, fun field hfield => ⟨⟨hfields field hfield, fun ref href => h.refs ref (.field hfield href)⟩, ?_⟩⟩
        intro hkey ref hvalue
        refine h.refs ref (.here ?_)
        rw [← hkey, ← hvalue]
        exact hfield
  · intro h
    refine ⟨.obj h.distinct fun field hfield => (h.fields field hfield).value.wellFormed, fun ref href => ?_⟩
    cases href with
    | here hmem => exact (h.fields _ hmem).ref rfl ref rfl
    | field hfield href => exact (h.fields _ hfield).value.refs ref href

theorem refsOf_arr : RefsOf S (.arr items) ↔ ∀ v ∈ items, RefsOf S v := by
  constructor
  · intro h v hv
    cases h.wellFormed with
    | arr hitems => exact ⟨hitems v hv, fun ref href => h.refs ref (.item hv href)⟩
  · intro h
    refine ⟨.arr fun v hv => (h v hv).wellFormed, fun ref href => ?_⟩
    cases href with
    | item hv href => exact (h _ hv).refs ref href

theorem refsOf_null : RefsOf S .null := ⟨.null, fun _ href => nomatch href⟩

theorem refsOf_bool (b : Bool) : RefsOf S (.bool b) := ⟨.bool b, fun _ href => nomatch href⟩

theorem refsOf_str (s : String) : RefsOf S (.str s) := ⟨.str s, fun _ href => nomatch href⟩

theorem RefsOf.mono (h : RefsOf S schema) (himp : ∀ ref, RefIn ref schema → S ref → S' ref) : RefsOf S' schema :=
  ⟨h.wellFormed, fun ref href => himp ref href (h.refs ref href)⟩

/-- A field that is not a reference. -/
theorem fieldOf_of_ne (hkey : key ≠ "$ref") (hvalue : RefsOf S value) : FieldOf S (key, value) :=
  ⟨hvalue, fun h => absurd h hkey⟩

theorem fieldOf_obj (h : RefsOf S (.obj fields)) : FieldOf S (key, .obj fields) := ⟨h, fun _ _ heq => nomatch heq⟩

namespace FieldsOf

theorem nil : FieldsOf S [] := ⟨List.nodup_nil, fun _ hfield => nomatch hfield⟩

theorem lookup (h : FieldsOf S fields) (hlookup : fields.lookup key = some value) : RefsOf S value :=
  (h.fields _ (Dict.mem_of_lookup hlookup)).value

theorem getD (h : FieldsOf S fields) (key : String) : RefsOf S ((fields.lookup key).getD .null) := by
  cases hlookup : fields.lookup key with
  | none => exact refsOf_null
  | some value => exact h.lookup hlookup

theorem set (h : FieldsOf S fields) (hfield : FieldOf S (key, value)) : FieldsOf S (Dict.set fields key value) := by
  refine ⟨h.distinct.set key value, fun field hmem => ?_⟩
  rcases Dict.mem_set hmem with rfl | hold
  · exact hfield
  · exact h.fields field hold

theorem erase (h : FieldsOf S fields) (key : String) : FieldsOf S (Dict.erase fields key) :=
  ⟨h.distinct.erase key, fun field hfield => h.fields field (Dict.mem_erase.mp hfield).1⟩

theorem filter (h : FieldsOf S fields) (p : String × Json → Bool) : FieldsOf S (fields.filter p) :=
  ⟨h.distinct.sublist (List.filter_sublist.map _), fun field hfield => h.fields field (List.mem_filter.mp hfield).1⟩

theorem update (h : FieldsOf S fields) (hfields : ∀ field ∈ fields', FieldOf S field) :
    FieldsOf S (Dict.update fields fields') := by
  induction fields' generalizing fields with
  | nil => exact h
  | cons head rest ih =>
      rw [List.forall_mem_cons] at hfields
      exact ih (h.set hfields.1) hfields.2

/-- New values under the same keys. -/
theorem map (h : FieldsOf S fields) {f : String × Json → Json}
    (hf : ∀ field ∈ fields, FieldOf S (field.1, f field)) :
    FieldsOf S (fields.map fun field => (field.1, f field)) := by
  refine ⟨?_, fun field hfield => ?_⟩
  · rw [Dict.Distinct, Dict.keys, List.map_map]
    exact h.distinct
  · obtain ⟨old, hold, rfl⟩ := List.mem_map.mp hfield
    exact hf old hold

theorem declared (h : FieldsOf S fields) : FieldsOf S (GdbMcp.declared fields) := by
  rw [GdbMcp.declared]
  split
  · rename_i properties hlookup
    exact refsOf_obj.mp (h.lookup hlookup)
  · exact nil

end FieldsOf

/-! ### Merging -/

theorem refsOf_mergeText (hl : RefsOf S l) (hr : RefsOf S r) : RefsOf S (mergeText l r) := by
  unfold mergeText
  split
  · split
    · exact hl
    · split
      · split
        · exact hr
        · split
          · exact hl
          · exact refsOf_str _
      · exact hr
  · exact hl

theorem FieldsOf.mergeRequired (hleft : FieldsOf S left) : FieldsOf S (mergeRequired left right) := by
  unfold GdbMcp.mergeRequired
  split
  · exact hleft
  · simp only []
    split
    · exact hleft.erase _
    · refine hleft.set (fieldOf_of_ne (by decide) (refsOf_arr.mpr fun v hv => ?_))
      have hmem := (List.mem_filter.mp hv).1
      cases hlookup : left.lookup "required" with
      | none => simp [hlookup] at hmem
      | some value =>
          cases value with
          | arr items =>
              rw [hlookup] at hmem
              exact refsOf_arr.mp (hleft.lookup hlookup) v hmem
          | _ => simp [hlookup, Json.asList] at hmem

theorem FieldsOf.mergeField (h : FieldsOf S merged) (hfield : FieldOf S (key, value))
    (hproperties : ∀ old new : Fields, value = .obj new → FieldsOf S old → FieldsOf S (mergeProperties old new)) :
    FieldsOf S (mergeField merged key value) := by
  unfold GdbMcp.mergeField
  split
  · exact h
  split
  · split
    · exact h
    · exact h.erase _
  split
  · rename_i htext
    refine h.set (fieldOf_of_ne ?_ (refsOf_mergeText (h.getD key) hfield.value))
    rcases htext with rfl | rfl <;> decide
  · split
    · exact h.set hfield
    · rename_i old new hold
      split
      · rename_i hkey
        refine h.set (fieldOf_of_ne (by rw [hkey]; decide) (refsOf_arr.mpr fun v hv => ?_))
        rcases List.mem_append.mp (mem_of_mem_dedupe hv) with hv | hv
        · exact refsOf_arr.mp (h.lookup hold) v hv
        · exact refsOf_arr.mp hfield.value v hv
      · exact h
    · rename_i old new hold
      split
      · exact h.set (fieldOf_obj (refsOf_obj.mpr (hproperties old new rfl (refsOf_obj.mp (h.lookup hold)))))
      · exact h
    · exact h

/-- Merging two documents gives no reference that stands in neither, and so does merging their properties. -/
theorem merge_refsOf (r : Json) :
    (∀ l, FieldOf S (key, l) → RefsOf S r → FieldOf S (key, mergePropertySchemas l r)) ∧
      ∀ old properties : Fields, r = .obj properties → FieldsOf S old → FieldsOf S properties →
        FieldsOf S (mergeProperties old properties) := by
  induction r using Json.induct generalizing key with
  | hnull | hbool | hnum | hstr | harr =>
      refine ⟨fun l hl _ => ?_, fun _ _ h => nomatch h⟩
      rw [mergePropertySchemas_of_not_obj]
      · exact hl
      · exact nofun
  | hobj right ih =>
      constructor
      · intro l hl hr
        have hright := refsOf_obj.mp hr
        unfold mergePropertySchemas
        split
        · exact hl
        · cases l with
          | obj left =>
              refine fieldOf_obj (refsOf_obj.mpr ?_)
              have hleft : FieldsOf S (mergeRequired left right) := (refsOf_obj.mp hl.value).mergeRequired
              have hfold : ∀ (rest merged : Fields), (∀ field ∈ rest, field ∈ right) → FieldsOf S merged →
                  FieldsOf S (mergeFields merged rest) := by
                intro rest
                induction rest with
                | nil => intro merged _ h; rwa [mergeFields]
                | cons head rest ihrest =>
                    intro merged hsub h
                    rw [List.forall_mem_cons] at hsub
                    rw [mergeFields]
                    refine ihrest _ hsub.2 (h.mergeField (hright.fields _ hsub.1) fun old new hvalue hold => ?_)
                    have hnew : FieldsOf S new := refsOf_obj.mp (hvalue ▸ (hright.fields _ hsub.1).value)
                    exact (@ih _ hsub.1 key).2 old new hvalue hold hnew
              exact hfold right _ (fun _ hfield => hfield) hleft
          | _ => exact hl
      · rintro old _ ⟨⟩ hold hright
        have hfold : ∀ (rest old : Fields), (∀ field ∈ rest, field ∈ right) → FieldsOf S old →
            FieldsOf S (mergeProperties old rest) := by
          intro rest
          induction rest with
          | nil => intro old _ h; rwa [mergeProperties]
          | cons head rest ihrest =>
              intro old hsub h
              rw [List.forall_mem_cons] at hsub
              rw [mergeProperties]
              have hhead := hright.fields _ hsub.1
              refine ihrest _ hsub.2 (h.set ?_)
              cases hlookup : old.lookup head.1 with
              | none => exact hhead
              | some value =>
                  exact (ih _ hsub.1).1 value (h.fields _ (Dict.mem_of_lookup hlookup)) hhead.value
        exact hfold right old (fun _ hfield => hfield) hold

theorem FieldsOf.mergeProperties (h : FieldsOf S left) (h' : FieldsOf S right) :
    FieldsOf S (mergeProperties left right) :=
  (@merge_refsOf S "" (.obj right)).2 left right rfl h h'

/-! ### Unions -/

theorem fieldsOf_type (name : String) : FieldsOf S [("type", .str name)] := by
  refine ⟨List.nodup_singleton _, fun field hfield => ?_⟩
  rw [List.mem_singleton.mp hfield]
  exact fieldOf_of_ne (by decide) (refsOf_str name)

theorem fieldsOf_mergeObjectVariants {variants : List Fields} (h : ∀ variant ∈ variants, FieldsOf S variant) :
    FieldsOf S (mergeObjectVariants variants) := by
  have hproperties : ∀ (variants : List Fields) (old : Fields), FieldsOf S old →
      (∀ variant ∈ variants, FieldsOf S variant) →
        FieldsOf S (variants.foldl (fun properties variant => mergeProperties properties (declared variant)) old) := by
    intro variants
    induction variants with
    | nil => exact fun old hold _ => hold
    | cons variant rest ih =>
        intro old hold hvariants
        rw [List.forall_mem_cons] at hvariants
        exact ih _ (hold.mergeProperties hvariants.1.declared) hvariants.2
  have hunless : ∀ {b : Bool} {fields : Fields} {key : String} {value : Json}, FieldsOf S fields →
      FieldOf S (key, value) → FieldsOf S (if b then fields else Dict.set fields key value) := by
    intro b fields key value hfields hvalue
    split
    · exact hfields
    · exact hfields.set hvalue
  have hrequired : ∀ names : List String, FieldOf S ("required", .arr (names.map .str)) := by
    refine fun names => fieldOf_of_ne (by decide) (refsOf_arr.mpr fun v hv => ?_)
    obtain ⟨s, -, rfl⟩ := List.mem_map.mp hv
    exact refsOf_str s
  have hdeclared : FieldOf S ("properties",
      .obj (variants.foldl (fun properties variant => mergeProperties properties (declared variant)) [])) :=
    fieldOf_obj (refsOf_obj.mpr (hproperties variants [] .nil h))
  have hmerged := hunless (b := (variants.foldl (fun properties variant => mergeProperties properties (declared variant))
    []).isEmpty) (fieldsOf_type "object") hdeclared
  unfold mergeObjectVariants
  simp only []
  split
  · exact (hunless hmerged (hrequired _)).set (fieldOf_of_ne (by decide) (refsOf_bool false))
  · exact hunless hmerged (hrequired _)

theorem refsOf_withNote (base : Json) (note : String) : RefsOf S (withNote base note) := by
  unfold withNote
  split
  · split <;> exact refsOf_str _
  · exact refsOf_str _

theorem FieldsOf.documentAcceptedFields {variants : List Fields} {discriminator : Option Json}
    (h : FieldsOf S merged) : FieldsOf S (documentAcceptedFields merged variants discriminator) := by
  unfold GdbMcp.documentAcceptedFields
  split
  · rename_i propertyName properties hname hlookup
    have hproperties : FieldsOf S properties := refsOf_obj.mp (h.lookup hlookup)
    refine h.set (fieldOf_obj (refsOf_obj.mpr (hproperties.map fun property hproperty => ?_)))
    have hschema := hproperties.fields property hproperty
    obtain ⟨name, schema⟩ := property
    simp only []
    split
    · split
      · exact hschema
      · refine fieldOf_obj (refsOf_obj.mpr ((refsOf_obj.mp hschema.value).set ?_))
        exact fieldOf_of_ne (by decide) (refsOf_withNote _ _)
    · exact hschema
  · exact h

/-- A flattened union adds no reference to those of its node and of its normalized alternatives. -/
theorem FieldsOf.normalizeUnion (hnode : FieldsOf S node) (hnormalized : FieldsOf S normalized) :
    FieldsOf S (normalizeUnion node normalized) := by
  unfold GdbMcp.normalizeUnion
  split
  · rename_i alternatives hlookup
    have halternatives : ∀ v ∈ alternatives, RefsOf S v := by
      rw [Option.or_eq_some_iff] at hlookup
      rcases hlookup with hlookup | ⟨-, hlookup⟩
      · exact refsOf_arr.mp (hnormalized.lookup hlookup)
      · exact refsOf_arr.mp (hnormalized.lookup hlookup)
    have hschemas := forall_objects fun fields hfields => refsOf_obj.mp (halternatives (.obj fields) hfields)
    have hwrapper := hnode.filter fun field => !(["oneOf", "anyOf", "discriminator"].elem field.1)
    simp only []
    generalize (alternatives.filterMap _) = schemas at hschemas ⊢
    have hvariants : ∀ variant ∈ schemas.filter fun schema => !isNullSchema schema, FieldsOf S variant :=
      fun variant hvariant => hschemas variant (List.mem_filter.mp hvariant).1
    generalize (schemas.filter _) = variants at hvariants ⊢
    generalize (node.filter _) = wrapper at hwrapper ⊢
    have hwrapper' := of_wrapper (P := FieldsOf S) (schemas.any isNullSchema) hwrapper (hwrapper.erase _)
    split
    · refine FieldsOf.update ?_ hwrapper'.fields
      split
      · exact fieldsOf_type "null"
      · exact .nil
    · exact (hvariants _ List.mem_cons_self).update hwrapper'.fields
    · rename_i primary rest _
      have hprimary : FieldsOf S (if (primary :: rest).all isObjectLike then mergeObjectVariants (primary :: rest)
          else primary) := by
        split
        · exact fieldsOf_mergeObjectVariants hvariants
        · exact hvariants _ List.mem_cons_self
      refine FieldsOf.documentAcceptedFields ?_
      split
      · exact (hprimary.update hwrapper'.fields).set (fieldOf_of_ne (by decide) (refsOf_withNote _ _))
      · exact hprimary.update hwrapper'.fields
  · exact hnode

theorem FieldsOf.constToEnum (h : FieldsOf S fields) : FieldsOf S (constToEnum fields) := by
  unfold GdbMcp.constToEnum
  split
  · rename_i value hlookup
    simp only []
    split
    · exact h.erase _
    · refine (h.erase _).set (fieldOf_of_ne (by decide) (refsOf_arr.mpr fun v hv => ?_))
      rw [List.mem_singleton.mp hv]
      exact h.lookup hlookup
  · exact h

end GdbMcp
