import GdbMcp.SchemaKeywords

/-! What merging two alternative schemas does to the instances they accept. A keyword that only one of the two has
is taken over into the merged schema, and so is the left value of one that both have; the other alternative's
instances need not meet it. -/

namespace GdbMcp

variable {left right schema properties : Fields} {l r x value : Json} {key name : String} {A B : Json → Prop}

/-! ### Property schemas -/

/-- A property schema over the vocabulary of the published schemas, with the annotations that say nothing of an
instance. -/
inductive PropertySchema : Json → Prop
  | bool (b : Bool) : PropertySchema (.bool b)
  | obj {fields : Fields} (hdistinct : Dict.Distinct fields)
      (hkeys : ∀ field ∈ fields, field.1 ∈ ["type", "enum", "required", "properties", "additionalProperties", "items",
        "minimum", "maximum", "minLength", "minItems", "title", "description", "default"])
      (henum : ∀ value, ("enum", value) ∈ fields → ∃ values, value = .arr values ∧ ∀ v ∈ values, v.WellFormed)
      (hrequired : ∀ value, ("required", value) ∈ fields →
        ∃ names, value = .arr names ∧ ∀ name ∈ names, ∃ s, name = .str s)
      (hproperties : ∀ value, ("properties", value) ∈ fields →
        ∃ properties : Fields, value = .obj properties ∧ Dict.Distinct properties)
      (hschemas : ∀ properties : Fields, ("properties", .obj properties) ∈ fields →
        ∀ field ∈ properties, PropertySchema field.2)
      (hnested : ∀ key ∈ ["items", "additionalProperties"], ∀ value, (key, value) ∈ fields →
        PropertySchema value) : PropertySchema (.obj fields)

/-- The values that some instances have under a name. -/
def At (name : String) (A : Json → Prop) (y : Json) : Prop := ∃ fields, A (.obj fields) ∧ fields.lookup name = some y

/-- What a schema says with a keyword is met by the instances of the alternative that it does not come from. -/
def Takes (left right : Fields) (key : String) (A B : Json → Prop) : Prop :=
  match left.lookup key with
  | some value => ∀ x, B x → Passes [] key value x
  | none => ∀ value, right.lookup key = some value → ∀ x, A x → Passes [] key value x

/-- The instances of each alternative, `A` of the left and `B` of the right one, meet what the merged schema takes
from the other. -/
inductive Met : Json → Json → (Json → Prop) → (Json → Prop) → Prop
  -- the left schema is kept as a whole
  | whole {l r : Json} {A B : Json → Prop}
      (hwhole : l.pyEq r = true ∨ (∀ left, l ≠ .obj left) ∨ ∀ right, r ≠ .obj right)
      (haccepts : ∀ x, B x → accepts l x = true) : Met l r A B
  | fields {left right : Fields} {A B : Json → Prop} (hne : (Json.obj left).pyEq (.obj right) = false)
      (htakes : ∀ key ∈ ["type", "items", "minimum", "maximum", "minLength", "minItems"], Takes left right key A B)
      (henum : left.lookup "enum" = none ∨ right.lookup "enum" = none → Takes left right "enum" A B)
      -- a value may be dropped for one that Python holds equal
      (hboth : ∀ ls rs, left.lookup "enum" = some (.arr ls) → right.lookup "enum" = some (.arr rs) →
        ∀ x, A x ∨ B x → ∀ v, (ls ++ rs).find? x.pyEq = some v → x.same v = true)
      (hadditional : right.lookup "additionalProperties" = none → ∀ value,
        left.lookup "additionalProperties" = some value → ∀ fields, B (.obj fields) → ∀ field ∈ fields,
          field.1 ∈ Dict.keys (declared left) ∨ field.1 ∈ Dict.keys (declared right) ∨ accepts value field.2 = true)
      (hleft : ∀ name schema, (declared left).lookup name = some schema → (declared right).lookup name = none →
        ∀ y, At name B y → accepts schema y = true)
      (hright : ∀ name schema, (declared left).lookup name = none → (declared right).lookup name = some schema →
        ∀ y, At name A y → accepts schema y = true)
      (hshared : ∀ name l r, (declared left).lookup name = some l → (declared right).lookup name = some r →
        Met l r (At name A) (At name B)) : Met (.obj left) (.obj right) A B

theorem PropertySchema.distinct (h : PropertySchema (.obj schema)) : Dict.Distinct schema := by
  cases h
  assumption

theorem PropertySchema.properties_object (h : PropertySchema (.obj schema))
    (hlookup : schema.lookup "properties" = some value) :
    ∃ properties, value = .obj properties ∧ Dict.Distinct properties := by
  cases h with
  | obj _ _ _ _ hproperties => exact hproperties _ (Dict.mem_of_lookup hlookup)

theorem PropertySchema.of_declared (h : PropertySchema (.obj schema)) {s : Json}
    (hlookup : (declared schema).lookup name = some s) : PropertySchema s := by
  cases h with
  | obj _ _ _ _ _ hschemas =>
      rw [declared] at hlookup
      split at hlookup
      · rename_i properties hproperties
        exact hschemas properties (Dict.mem_of_lookup hproperties) _ (Dict.mem_of_lookup hlookup)
      · exact nomatch hlookup

/-- An instance of an object schema has accepted values under the names that the schema describes. -/
theorem accepts_declared (h : Dict.Distinct schema) {s y : Json} {fields : Fields}
    (haccepts : accepts (.obj schema) (.obj fields) = true) (hs : (declared schema).lookup name = some s)
    (hy : fields.lookup name = some y) : accepts s y = true := by
  rw [declared] at hs
  split at hs
  · rename_i properties hlookup
    have hpasses := (accepts_obj h).mp haccepts _ _ hlookup
    exact passes_properties.mp hpasses fields rfl (name, s) (Dict.mem_of_lookup hs) y hy
  · exact nomatch hs

/-- The properties that the merged schema describes. -/
theorem lookup_declared_merged (hl : PropertySchema (.obj left)) (hr : PropertySchema (.obj right)) (name : String) :
    (declared (mergeFields (mergeRequired left right) right)).lookup name =
      match (declared left).lookup name, (declared right).lookup name with
      | some l, some r => some (mergePropertySchemas l r)
      | some l, none => some l
      | none, some r => some r
      | none, none => none := by
  rw [declared, lookup_mergeFields hr.distinct, lookup_mergeRequired (by decide), declared, declared]
  cases hleft : left.lookup "properties" with
  | none =>
      cases hright : right.lookup "properties" with
      | none => rfl
      | some value =>
          obtain ⟨properties, rfl, -⟩ := hr.properties_object hright
          change properties.lookup name = _
          cases properties.lookup name <;> rfl
  | some value =>
      obtain ⟨properties, rfl, -⟩ := hl.properties_object hleft
      cases hright : right.lookup "properties" with
      | none =>
          change properties.lookup name = _
          cases properties.lookup name <;> rfl
      | some value' =>
          obtain ⟨properties', rfl, hdistinct⟩ := hr.properties_object hright
          change (mergeProperties properties properties').lookup name = _
          rw [lookup_mergeProperties hdistinct]
          cases properties'.lookup name <;> cases properties.lookup name <;> rfl

/-- The fields of the merged schema. -/
def merged (left right : Fields) : Fields := mergeFields (mergeRequired left right) right

theorem distinct_merged (hl : PropertySchema (.obj left)) : Dict.Distinct (merged left right) :=
  distinct_mergeFields (distinct_mergeRequired hl.distinct)

theorem mem_keys_declared_merged (hl : PropertySchema (.obj left)) (hr : PropertySchema (.obj right)) :
    name ∈ Dict.keys (declared (merged left right)) ↔
      name ∈ Dict.keys (declared left) ∨ name ∈ Dict.keys (declared right) := by
  have hnone := lookup_declared_merged hl hr name
  rw [← not_iff_not, not_or, ← Dict.lookup_eq_none, ← Dict.lookup_eq_none, ← Dict.lookup_eq_none, merged, hnone]
  cases (declared left).lookup name <;> cases (declared right).lookup name <;> simp

/-- The keywords that are kept from the left schema, or copied from the right one. -/
theorem lookup_merged_simple (hr : PropertySchema (.obj right))
    (hkey : key ∈ ["type", "items", "minimum", "maximum", "minLength", "minItems"]) :
    (merged left right).lookup key = (left.lookup key).or (right.lookup key) := by
  have hkeep : ∀ old value, mergeValue key (some old) value = some old := by
    intro old value
    simp only [List.mem_cons, List.not_mem_nil, or_false] at hkey
    rcases hkey with rfl | rfl | rfl | rfl | rfl | rfl <;> cases old <;> cases value <;> rfl
  have hcopy : ∀ value, mergeValue key none value = some value := by
    intro value
    simp only [List.mem_cons, List.not_mem_nil, or_false] at hkey
    rcases hkey with rfl | rfl | rfl | rfl | rfl | rfl <;> rfl
  have hrequired : key ≠ "required" := by
    rintro rfl
    simp at hkey
  rw [merged, lookup_mergeFields hr.distinct, lookup_mergeRequired hrequired]
  cases left.lookup key <;> cases right.lookup key <;> simp [hkeep, hcopy]

theorem lookup_merged_enum (hr : PropertySchema (.obj right)) : (merged left right).lookup "enum" =
    match left.lookup "enum", right.lookup "enum" with
    | some (.arr ls), some (.arr rs) => some (.arr (dedupe (ls ++ rs)))
    | some l, _ => some l
    | none, r => r := by
  rw [merged, lookup_mergeFields hr.distinct, lookup_mergeRequired (by decide)]
  cases hl : left.lookup "enum" with
  | none => cases right.lookup "enum" <;> rfl
  | some l =>
      cases right.lookup "enum" with
      | none => cases l <;> rfl
      | some r => cases l <;> cases r <;> rfl

theorem PropertySchema.enum_list (h : PropertySchema (.obj schema)) (hlookup : schema.lookup "enum" = some value) :
    ∃ values, value = .arr values := by
  cases h with
  | obj _ _ henum =>
      obtain ⟨values, heq, -⟩ := henum _ (Dict.mem_of_lookup hlookup)
      exact ⟨values, heq⟩

theorem lookup_merged_properties (hl : PropertySchema (.obj left)) (hr : PropertySchema (.obj right))
    (hlookup : (merged left right).lookup "properties" = some value) :
    value = .obj (declared (merged left right)) ∧ Dict.Distinct (declared (merged left right)) := by
  have hdeclared : ∀ properties, value = .obj properties → declared (merged left right) = properties := by
    rintro properties rfl
    rw [declared, hlookup]
  have hvalue : ∃ properties, value = .obj properties ∧ Dict.Distinct properties := by
    rw [merged, lookup_mergeFields hr.distinct, lookup_mergeRequired (by decide)] at hlookup
    cases hleft : left.lookup "properties" with
    | none =>
        cases hright : right.lookup "properties" with
        | none => rw [hleft, hright] at hlookup; exact nomatch hlookup
        | some r =>
            rw [hleft, hright] at hlookup
            obtain rfl := Option.some.inj hlookup
            exact hr.properties_object hright
    | some l =>
        obtain ⟨properties, rfl, hdistinct⟩ := hl.properties_object hleft
        cases hright : right.lookup "properties" with
        | none =>
            rw [hleft, hright] at hlookup
            exact ⟨properties, (Option.some.inj hlookup).symm, hdistinct⟩
        | some r =>
            obtain ⟨properties', rfl, -⟩ := hr.properties_object hright
            rw [hleft, hright] at hlookup
            exact ⟨_, (Option.some.inj hlookup).symm, distinct_mergeProperties hdistinct⟩
  obtain ⟨properties, rfl, hdistinct⟩ := hvalue
  rw [hdeclared properties rfl]
  exact ⟨rfl, hdistinct⟩

/-- Extras stay forbidden where both alternatives forbid them, or where the right one does not mention them. -/
theorem lookup_merged_additional (hr : PropertySchema (.obj right))
    (hlookup : (merged left right).lookup "additionalProperties" = some value) :
    left.lookup "additionalProperties" = some value ∧ (right.lookup "additionalProperties" = none ∨
      value = .bool false ∧ right.lookup "additionalProperties" = some (.bool false)) := by
  rw [merged, lookup_mergeFields hr.distinct, lookup_mergeRequired (by decide)] at hlookup
  cases hright : right.lookup "additionalProperties" with
  | none =>
      rw [hright] at hlookup
      exact ⟨hlookup, .inl rfl⟩
  | some r =>
      rw [hright] at hlookup
      simp only [mergeValue, if_neg (by decide : ¬"additionalProperties" = "required"), if_true] at hlookup
      split at hlookup
      · rename_i hleft
        obtain rfl := Option.some.inj (hleft.symm.trans hlookup)
        exact ⟨hleft, .inr ⟨rfl, rfl⟩⟩
      · exact nomatch hlookup

theorem lookup_merged_additional_of_none (hr : PropertySchema (.obj right))
    (hnone : right.lookup "additionalProperties" = none) :
    (merged left right).lookup "additionalProperties" = left.lookup "additionalProperties" := by
  rw [merged, lookup_mergeFields hr.distinct, lookup_mergeRequired (by decide), hnone]

/-- What the merged schema requires, both alternatives require. -/
theorem lookup_merged_required (hl : PropertySchema (.obj left)) (hr : PropertySchema (.obj right))
    (hlookup : (merged left right).lookup "required" = some value) : ∃ names ls rs, value = .arr names ∧
      left.lookup "required" = some (.arr ls) ∧ right.lookup "required" = some (.arr rs) ∧
        ∀ s, .str s ∈ names → .str s ∈ ls ∧ .str s ∈ rs := by
  have hlist : ∀ {schema : Fields} {value : Json}, PropertySchema (.obj schema) →
      schema.lookup "required" = some value → ∃ names, value = .arr names ∧ ∀ name ∈ names, ∃ s, name = .str s := by
    intro schema value h hlookup
    cases h with
    | obj _ _ _ hrequired => exact hrequired _ (Dict.mem_of_lookup hlookup)
  have hmerged : (merged left right).lookup "required" = (mergeRequired left right).lookup "required" := by
    rw [merged, lookup_mergeFields hr.distinct]
    cases right.lookup "required" <;> rfl
  rw [hmerged] at hlookup
  unfold mergeRequired at hlookup
  cases hleft : left.lookup "required" with
  | none =>
      cases hright : right.lookup "required" with
      | none => simp [hleft, hright] at hlookup
      | some r =>
          obtain ⟨rs, rfl, -⟩ := hlist hr hright
          simp [hleft, hright, Json.asList] at hlookup
  | some l =>
      obtain ⟨ls, rfl, hls⟩ := hlist hl hleft
      cases hright : right.lookup "required" with
      | none => simp [hleft, hright, Json.asList] at hlookup
      | some r =>
          obtain ⟨rs, rfl, hrs⟩ := hlist hr hright
          simp only [hleft, hright, Option.bind_some, Json.asList, Option.getD_some] at hlookup
          split at hlookup
          · simp at hlookup
          · rw [Dict.lookup_set, if_pos (by decide)] at hlookup
            refine ⟨_, ls, rs, (Option.some.inj hlookup).symm, rfl, rfl, fun s hs => ?_⟩
            obtain ⟨hs, hany⟩ := List.mem_filter.mp hs
            obtain ⟨v, hv, heq⟩ := List.any_eq_true.mp hany
            obtain ⟨t, rfl⟩ := hrs v hv
            cases (Json.eqv_scalar (a := .str s) rfl).mp heq
            exact ⟨hs, hv⟩

/-- A value is kept by `dedupe` unless Python holds an earlier one equal to it. -/
theorem exists_mem_dedupe {values : List Json} (hvalues : ∀ v ∈ values, v.WellFormed) :
    (∃ v ∈ dedupe values, x.same v = true) ↔ ∃ v, values.find? x.pyEq = some v ∧ x.same v = true := by
  have hloop : ∀ kept : List Json, (∃ v ∈ values.foldl (fun kept value =>
      if kept.any value.pyEq then kept else kept ++ [value]) kept, x.same v = true) ↔
        (∃ v ∈ kept, x.same v = true) ∨ (∀ v ∈ kept, ¬x.pyEq v = true) ∧
          ∃ v, values.find? x.pyEq = some v ∧ x.same v = true := by
    induction values with
    | nil => simp
    | cons w rest ih =>
        rw [List.forall_mem_cons] at hvalues
        intro kept
        rw [List.foldl_cons, ih hvalues.2]
        split
        · rename_i hany
          obtain ⟨u, hu, hwu⟩ := List.any_eq_true.mp hany
          by_cases hw : x.pyEq w = true
          · have hdropped : ¬∀ v ∈ kept, ¬x.pyEq v = true := fun h => h u hu (Json.eqv_trans hw hwu)
            simp only [hdropped, false_and]
          · rw [List.find?_cons_of_neg hw]
        · rename_i hnew
          rw [List.find?_cons]
          by_cases hw : x.pyEq w = true
          · have hdistinct : ∀ v ∈ kept, ¬x.pyEq v = true := fun v hv hxv =>
              hnew (List.any_eq_true.mpr ⟨v, hv, Json.eqv_trans (Json.eqv_symm hvalues.1 hw) hxv⟩)
            simp only [hw, List.mem_append, List.mem_singleton]
            constructor
            · rintro (⟨v, hv | rfl, hsame⟩ | ⟨hnone, -⟩)
              · exact .inl ⟨v, hv, hsame⟩
              · exact .inr ⟨hdistinct, v, rfl, hsame⟩
              · exact absurd hw (hnone w (.inr rfl))
            · rintro (⟨v, hv, hsame⟩ | ⟨-, v, hv, hsame⟩)
              · exact .inl ⟨v, .inl hv, hsame⟩
              · obtain rfl := Option.some.inj hv
                exact .inl ⟨w, .inr rfl, hsame⟩
          · have hsame : ¬x.same w = true := fun h => hw (Json.pyEq_of_same h)
            simp only [hw, List.mem_append, List.mem_singleton]
            constructor
            · rintro (⟨v, hv | rfl, h⟩ | ⟨hnone, v, hv⟩)
              · exact .inl ⟨v, hv, h⟩
              · exact absurd h hsame
              · exact .inr ⟨fun u hu => hnone u (.inl hu), v, hv⟩
            · rintro (⟨v, hv, h⟩ | ⟨hnone, v, hv⟩)
              · exact .inl ⟨v, .inl hv, h⟩
              · refine .inr ⟨?_, v, hv⟩
                rintro u (hu | rfl)
                · exact hnone u hu
                · exact hw
  have := hloop []
  simpa [dedupe] using this

/-! ### Widening -/

/-- Merging keeps the left schema as a whole, or merges the fields. -/
theorem mergePropertySchemas_whole
    (h : l.pyEq r = true ∨ (∀ left, l ≠ .obj left) ∨ ∀ right, r ≠ .obj right) : mergePropertySchemas l r = l := by
  unfold mergePropertySchemas
  split
  · rfl
  · rename_i hne
    split
    · rcases h with h | h | h
      · exact absurd h hne
      · exact absurd rfl (h _)
      · exact absurd rfl (h _)
    · rfl

theorem mergePropertySchemas_fields (h : (Json.obj left).pyEq (.obj right) = false) :
    mergePropertySchemas (.obj left) (.obj right) = .obj (merged left right) := by
  unfold mergePropertySchemas
  rw [h]
  rfl

/-- The instances of both alternatives. -/
def Widens (schema : Json) (A B : Json → Prop) : Prop := ∀ x, A x ∨ B x → accepts schema x = true

/-- One keyword that is taken from one of the alternatives. -/
theorem takes_iff (hl : PropertySchema (.obj left)) (hr : PropertySchema (.obj right))
    (hA : ∀ x, A x → accepts (.obj left) x = true) (hB : ∀ x, B x → accepts (.obj right) x = true)
    (hkey : key ≠ "additionalProperties") :
    Takes left right key A B ↔ ∀ value, (left.lookup key).or (right.lookup key) = some value →
      ∀ x, A x ∨ B x → Passes [] key value x := by
  have hpasses : ∀ {schema : Fields} {value x : Json}, PropertySchema (.obj schema) → schema.lookup key = some value →
      accepts (.obj schema) x = true → Passes [] key value x := by
    intro schema value x h hlookup haccepts
    exact (passes_congr hkey).mp ((accepts_obj h.distinct).mp haccepts _ _ hlookup)
  rw [Takes]
  cases hleft : left.lookup key with
  | none =>
      simp only [Option.none_or]
      refine forall_congr' fun value => forall_congr' fun hright => forall_congr' fun x => ?_
      exact ⟨fun h hx => hx.elim h fun hBx => hpasses hr hright (hB x hBx), fun h hAx => h (.inl hAx)⟩
  | some value =>
      simp only [Option.some_or, Option.some.injEq, forall_eq']
      refine forall_congr' fun x => ?_
      exact ⟨fun h hx => hx.elim (fun hAx => hpasses hl hleft (hA x hAx)) h, fun h hBx => h (.inr hBx)⟩

section

variable (hl : PropertySchema (.obj left)) (hr : PropertySchema (.obj right))
  (hA : ∀ x, A x → accepts (.obj left) x = true) (hB : ∀ x, B x → accepts (.obj right) x = true)
  (ih : ∀ name l r, (declared left).lookup name = some l → (declared right).lookup name = some r →
    (Widens (mergePropertySchemas l r) (At name A) (At name B) ↔ Met l r (At name A) (At name B)))

include hl hr hA hB in
theorem enum_kept_iff {ls rs : List Json} (hleft : left.lookup "enum" = some (.arr ls))
    (hright : right.lookup "enum" = some (.arr rs)) (hx : A x ∨ B x) :
    Passes properties "enum" (.arr (dedupe (ls ++ rs))) x ↔
      ∀ v, (ls ++ rs).find? x.pyEq = some v → x.same v = true := by
  have hwellFormed : ∀ {schema : Fields} {values : List Json}, PropertySchema (.obj schema) →
      schema.lookup "enum" = some (.arr values) → ∀ v ∈ values, v.WellFormed := by
    intro schema values h hlookup
    cases h with
    | obj _ _ henum =>
        obtain ⟨values', heq, hvalues⟩ := henum _ (Dict.mem_of_lookup hlookup)
        rw [Json.arr.inj heq]
        exact hvalues
  have hvalues : ∀ v ∈ ls ++ rs, v.WellFormed := fun v hv => (List.mem_append.mp hv).elim
    (hwellFormed hl hleft v) (hwellFormed hr hright v)
  have hmem : ∃ v ∈ ls ++ rs, x.same v = true := by
    rcases hx with hx | hx
    · obtain ⟨v, hv, hsame⟩ := passes_enum.mp ((accepts_obj hl.distinct).mp (hA x hx) _ _ hleft)
      exact ⟨v, List.mem_append_left _ hv, hsame⟩
    · obtain ⟨v, hv, hsame⟩ := passes_enum.mp ((accepts_obj hr.distinct).mp (hB x hx) _ _ hright)
      exact ⟨v, List.mem_append_right _ hv, hsame⟩
  rw [passes_enum, exists_mem_dedupe hvalues]
  constructor
  · rintro ⟨v, hv, hsame⟩ v' hv'
    obtain rfl := Option.some.inj (hv.symm.trans hv')
    exact hsame
  · intro h
    obtain ⟨v, hv, hsame⟩ := hmem
    cases hfind : (ls ++ rs).find? x.pyEq with
    | none => exact absurd (Json.pyEq_of_same hsame) (List.find?_eq_none.mp hfind v hv)
    | some v' => exact ⟨v', rfl, h v' hfind⟩

include hl hr hA hB ih in
theorem Widens.met (hne : (Json.obj left).pyEq (.obj right) = false) (h : Widens (.obj (merged left right)) A B) :
    Met (.obj left) (.obj right) A B := by
  have hpasses : ∀ {key value}, (merged left right).lookup key = some value → ∀ x, A x ∨ B x →
      Passes (declared (merged left right)) key value x :=
    fun hlookup x hx => (accepts_obj (distinct_merged hl)).mp (h x hx) _ _ hlookup
  have hdeclared : ∀ {name schema}, (declared (merged left right)).lookup name = some schema →
      ∀ y, At name A y ∨ At name B y → accepts schema y = true := by
    intro name schema hlookup y hy
    rcases hy with ⟨fields, hx, hy⟩ | ⟨fields, hx, hy⟩
    · exact accepts_declared (distinct_merged hl) (h _ (.inl hx)) hlookup hy
    · exact accepts_declared (distinct_merged hl) (h _ (.inr hx)) hlookup hy
  refine .fields hne (fun key hkey => ?_) (fun hone => ?_) (fun ls rs hleft hright x hx => ?_)
    (fun hnone value hlookup fields hx field hfield => ?_) (fun name schema hleft hright y hy => ?_)
    (fun name schema hleft hright y hy => ?_) (fun name l r hleft hright => ?_)
  · have hother : key ≠ "additionalProperties" := by
      rintro rfl
      simp at hkey
    rw [takes_iff hl hr hA hB hother]
    intro value hlookup x hx
    exact (passes_congr hother).mp (hpasses ((lookup_merged_simple hr hkey).trans hlookup) x hx)
  · rw [takes_iff hl hr hA hB (by decide)]
    intro value hlookup x hx
    refine (passes_congr (by decide)).mp (hpasses ?_ x hx)
    rw [lookup_merged_enum hr, ← hlookup]
    rcases hone with hone | hone
    · rw [hone]
      cases right.lookup "enum" <;> rfl
    · rw [hone]
      cases left.lookup "enum" with
      | none => rfl
      | some l => cases l <;> rfl
  · refine (enum_kept_iff hl hr hA hB hleft hright hx).mp (hpasses ?_ x hx)
    rw [lookup_merged_enum hr, hleft, hright]
  · have hfields := passes_additionalProperties.mp
      (hpasses ((lookup_merged_additional_of_none hr hnone).trans hlookup) _ (.inr hx)) fields rfl field hfield
    rw [mem_keys_declared_merged hl hr, or_assoc] at hfields
    exact hfields
  · refine hdeclared ?_ y (.inr hy)
    rw [merged, lookup_declared_merged hl hr, hleft, hright]
  · refine hdeclared ?_ y (.inl hy)
    rw [merged, lookup_declared_merged hl hr, hleft, hright]
  · refine (ih name l r hleft hright).mp fun y hy => hdeclared ?_ y hy
    rw [merged, lookup_declared_merged hl hr, hleft, hright]

include hl hr hA hB ih in
theorem Met.widens (hmet : Met (.obj left) (.obj right) A B) (hne : (Json.obj left).pyEq (.obj right) = false) :
    Widens (.obj (merged left right)) A B := by
  cases hmet with
  | whole hwhole =>
      rcases hwhole with h | h | h
      · exact nomatch h.symm.trans hne
      · exact absurd rfl (h _)
      · exact absurd rfl (h _)
  | fields _ htakes henum hboth hadditional hleft hright hshared =>
      intro x hx
      have hpasses : ∀ {schema key value}, PropertySchema (.obj schema) → accepts (.obj schema) x = true →
          schema.lookup key = some value → Passes (declared schema) key value x :=
        fun h haccepts hlookup => (accepts_obj h.distinct).mp haccepts _ _ hlookup
      rw [accepts_obj (distinct_merged hl)]
      intro key value hlookup
      by_cases hsimple : key ∈ ["type", "items", "minimum", "maximum", "minLength", "minItems"]
      · have hother : key ≠ "additionalProperties" := by
          rintro rfl
          simp at hsimple
        rw [lookup_merged_simple hr hsimple] at hlookup
        exact (passes_congr hother).mpr ((takes_iff hl hr hA hB hother).mp (htakes key hsimple) value hlookup x hx)
      by_cases henumKey : key = "enum"
      · subst henumKey
        rw [lookup_merged_enum hr] at hlookup
        have hone : left.lookup "enum" = none ∨ right.lookup "enum" = none →
            (left.lookup "enum").or (right.lookup "enum") = some value → Passes [] "enum" value x :=
          fun hnone hvalue => (takes_iff hl hr hA hB (by decide)).mp (henum hnone) value hvalue x hx
        suffices hgoal : Passes [] "enum" value x from (passes_congr (by decide)).mpr hgoal
        cases hls : left.lookup "enum" with
        | none =>
            refine hone (.inl hls) ?_
            rw [hls] at hlookup ⊢
            exact hlookup
        | some l =>
            obtain ⟨ls, rfl⟩ := hl.enum_list hls
            cases hrs : right.lookup "enum" with
            | none =>
                refine hone (.inr hrs) ?_
                rw [hls, hrs] at hlookup
                rw [hls]
                exact hlookup
            | some r =>
                obtain ⟨rs, rfl⟩ := hr.enum_list hrs
                rw [hls, hrs] at hlookup
                obtain rfl := Option.some.inj hlookup
                exact (enum_kept_iff hl hr hA hB hls hrs hx).mpr (hboth ls rs hls hrs x hx)
      by_cases hrequired : key = "required"
      · subst hrequired
        obtain ⟨names, ls, rs, rfl, hls, hrs, hnames⟩ := lookup_merged_required hl hr hlookup
        refine passes_required.mpr ?_
        rintro fields rfl s hs
        rcases hx with hx | hx
        · exact passes_required.mp (hpasses hl (hA _ hx) hls) fields rfl s (hnames s hs).1
        · exact passes_required.mp (hpasses hr (hB _ hx) hrs) fields rfl s (hnames s hs).2
      by_cases hproperties : key = "properties"
      · subst hproperties
        obtain ⟨rfl, hdistinct⟩ := lookup_merged_properties hl hr hlookup
        refine passes_properties.mpr ?_
        rintro fields rfl field hfield y hy
        have hfield := Dict.lookup_of_mem hdistinct (show (field.1, field.2) ∈ _ from hfield)
        rw [merged, lookup_declared_merged hl hr] at hfield
        have hat : At field.1 A y ∨ At field.1 B y := hx.imp (fun h => ⟨fields, h, hy⟩) fun h => ⟨fields, h, hy⟩
        cases hls : (declared left).lookup field.1 with
        | none =>
            cases hrs : (declared right).lookup field.1 with
            | none => rw [hls, hrs] at hfield; exact nomatch hfield
            | some r =>
                rw [hls, hrs] at hfield
                obtain rfl := Option.some.inj hfield
                refine hat.elim (hright _ _ hls hrs y) ?_
                rintro ⟨fields', hx', hy'⟩
                exact accepts_declared hr.distinct (hB _ hx') hrs hy'
        | some l =>
            cases hrs : (declared right).lookup field.1 with
            | none =>
                rw [hls, hrs] at hfield
                obtain rfl := Option.some.inj hfield
                refine hat.elim ?_ (hleft _ _ hls hrs y)
                rintro ⟨fields', hx', hy'⟩
                exact accepts_declared hl.distinct (hA _ hx') hls hy'
            | some r =>
                rw [hls, hrs] at hfield
                rw [← Option.some.inj hfield]
                exact (ih _ l r hls hrs).mpr (hshared _ l r hls hrs) y hat
      by_cases hadditionalKey : key = "additionalProperties"
      · subst hadditionalKey
        obtain ⟨hlookupLeft, hlookupRight⟩ := lookup_merged_additional hr hlookup
        refine passes_additionalProperties.mpr ?_
        rintro fields rfl field hfield
        rw [mem_keys_declared_merged hl hr, or_assoc]
        rcases hx with hx | hx
        · exact (passes_additionalProperties.mp (hpasses hl (hA _ hx) hlookupLeft) fields rfl field hfield).imp_right .inr
        · rcases hlookupRight with hnone | ⟨rfl, hlookupRight⟩
          · exact hadditional hnone value hlookupLeft fields hx field hfield
          · exact .inr (passes_additionalProperties.mp (hpasses hr (hB _ hx) hlookupRight) fields rfl field hfield)
      · refine passes_other fun hkey => ?_
        simp only [List.mem_cons, List.not_mem_nil, or_false] at hkey hsimple
        tauto

end

/-- The merged schema accepts all instances of both alternatives exactly if these meet what it takes from the
other one. -/
theorem widens_iff_met (hl : PropertySchema l) (hr : PropertySchema r) (hA : ∀ x, A x → accepts l x = true)
    (hB : ∀ x, B x → accepts r x = true) : Widens (mergePropertySchemas l r) A B ↔ Met l r A B := by
  have hwhole : ∀ {l r A B}, (∀ x, A x → accepts l x = true) →
      (l.pyEq r = true ∨ (∀ left, l ≠ .obj left) ∨ ∀ right, r ≠ .obj right) →
        (Widens (mergePropertySchemas l r) A B ↔ Met l r A B) := by
    intro l r A B hA h
    rw [mergePropertySchemas_whole h]
    refine ⟨fun hwidens => .whole h fun x hx => hwidens x (.inr hx), fun hmet x hx => hx.elim (hA x) ?_⟩
    cases hmet with
    | whole _ haccepts => exact haccepts x
    | fields hne =>
        rcases h with h | h | h
        · exact nomatch h.symm.trans hne
        · exact absurd rfl (h _)
        · exact absurd rfl (h _)
  induction hr generalizing l A B with
  | bool b => exact hwhole hA (.inr (.inr nofun))
  | @obj right hdistinct hkeys henum hrequired hproperties hschemas hnested ih _ =>
      have hr : PropertySchema (.obj right) := .obj hdistinct hkeys henum hrequired hproperties hschemas hnested
      cases hl with
      | bool b => exact hwhole hA (.inr (.inl nofun))
      | @obj left hdistinct' hkeys' henum' hrequired' hproperties' hschemas' hnested' =>
          have hl : PropertySchema (.obj left) :=
            .obj hdistinct' hkeys' henum' hrequired' hproperties' hschemas' hnested'
          cases hne : (Json.obj left).pyEq (.obj right) with
          | true => exact hwhole hA (.inl hne)
          | false =>
              rw [mergePropertySchemas_fields hne]
              have hshared : ∀ name l r, (declared left).lookup name = some l →
                  (declared right).lookup name = some r →
                    (Widens (mergePropertySchemas l r) (At name A) (At name B) ↔ Met l r (At name A) (At name B)) := by
                intro name l r hleft hright
                have hA' : ∀ y, At name A y → accepts l y = true := fun y ⟨_, hx, hy⟩ =>
                  accepts_declared hl.distinct (hA _ hx) hleft hy
                have hB' : ∀ y, At name B y → accepts r y = true := fun y ⟨_, hx, hy⟩ =>
                  accepts_declared hr.distinct (hB _ hx) hright hy
                rw [declared] at hright
                split at hright
                · rename_i properties hproperties
                  exact ih properties (Dict.mem_of_lookup hproperties) _ (Dict.mem_of_lookup hright)
                    (hl.of_declared hleft) hA' hB'
                · exact nomatch hright
              exact ⟨fun h => h.met hl hr hA hB hshared hne, fun h => h.widens hl hr hA hB hshared hne⟩

/-- The instances of two alternatives. -/
def Instance (schema x : Json) : Prop := x.WellFormed ∧ accepts schema x = true

def closedPoint : Json := .obj [("type", .str "object"), ("additionalProperties", .bool false)]

def openPoint : Json := .obj [("type", .str "object")]

theorem propertySchema_closedPoint : PropertySchema closedPoint := by
  refine .obj (by unfold Dict.Distinct; decide) (by decide) (by simp) (by simp) (by simp) (by simp) ?_
  intro key _ value hvalue
  simp only [List.mem_cons, Prod.mk.injEq, List.not_mem_nil, or_false] at hvalue
  rcases hvalue with ⟨rfl, -⟩ | ⟨-, rfl⟩
  · simp at *
  · exact .bool false

theorem propertySchema_openPoint : PropertySchema openPoint :=
  .obj (by unfold Dict.Distinct; decide) (by decide) (by simp) (by simp) (by simp) (by simp) (by simp)

end GdbMcp
