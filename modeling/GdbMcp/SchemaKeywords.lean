import GdbMcp.SchemaAccepts

/-! What an instance passes, keyword by keyword, and what becomes of each field when two schemas are merged. -/

namespace GdbMcp

/-! ### Keywords one by one -/

/-- An instance passes a keyword of a schema that describes the given properties. -/
def Passes (properties : Fields) (key : String) (value x : Json) : Prop :=
  acceptsField (Dict.keys properties) key value x (fun y => accepts value y) (fun fields => acceptsAll value fields) =
    true

variable {left right schema properties : Fields} {l r x value : Json} {key name : String} {A B : Json → Prop}

theorem accepts_obj (h : Dict.Distinct schema) : accepts (.obj schema) x = true ↔
    ∀ key value, schema.lookup key = some value → Passes (declared schema) key value x := by
  have hfields : ∀ names {rest : Fields}, acceptsFields names rest x = true ↔ ∀ field ∈ rest,
      acceptsField names field.1 field.2 x (fun y => accepts field.2 y) (fun fields => acceptsAll field.2 fields) =
        true := by
    intro names rest
    induction rest with
    | nil => simp [acceptsFields]
    | cons field rest ih => rw [acceptsFields, Bool.and_eq_true, ih, List.forall_mem_cons]
  rw [accepts, hfields]
  exact ⟨fun hall key value hlookup => hall (key, value) (Dict.mem_of_lookup hlookup),
    fun hall field hfield => hall field.1 field.2 (Dict.lookup_of_mem h hfield)⟩

theorem passes_enum {values : List Json} :
    Passes properties "enum" (.arr values) x ↔ ∃ v ∈ values, x.same v = true := by
  cases x <;> exact List.any_eq_true

theorem passes_required {names : List Json} : Passes properties "required" (.arr names) x ↔
    ∀ fields, x = .obj fields → ∀ s, .str s ∈ names → s ∈ Dict.keys fields := by
  cases x with
  | obj fields =>
      refine List.all_eq_true.trans ⟨?_, fun h name hname => ?_⟩
      · rintro h _ ⟨⟩ s hs
        simpa using h _ hs
      · cases name with
        | str s => simpa using h fields rfl s hname
        | _ => rfl
  | _ => exact ⟨fun _ => nofun, fun _ => rfl⟩

theorem passes_properties {described : Fields} : Passes properties "properties" (.obj described) x ↔
    ∀ fields, x = .obj fields → ∀ field ∈ described, ∀ y, fields.lookup field.1 = some y →
      accepts field.2 y = true := by
  cases x with
  | obj fields =>
      have hall : Passes properties "properties" (.obj described) (.obj fields) ↔
          ∀ field ∈ described, ∀ y, fields.lookup field.1 = some y → accepts field.2 y = true := by
        change acceptsProperties described fields = true ↔ _
        induction described with
        | nil => simp [acceptsProperties]
        | cons field rest ih =>
            rw [acceptsProperties, Bool.and_eq_true, ih, List.forall_mem_cons]
            refine and_congr_left fun _ => ?_
            cases fields.lookup field.1 <;> simp
      rw [hall]
      exact ⟨fun h _ heq => Json.obj.inj heq ▸ h, fun h => h fields rfl⟩
  | _ => exact ⟨fun _ => nofun, fun _ => rfl⟩

theorem passes_additionalProperties : Passes properties "additionalProperties" value x ↔
    ∀ fields, x = .obj fields → ∀ field ∈ fields, field.1 ∈ Dict.keys properties ∨ accepts value field.2 = true := by
  cases x with
  | obj fields =>
      refine List.all_eq_true.trans ?_
      simp only [Bool.or_eq_true, List.elem_eq_mem, decide_eq_true_eq]
      exact ⟨fun h _ heq => Json.obj.inj heq ▸ h, fun h => h fields rfl⟩
  | _ => exact ⟨fun _ => nofun, fun _ => rfl⟩

/-- The annotations say nothing of an instance. -/
theorem passes_other (hkey : key ∉ ["type", "enum", "required", "properties", "additionalProperties", "items", "minimum",
    "maximum", "minLength", "minItems"]) : Passes properties key value x := by
  simp only [List.mem_cons, List.not_mem_nil, or_false, not_or] at hkey
  have hsimple : acceptsSimple key value x = true := by
    unfold acceptsSimple
    split <;> simp_all
  cases x <;> simp only [Passes, acceptsField, hkey, if_false] <;> exact hsimple

/-- Only `additionalProperties` looks at the properties beside it. -/
theorem passes_congr {properties' : Fields} (hkey : key ≠ "additionalProperties") :
    Passes properties key value x ↔ Passes properties' key value x := by
  cases x <;> simp only [Passes, acceptsField, if_neg hkey]

/-! ### The merged fields -/

/-- The merged value of a field, from the one so far and the right one. -/
def mergeValue (key : String) (old : Option Json) (value : Json) : Option Json :=
  if key = "required" then old
  else if key = "additionalProperties" then
    match old, value with
    | some (.bool false), .bool false => old
    | _, _ => none
  else if key = "title" ∨ key = "description" then some (mergeText (old.getD .null) value)
  else match old, value with
    | none, value => some value
    | some (.arr old), .arr new => if key = "enum" then some (.arr (dedupe (old ++ new))) else some (.arr old)
    | some (.obj old), .obj new => if key = "properties" then some (.obj (mergeProperties old new)) else some (.obj old)
    | some old, _ => some old

theorem lookup_mergeField (merged : Fields) (key : String) (value : Json) (key' : String) :
    (mergeField merged key value).lookup key' =
      if key' = key then mergeValue key (merged.lookup key) value else merged.lookup key' := by
  have hsame : ∀ {value'}, merged.lookup key = value' →
      merged.lookup key' = if key' = key then value' else merged.lookup key' := by
    rintro _ rfl
    split
    · rename_i hkey
      rw [hkey]
    · rfl
  unfold mergeField mergeValue
  split
  · exact hsame rfl
  split
  · cases hold : merged.lookup key with
    | none => simp
    | some old =>
        split <;> simp_all
  split
  · simp
  · cases hold : merged.lookup key with
    | none => simp
    | some old =>
      cases old <;> cases value <;> simp only [] <;> try exact hsame hold
      · split
        · simp
        · exact hsame hold
      · split
        · simp
        · exact hsame hold

theorem distinct_mergeField {merged : Fields} (h : Dict.Distinct merged) : Dict.Distinct (mergeField merged key value) := by
  unfold mergeField
  split
  · exact h
  split
  · split
    · exact h
    · exact h.erase _
  split
  · exact h.set ..
  · split
    · exact h.set ..
    · split
      · exact h.set ..
      · exact h
    · split
      · exact h.set ..
      · exact h
    · exact h

theorem distinct_mergeFields {merged : Fields} (h : Dict.Distinct merged) : Dict.Distinct (mergeFields merged right) := by
  induction right generalizing merged with
  | nil => rw [mergeFields]; exact h
  | cons field rest ih => rw [mergeFields]; exact ih (distinct_mergeField h)

theorem lookup_mergeFields {merged : Fields} (h : Dict.Distinct right) (key : String) :
    (mergeFields merged right).lookup key =
      match right.lookup key with
      | some value => mergeValue key (merged.lookup key) value
      | none => merged.lookup key := by
  induction right generalizing merged with
  | nil => rw [mergeFields]; rfl
  | cons field rest ih =>
      rw [Dict.Distinct, Dict.keys, List.map_cons, List.nodup_cons] at h
      rw [mergeFields, ih h.2, Dict.lookup_cons, lookup_mergeField]
      by_cases hkey : key = field.1
      · subst hkey
        have hrest : rest.lookup field.1 = none := Dict.lookup_eq_none.mpr h.1
        simp [hrest]
      · simp [hkey]

theorem distinct_mergeRequired (h : Dict.Distinct left) : Dict.Distinct (mergeRequired left right) := by
  rw [mergeRequired]
  split
  · exact h
  · simp only []
    split
    · exact h.erase _
    · exact h.set ..

theorem lookup_mergeRequired (hkey : key ≠ "required") : (mergeRequired left right).lookup key = left.lookup key := by
  rw [mergeRequired]
  split
  · rfl
  · simp only []
    split <;> simp [hkey]

theorem lookup_mergeProperties {old : Fields} (h : Dict.Distinct right) (name : String) :
    (mergeProperties old right).lookup name =
      match right.lookup name with
      | some prop => some (match old.lookup name with
        | some old => mergePropertySchemas old prop
        | none => prop)
      | none => old.lookup name := by
  induction right generalizing old with
  | nil => rw [mergeProperties]; rfl
  | cons field rest ih =>
      rw [Dict.Distinct, Dict.keys, List.map_cons, List.nodup_cons] at h
      rw [mergeProperties, ih h.2, Dict.lookup_cons, Dict.lookup_set]
      by_cases hname : name = field.1
      · subst hname
        have hrest : rest.lookup field.1 = none := Dict.lookup_eq_none.mpr h.1
        cases old.lookup field.1 <;> simp [hrest]
      · simp [hname]

theorem distinct_mergeProperties {old : Fields} (h : Dict.Distinct old) : Dict.Distinct (mergeProperties old right) := by
  induction right generalizing old with
  | nil => rw [mergeProperties]; exact h
  | cons field rest ih => rw [mergeProperties]; exact ih (h.set ..)

end GdbMcp
