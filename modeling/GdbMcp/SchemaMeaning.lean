import GdbMcp.SchemaPublished

/-! What schemas with references, constants and unions say of an instance, and that a field says the same once the
schemas in it are normalized. The references may turn in circles: what they mean is given, and the definitions say
it. -/

namespace GdbMcp

/-- No value in an instance is null. -/
inductive Json.NullFree : Json → Prop
  | bool (b : Bool) : NullFree (.bool b)
  | num (q : Rat) : NullFree (.num q)
  | str (s : String) : NullFree (.str s)
  | arr {items : List Json} (hitems : ∀ v ∈ items, NullFree v) : NullFree (.arr items)
  | obj {fields : Fields} (hfields : ∀ field ∈ fields, NullFree field.2) : NullFree (.obj fields)

/-- The items of an array. -/
def Json.elements : Json → List Json
  | .arr items => items
  | _ => []

/-- The fields of an object. -/
def Json.members : Json → Fields
  | .obj fields => fields
  | _ => []

/-- The keywords that say nothing of an instance. -/
def commentary : List String := ["title", "description", "default", "$defs", "discriminator"]

/-- What the keywords say whose values are no schemas. -/
structure Vocabulary where
  holds (key : String) (value x : Json) : Bool
  commentary {key : String} (h : key ∈ GdbMcp.commentary) (value x : Json) : holds key value x = true
  null {x : Json} (h : holds "type" (.str "null") x = true) : x = .null
  const (value x : Json) : holds "const" value x = holds "enum" (.arr [value]) x

/-- One keyword, in a schema with the given properties and leading items. What its value says as a schema, as schemas
under names, as alternatives or as schemas one by one is for the functions. -/
def Vocabulary.says (V : Vocabulary) (refers : String → Json → Bool) (names : List String) (leading : Nat) (key : String)
    (value x : Json) (conforms : Json → Bool) (members : Fields → Bool) (alternatives : Nat) (each : List Json → Bool) : Bool :=
  if key = "$ref" then
    match value with
    | .str ref => refers ref x
    | _ => true
  else if key = "anyOf" then 0 < alternatives
  else if key = "oneOf" then alternatives = 1
  else if key = "properties" then members x.members
  else if key = "additionalProperties" then x.members.all fun field => names.elem field.1 || conforms field.2
  else if key = "prefixItems" then each x.elements
  else if key = "items" then (x.elements.drop leading).all conforms
  else if key = "contains" then
    match x with
    | .arr items => items.any conforms
    | _ => true
  else V.holds key value x

/-- The number of items that a schema describes by their places. -/
def leadingItems (schema : Fields) : Nat :=
  match schema.lookup "prefixItems" with
  | some (.arr schemas) => schemas.length
  | _ => 0

section

variable (V : Vocabulary) (refers : String → Json → Bool)

mutual

/-- Whether an instance conforms to a schema, given what conforms to the references. -/
def conforms : Json → Json → Bool
  | .bool b, _ => b
  | .obj schema, x => conformsFields (Dict.keys (declared schema)) (leadingItems schema) schema x
  | _, _ => true
termination_by structural schema => schema

def conformsFields (names : List String) (leading : Nat) : Fields → Json → Bool
  | [], _ => true
  | (key, value) :: rest, x =>
    V.says refers names leading key value x (fun y => conforms value y) (fun fields => conformsMembers value fields)
        (conformingIn value x) (fun items => conformsEachIn value items) &&
      conformsFields names leading rest x
termination_by structural schema => schema

def conformsMembers : Json → Fields → Bool
  | .obj properties, fields => conformsProperties properties fields
  | _, _ => true
termination_by structural properties => properties

def conformsProperties : Fields → Fields → Bool
  | [], _ => true
  | (name, schema) :: rest, fields =>
    (match fields.lookup name with
      | some value => conforms schema value
      | none => true) && conformsProperties rest fields
termination_by structural properties => properties

def conformingIn : Json → Json → Nat
  | .arr alternatives, x => conforming alternatives x
  | _, _ => 0
termination_by structural alternatives => alternatives

/-- The number of alternatives that an instance conforms to. -/
def conforming : List Json → Json → Nat
  | [], _ => 0
  | schema :: rest, x => (if conforms schema x then 1 else 0) + conforming rest x
termination_by structural alternatives => alternatives

def conformsEachIn : Json → List Json → Bool
  | .arr schemas, items => conformsEach schemas items
  | _, _ => true
termination_by structural schemas => schemas

def conformsEach : List Json → List Json → Bool
  | [], _ => true
  | schema :: schemas, items =>
    match items with
    | [] => true
    | item :: items => conforms schema item && conformsEach schemas items
termination_by structural schemas => schemas

end

/-- What one field of a schema says. -/
def Says (names : List String) (leading : Nat) (field : String × Json) (x : Json) : Prop :=
  V.says refers names leading field.1 field.2 x (fun y => conforms V refers field.2 y)
    (fun fields => conformsMembers V refers field.2 fields) (conformingIn V refers field.2 x)
    (fun items => conformsEachIn V refers field.2 items) = true

/-- Every reference to a definition says of an instance without null what the definition says. -/
def Meaning (defs : Fields) : Prop :=
  ∀ name definition, defs.lookup name = some definition → ∀ x : Json, x.NullFree →
    refers (pointer name) x = conforms V refers definition x

/-- Two schemas say the same of every instance without null. -/
def SameMeaning (s s' : Json) : Prop := ∀ x : Json, x.NullFree → conforms V refers s' x = conforms V refers s x

end

variable {V : Vocabulary} {refers : String → Json → Bool} {names : List String} {leading : Nat} {key name : String}
  {value s s' x : Json} {fields fields' node defs schema properties : Fields} {items : List Json} {inline : String → Option Json}

theorem Json.NullFree.elements (h : x.NullFree) : ∀ y ∈ x.elements, y.NullFree := by
  cases h with
  | arr hitems => exact hitems
  | _ => exact fun _ hy => (by cases hy)

theorem Json.NullFree.members (h : x.NullFree) : ∀ field ∈ x.members, field.2.NullFree := by
  cases h with
  | obj hfields => exact hfields
  | _ => exact fun _ hfield => (by cases hfield)

/-! ### Keyword by keyword -/

theorem conforms_obj : conforms V refers (.obj schema) x = true ↔
    ∀ field ∈ schema, Says V refers (Dict.keys (declared schema)) (leadingItems schema) field x := by
  have hfields : ∀ {names : List String} {leading : Nat} {rest : Fields},
      conformsFields V refers names leading rest x = true ↔ ∀ field ∈ rest, Says V refers names leading field x := by
    intro names leading rest
    induction rest with
    | nil => simp [conformsFields]
    | cons field rest ih =>
        rw [conformsFields, Bool.and_eq_true, ih, List.forall_mem_cons]
        rfl
  rw [conforms, hfields]

theorem conforming_eq (alternatives : List Json) (x : Json) :
    conforming V refers alternatives x = alternatives.countP fun schema => conforms V refers schema x := by
  induction alternatives with
  | nil => rfl
  | cons schema rest ih => rw [conforming, List.countP_cons, ih, Nat.add_comm]

theorem conformsProperties_iff : conformsProperties V refers properties fields = true ↔
    ∀ property ∈ properties, ∀ y, fields.lookup property.1 = some y → conforms V refers property.2 y = true := by
  induction properties with
  | nil => simp [conformsProperties]
  | cons property rest ih =>
      rw [conformsProperties, Bool.and_eq_true, ih, List.forall_mem_cons]
      refine and_congr_left fun _ => ?_
      cases fields.lookup property.1 <;> simp

theorem says_ref (ref : String) : Says V refers names leading ("$ref", .str ref) x ↔ refers ref x = true := Iff.rfl

theorem says_commentary (h : key ∈ commentary) : Says V refers names leading (key, value) x := by
  have hplain : V.holds key value x = true := V.commentary h value x
  simp only [commentary, List.mem_cons, List.not_mem_nil, or_false] at h
  rcases h with rfl | rfl | rfl | rfl | rfl <;> exact hplain

theorem says_anyOf (alternatives : List Json) : Says V refers names leading ("anyOf", .arr alternatives) x ↔
    0 < alternatives.countP fun schema => conforms V refers schema x := by
  rw [← conforming_eq]
  exact decide_eq_true_iff

theorem says_oneOf (alternatives : List Json) : Says V refers names leading ("oneOf", .arr alternatives) x ↔
    (alternatives.countP fun schema => conforms V refers schema x) = 1 := by
  rw [← conforming_eq]
  exact decide_eq_true_iff

theorem says_items : Says V refers names leading ("items", value) x ↔
    ∀ y ∈ x.elements.drop leading, conforms V refers value y = true := List.all_eq_true

theorem says_contains : Says V refers names leading ("contains", value) x ↔
    ∀ items, x = .arr items → ∃ y ∈ items, conforms V refers value y = true := by
  cases x with
  | arr items =>
      have hany : Says V refers names leading ("contains", value) (.arr items) ↔
          ∃ y ∈ items, conforms V refers value y = true := List.any_eq_true
      rw [hany]
      exact ⟨fun h _ heq => Json.arr.inj heq ▸ h, fun h => h items rfl⟩
  | _ => exact ⟨fun _ _ heq => (by cases heq), fun _ => rfl⟩

theorem says_additionalProperties : Says V refers names leading ("additionalProperties", value) x ↔
    ∀ field ∈ x.members, field.1 ∈ names ∨ conforms V refers value field.2 = true := by
  refine List.all_eq_true.trans ?_
  simp only [Bool.or_eq_true, List.elem_eq_mem, decide_eq_true_eq]

/-! ### The fields of a node -/

/-- The value that is published under a key. -/
def normalizedValue (inline : String → Option Json) (key : String) (value : Json) : Json :=
  if key = "properties" then normalizeProperties inline value
  else if key = "items" ∨ key = "additionalProperties" ∨ key = "contains" then normalizeNode inline value
  else if key = "prefixItems" ∨ key = "oneOf" ∨ key = "anyOf" then normalizeItems inline value
  else value

theorem normalizeFields_eq (inline : String → Option Json) (fields : Fields) :
    normalizeFields inline fields = fields.map fun field => (field.1, normalizedValue inline field.1 field.2) := by
  induction fields with
  | nil => rw [normalizeFields, List.map_nil]
  | cons field rest ih =>
      rw [normalizeFields, ih]
      rfl

theorem normalizeEach_eq (inline : String → Option Json) (fields : Fields) :
    normalizeEach inline fields = fields.map fun field => (field.1, normalizeNode inline field.2) := by
  induction fields with
  | nil => rw [normalizeEach, List.map_nil]
  | cons field rest ih =>
      rw [normalizeEach, ih]
      rfl

theorem normalizeList_eq (inline : String → Option Json) (items : List Json) :
    normalizeList inline items = items.map (normalizeNode inline) := by
  induction items with
  | nil => rw [normalizeList, List.map_nil]
  | cons value rest ih => rw [normalizeList, ih, List.map_cons]

/-- A field says the same once the schemas in it are normalized. -/
theorem says_normalizedValue (hx : x.NullFree) (hfield : (key, value) ∈ node) (hkey : key ∉ ["oneOf", "anyOf"])
    (hchild : ∀ c, Child (.obj node) c → SameMeaning V refers c (normalizeNode inline c)) :
    Says V refers names leading (key, normalizedValue inline key value) x ↔ Says V refers names leading (key, value) x := by
  simp only [List.mem_cons, List.not_mem_nil, or_false, not_or] at hkey
  unfold normalizedValue
  split
  · rename_i hprops
    subst hprops
    cases value with
    | obj properties =>
        change conformsMembers V refers (normalizeProperties inline (.obj properties)) x.members = true ↔
          conformsMembers V refers (.obj properties) x.members = true
        rw [normalizeProperties, normalizeEach_eq, conformsMembers, conformsMembers, conformsProperties_iff,
          conformsProperties_iff, List.forall_mem_map]
        refine forall₂_congr fun property hproperty => forall₂_congr fun y hy => ?_
        have hsame := hchild property.2 (.property hfield hproperty) y (hx.members _ (Dict.mem_of_lookup hy))
        rw [hsame]
    | _ => exact Iff.rfl
  split
  · rename_i hsingle
    have hsame := hchild value (.single (by simp; tauto) hfield)
    rcases hsingle with rfl | rfl | rfl
    · rw [says_items, says_items]
      refine forall₂_congr fun y hy => ?_
      rw [hsame y (hx.elements y (List.mem_of_mem_drop hy))]
    · rw [says_additionalProperties, says_additionalProperties]
      refine forall₂_congr fun field hmem => ?_
      rw [hsame field.2 (hx.members field hmem)]
    · rw [says_contains, says_contains]
      refine forall₂_congr fun items hitems => exists_congr fun y => and_congr_right fun hy => ?_
      rw [hsame y (hx.elements y (by rw [hitems]; exact hy))]
  split
  · rename_i hlisted
    obtain rfl : key = "prefixItems" := by tauto
    cases value with
    | arr schemas =>
        have hsame : ∀ schema ∈ schemas, SameMeaning V refers schema (normalizeNode inline schema) :=
          fun schema hschema => hchild schema (.listed (by simp) hfield hschema)
        change conformsEachIn V refers (normalizeItems inline (.arr schemas)) x.elements = true ↔
          conformsEachIn V refers (.arr schemas) x.elements = true
        rw [normalizeItems, normalizeList_eq, conformsEachIn, conformsEachIn]
        have hitems := hx.elements
        generalize x.elements = items at hitems
        clear hfield hchild
        induction schemas generalizing items with
        | nil => exact Iff.rfl
        | cons schema rest ih =>
            cases items with
            | nil => exact Iff.rfl
            | cons item items =>
                rw [List.forall_mem_cons] at hsame hitems
                rw [List.map_cons, conformsEach, conformsEach, hsame.1 item hitems.1, Bool.and_eq_true, Bool.and_eq_true]
                exact and_congr_right fun _ => ih hsame.2 items hitems.2
    | _ => exact Iff.rfl
  · exact Iff.rfl

theorem lookup_normalizeFields (inline : String → Option Json) (fields : Fields) (key : String) :
    (normalizeFields inline fields).lookup key = (fields.lookup key).map (normalizedValue inline key) := by
  rw [normalizeFields_eq]
  induction fields with
  | nil => rfl
  | cons field rest ih =>
      rw [List.map_cons, Dict.lookup_cons, Dict.lookup_cons, ih]
      split
      · rename_i hkey
        rw [eq_of_beq hkey]
        rfl
      · rfl

/-- Only the properties and the leading items of a schema count for its other fields. -/
theorem beside_congr (hproperties : fields.lookup "properties" = fields'.lookup "properties")
    (hleading : fields.lookup "prefixItems" = fields'.lookup "prefixItems") :
    Dict.keys (declared fields) = Dict.keys (declared fields') ∧ leadingItems fields = leadingItems fields' := by
  rw [declared, declared, leadingItems, leadingItems, hproperties, hleading]
  exact ⟨rfl, rfl⟩

theorem beside_normalizeFields (inline : String → Option Json) (fields : Fields) :
    Dict.keys (declared (normalizeFields inline fields)) = Dict.keys (declared fields) ∧
      leadingItems (normalizeFields inline fields) = leadingItems fields := by
  rw [declared, declared, leadingItems, leadingItems, lookup_normalizeFields, lookup_normalizeFields]
  constructor
  · cases fields.lookup "properties" with
    | none => rfl
    | some value =>
        cases value with
        | obj properties =>
            change Dict.keys (normalizeEach inline properties) = Dict.keys properties
            rw [normalizeEach_eq, Dict.keys, List.map_map]
            rfl
        | _ => rfl
  · cases fields.lookup "prefixItems" with
    | none => rfl
    | some value =>
        cases value with
        | arr schemas =>
            change (normalizeList inline schemas).length = schemas.length
            rw [normalizeList_eq, List.length_map]
        | _ => rfl

/-- A constant says what the enumeration of it says. -/
theorem says_constToEnum (hdistinct : Dict.Distinct fields) (hone : ¬("const" ∈ Dict.keys fields ∧ "enum" ∈ Dict.keys fields)) :
    (∀ field ∈ constToEnum fields, Says V refers names leading field x) ↔
      ∀ field ∈ fields, Says V refers names leading field x := by
  rw [constToEnum]
  cases hlookup : fields.lookup "const" with
  | none => exact Iff.rfl
  | some value =>
      have hconst := Dict.mem_of_lookup hlookup
      have hnone : "enum" ∉ Dict.keys (Dict.erase fields "const") := by
        intro hmem
        obtain ⟨field, hfield, heq⟩ := List.mem_map.mp hmem
        exact hone ⟨Dict.mem_keys_of_lookup hlookup, heq ▸ List.mem_map_of_mem (Dict.mem_erase.mp hfield).1⟩
      have henum : Says V refers names leading ("enum", .arr [value]) x ↔ Says V refers names leading ("const", value) x := by
        change V.holds "enum" (.arr [value]) x = true ↔ V.holds "const" value x = true
        rw [V.const]
      dsimp only
      rw [if_neg (by simpa using hnone)]
      constructor
      · intro h field hfield
        by_cases hkey : field.1 = "const"
        · obtain ⟨key, other⟩ := field
          obtain rfl : key = "const" := hkey
          obtain rfl := Option.some.inj (hlookup.symm.trans (Dict.lookup_of_mem hdistinct hfield))
          exact henum.mp (h _ (Dict.mem_set_self _ _ _))
        · have hrest := Dict.mem_erase.mpr ⟨hfield, hkey⟩
          refine h field ((Dict.mem_set_of_ne fun heq => hnone ?_).mpr hrest)
          exact heq ▸ List.mem_map_of_mem hrest
      · intro h field hfield
        rcases Dict.mem_set hfield with rfl | hrest
        · exact henum.mpr (h _ hconst)
        · exact h field (Dict.mem_erase.mp hrest).1

/-- Fields that say nothing change nothing. -/
theorem conforms_update (hwrapper : ∀ field ∈ fields', field.1 ∈ commentary) :
    conforms V refers (.obj (Dict.update fields fields')) x = conforms V refers (.obj fields) x := by
  induction fields' generalizing fields with
  | nil => rfl
  | cons field rest ih =>
      rw [List.forall_mem_cons] at hwrapper
      have hset : conforms V refers (.obj (Dict.set fields field.1 field.2)) x = conforms V refers (.obj fields) x := by
        have hkeep : ∀ key ∈ ["properties", "prefixItems"], (Dict.set fields field.1 field.2).lookup key = fields.lookup key := by
          intro key hkey
          rw [Dict.lookup_set, if_neg]
          rw [beq_iff_eq]
          rintro rfl
          have hcomment := hwrapper.1
          simp only [commentary, List.mem_cons, List.not_mem_nil, or_false] at hcomment hkey
          rcases hkey with heq | heq <;> rw [heq] at hcomment <;> simp at hcomment
        obtain ⟨hnames, hleading⟩ := beside_congr (hkeep _ (by simp)) (hkeep _ (by simp))
        rw [Bool.eq_iff_iff, conforms_obj, conforms_obj, hnames, hleading]
        constructor
        · intro h old hold
          by_cases hkey : old.1 = field.1
          · exact says_commentary (hkey ▸ hwrapper.1)
          · exact h old ((Dict.mem_set_of_ne hkey).mpr hold)
        · intro h new hnew
          rcases Dict.mem_set hnew with rfl | hold
          · exact says_commentary hwrapper.1
          · exact h new hold
      exact (ih hwrapper.2).trans hset

end GdbMcp
