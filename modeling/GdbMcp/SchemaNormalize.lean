import GdbMcp.SchemaMerge

/-! The normalization of the published schemas: references are inlined, unions flattened and constants turned into
enumerations. -/

namespace GdbMcp

def Json.asText : Json → Option String
  | .str s => some s
  | _ => none

/-! ### Texts -/

/-- The texts among the items of a list. -/
def textItems (value : Option Json) : List String :=
  ((value.bind Json.asList).getD []).filterMap Json.asText

/-- List required property paths, expanding one level of nested objects. -/
def requiredPaths : Nat → String → Fields → List String
  | 0, _, _ => []
  | depth + 1, start, schema =>
    (textItems (schema.lookup "required")).flatMap fun name =>
      (start ++ name) :: match (declared schema).lookup name with
        | some (.obj nested) => requiredPaths depth (start ++ name ++ ".") nested
        | _ => []

def discriminatorValues (propertySchema : Option Json) : List String :=
  match propertySchema with
  | some (.obj fields) =>
    match fields.lookup "enum", fields.lookup "const" with
    | some (.arr values), _ => textItems (some (.arr values))
    | _, some (.str value) => [value]
    | _, _ => []
  | _ => []

def discriminatorScope (propertyName : String) (values : List String) : String :=
  match values with
  | [v] => propertyName ++ "='" ++ v ++ "'"
  | [v, w] => propertyName ++ "='" ++ v ++ "' or " ++ propertyName ++ "='" ++ w ++ "'"
  | _ => propertyName ++ " in [" ++ String.intercalate ", " (values.map fun v => "'" ++ v ++ "'") ++ "]"

def discriminatorName (discriminator : Option Json) : Option String :=
  match discriminator with
  | some (.obj fields) => (fields.lookup "propertyName").bind Json.asText
  | _ => none

/-- Summarize per-variant required paths that a flat schema cannot express. -/
def conditionalRequirementsNote (discriminator : Option Json) (variants : List Fields) : Option String := do
  let propertyName ← discriminatorName discriminator
  let variantPaths := variants.map (requiredPaths 2 "")
  let clauses := (variants.zip variantPaths).filterMap fun (variant, paths) =>
    let conditional := paths.filter fun path => !variantPaths.all (·.elem path)
    let values := discriminatorValues ((declared variant).lookup propertyName)
    if conditional.isEmpty || values.isEmpty then none
    else some (discriminatorScope propertyName values ++ " requires " ++ String.intercalate ", " conditional)
  if clauses.isEmpty then none
  else some ("Conditional requirements: " ++ String.intercalate "; " clauses ++ ".")

/-- Join distinct non-empty texts the same way alternative labels are joined. -/
def joinTexts (texts : List Json) : Json := texts.foldl mergeText .null

/-- A text with a note behind it. -/
def withNote (base : Json) (note : String) : Json :=
  match base with
  | .str text => if text = "" then .str note else .str (text ++ " " ++ note)
  | _ => .str note

/-- The declared property names of a fixed-field object schema. -/
def acceptedFieldNames (schema : Option Json) : Option (List String) :=
  match schema with
  | some (.obj fields) =>
    match fields.lookup "type", fields.lookup "additionalProperties" with
    | some (.str "object"), some (.obj _) => none
    | some (.str "object"), _ => some (Dict.keys (declared fields))
    | _, _ => none
  | _ => none

/-- The fields that each discriminator value accepts for one property. -/
def acceptedFields (variants : List Fields) (propertyName name : String) : List (List String × List String) :=
  variants.foldl (fun accepted variant =>
    match acceptedFieldNames ((declared variant).lookup name) with
    | some fields => Dict.set accepted fields
        ((accepted.lookup fields).getD [] ++ discriminatorValues ((declared variant).lookup propertyName))
    | none => accepted) []

/-- The descriptions of one property by the variants that accept fields for it. -/
def acceptedDescriptions (variants : List Fields) (name : String) : List Json :=
  variants.filterMap fun variant =>
    match (declared variant).lookup name with
    | some (.obj candidate) =>
      match acceptedFieldNames (some (.obj candidate)) with
      | some (_ :: _) => some ((candidate.lookup "description").getD .null)
      | _ => none
    | _ => none

/-- Describe which fields each discriminator value accepts for one property. -/
def documentAcceptedFields (merged : Fields) (variants : List Fields) (discriminator : Option Json) : Fields :=
  match discriminatorName discriminator, merged.lookup "properties" with
  | some propertyName, some (.obj properties) =>
    let document := fun (name : String) (propertySchema : Json) =>
      match propertySchema with
      | .obj fields =>
        let accepted := acceptedFields variants propertyName name
        if name = propertyName || accepted.length < 2 then propertySchema
        else
          let clauses := accepted.map fun (names, values) => discriminatorScope propertyName values ++ " accepts " ++
            if names.isEmpty then "no fields" else String.intercalate ", " names
          .obj (Dict.set fields "description" (withNote (joinTexts (acceptedDescriptions variants name))
            ("Accepted fields depend on " ++ propertyName ++ ": " ++ String.intercalate "; " clauses ++ ".")))
      | _ => propertySchema
    Dict.set merged "properties" (.obj (properties.map fun (name, schema) => (name, document name schema)))
  | _, _ => merged

/-! ### Unions -/

def isNullSchema (schema : Fields) : Bool := (schema.lookup "type").bind Json.asText == some "null"

def isObjectLike (schema : Fields) : Bool :=
  (schema.lookup "type").bind Json.asText == some "object" || (Dict.keys schema).elem "properties"

/-- Merge alternative object shapes into one object schema. -/
def mergeObjectVariants (variants : List Fields) : Fields :=
  let required := variants.map fun variant => textItems (variant.lookup "required")
  let properties := variants.foldl (fun properties variant => mergeProperties properties (declared variant)) []
  let orderedCommon := required.flatten.eraseDups.filter fun name => required.all (·.elem name)
  let closed := variants.all fun variant =>
    match variant.lookup "additionalProperties" with
    | some (.bool false) => true
    | _ => false
  let merged : Fields := [("type", .str "object")]
  let merged := if properties.isEmpty then merged else Dict.set merged "properties" (.obj properties)
  let merged := if orderedCommon.isEmpty then merged else Dict.set merged "required" (.arr (orderedCommon.map .str))
  if !variants.isEmpty && closed then Dict.set merged "additionalProperties" (.bool false) else merged

/-- Flatten one union into a single schema; the alternatives are normalized already. -/
def normalizeUnion (node normalized : Fields) : Fields :=
  match (normalized.lookup "oneOf").or (normalized.lookup "anyOf") with
  | some (.arr alternatives) =>
    let schemas := alternatives.filterMap fun
      | .obj fields => some fields
      | _ => none
    let variants := schemas.filter fun schema => !isNullSchema schema
    let nullable := schemas.any isNullSchema
    let wrapper := node.filter fun field => !(["oneOf", "anyOf", "discriminator"].elem field.1)
    let wrapper := match nullable, wrapper.lookup "default" with
      | true, some .null => Dict.erase wrapper "default"
      | _, _ => wrapper
    match variants with
    | [] => Dict.update (if nullable then [("type", .str "null")] else []) wrapper
    | [variant] => Dict.update variant wrapper
    | primary :: _ =>
      let merged := Dict.update (if variants.all isObjectLike then mergeObjectVariants variants else primary) wrapper
      let merged := match conditionalRequirementsNote (node.lookup "discriminator") variants with
        | some note => Dict.set merged "description" (withNote ((merged.lookup "description").getD .null) note)
        | none => merged
      documentAcceptedFields merged variants (node.lookup "discriminator")
  | _ => node

theorem forall_objects {P : Fields → Prop} {alternatives : List Json} (h : ∀ fields, Json.obj fields ∈ alternatives → P fields) :
    ∀ variant ∈ (alternatives.filterMap fun
      | .obj fields => some fields
      | _ => none), P variant := by
  intro variant hvariant
  obtain ⟨schema, hschema, heq⟩ := List.mem_filterMap.mp hvariant
  cases schema with
  | obj fields =>
      obtain rfl := Option.some.inj heq
      exact h _ hschema
  | _ => cases heq

theorem of_wrapper {P : Fields → Prop} (nullable : Bool) {wrapper : Fields} (h : P wrapper)
    (herased : P (Dict.erase wrapper "default")) :
    P (match nullable, wrapper.lookup "default" with
      | true, some .null => Dict.erase wrapper "default"
      | _, _ => wrapper) := by
  split
  · exact herased
  · exact h

/-! ### Nodes -/

/-- The last segment of a reference. -/
def refName (ref : String) : String := String.ofList (ref.toList.reverse.takeWhile (· != '/')).reverse

/-- Inline one reference, falling back to the reference where there is nothing to inline. -/
def resolveRef (inline : String → Option Json) (node : Fields) (ref : String) : Json :=
  match inline (refName ref) with
  | some (.obj resolved) => .obj (Dict.update resolved (Dict.erase node "$ref"))
  | some resolved => resolved
  | none => .obj node

def constToEnum (normalized : Fields) : Fields :=
  match normalized.lookup "const" with
  | some value =>
    let rest := Dict.erase normalized "const"
    if (Dict.keys rest).elem "enum" then rest else Dict.set rest "enum" (.arr [value])
  | none => normalized

mutual

/-- Recursively normalize one schema node; `inline` gives the normalized target of a reference. -/
def normalizeNode (inline : String → Option Json) : Json → Json
  | .obj node =>
    match node.lookup "$ref" with
    | some (.str ref) => resolveRef inline node ref
    | _ =>
      if node.any fun field => field.1 == "oneOf" || field.1 == "anyOf" then
        .obj (normalizeUnion node (normalizeFields inline node))
      else .obj (constToEnum (Dict.erase (normalizeFields inline node) "discriminator"))
  | node => node
termination_by structural node => node

/-- The fields of a node, those that hold schemas normalized. -/
def normalizeFields (inline : String → Option Json) : Fields → Fields
  | [] => []
  | (key, value) :: rest =>
    (key,
      if key = "properties" then normalizeProperties inline value
      else if key = "items" ∨ key = "additionalProperties" ∨ key = "contains" then normalizeNode inline value
      else if key = "prefixItems" ∨ key = "oneOf" ∨ key = "anyOf" then normalizeItems inline value
      else value) :: normalizeFields inline rest

def normalizeProperties (inline : String → Option Json) : Json → Json
  | .obj properties => .obj (normalizeEach inline properties)
  | value => value

def normalizeEach (inline : String → Option Json) : Fields → Fields
  | [] => []
  | (name, value) :: rest => (name, normalizeNode inline value) :: normalizeEach inline rest

def normalizeItems (inline : String → Option Json) : Json → Json
  | .arr items => .arr (normalizeList inline items)
  | value => value

def normalizeList (inline : String → Option Json) : List Json → List Json
  | [] => []
  | value :: rest => normalizeNode inline value :: normalizeList inline rest

end

/-- The names that are not in the stack. -/
def Fields.outside (defs : Fields) (stack : List String) : Fields := defs.filter fun field => !stack.elem field.1

theorem Fields.outside_lt {defs : Fields} {stack stack' : List String} {name : String} (hstack : name ∉ stack)
    (hmem : name ∈ Dict.keys defs) (hsub : ∀ n, n ∈ stack → n ∈ stack') (hname : name ∈ stack') :
    (Fields.outside defs stack').length < (Fields.outside defs stack).length := by
  obtain ⟨field, hfield, rfl⟩ := List.mem_map.mp hmem
  have hsublist : (Fields.outside defs stack').Sublist (Fields.outside defs stack) := by
    refine List.monotone_filter_right defs fun field hout => ?_
    rw [Bool.not_eq_true', List.elem_eq_mem, decide_eq_false_iff_not] at hout ⊢
    exact fun hin => hout (hsub _ hin)
  refine Nat.lt_of_le_of_ne hsublist.length_le fun heq => ?_
  have hold : field ∈ Fields.outside defs stack := List.mem_filter.mpr ⟨hfield, by simpa using hstack⟩
  rw [← hsublist.eq_of_length heq] at hold
  have hnew := (List.mem_filter.mp hold).2
  simp [hname] at hnew

/-- The normalized target of a reference, below the references of the stack. -/
def inlineRef (defs : Fields) (stack : List String) (name : String) : Option Json :=
  if _hstack : name ∈ stack then none
  else
    match _hlookup : defs.lookup name with
    | none | some .null => none
    | some target => some (normalizeNode (fun name' => inlineRef defs (stack ++ [name]) name') target)
termination_by (Fields.outside defs stack).length
decreasing_by
  exact Fields.outside_lt _hstack (Dict.mem_keys_of_lookup _hlookup) (fun n hn => List.mem_append_left _ hn)
    (List.mem_append_right _ List.mem_cons_self)

mutual

/-- Collect every reference name reachable in one schema node. -/
def collectRefNames : Json → List String
  | .obj node =>
    (match node.lookup "$ref" with
      | some (.str ref) => [refName ref]
      | _ => []) ++ collectFields node
  | .arr items => collectItems items
  | _ => []

def collectFields : Fields → List String
  | [] => []
  | (_, value) :: rest => collectRefNames value ++ collectFields rest

def collectItems : List Json → List String
  | [] => []
  | value :: rest => collectRefNames value ++ collectItems rest

end

/-- The loop that keeps the definitions reachable from the pending names. -/
def pruneLoop (defs : Fields) (kept : List String) : List String → List String
  | [] => kept
  | name :: pending =>
    if _hname : name ∉ kept ∧ name ∈ Dict.keys defs then
      pruneLoop defs (name :: kept) (collectRefNames ((defs.lookup name).getD .null) ++ pending)
    else pruneLoop defs kept pending
termination_by pending => ((Fields.outside defs kept).length, pending.length)
decreasing_by
  · exact .left _ _ (Fields.outside_lt _hname.1 _hname.2 (fun n hn => List.mem_cons_of_mem _ hn) List.mem_cons_self)
  · exact .right _ (Nat.lt_succ_self _)

/-- Keep only definitions transitively reachable from remaining references. -/
def pruneDefs (defs : Fields) (initialRefs : List String) : Fields :=
  defs.filter fun field => (pruneLoop defs [] initialRefs).elem field.1

/-- The definitions that are still referred to are published with the schema. -/
def keepDefinitions (defs : Fields) (normalized : Json) : Json :=
  match normalized with
  | .obj fields =>
    let pendingRefs := collectRefNames normalized
    if pendingRefs.isEmpty then normalized
    else
      let kept := pruneDefs defs pendingRefs
      .obj (Dict.set fields "$defs" (.obj (kept.map fun (name, definition) =>
        (name, normalizeNode (inlineRef kept [name]) definition))))
  | _ => normalized

def rootDefinitions (schema : Fields) : Fields :=
  match schema.lookup "$defs" with
  | some (.obj defs) => defs
  | _ => []

/-- Flatten Pydantic JSON Schema combinators into plain nested schemas. -/
def normalizeInputSchema (schema : Fields) : Json :=
  let defs := rootDefinitions schema
  keepDefinitions defs (normalizeNode (inlineRef defs []) (.obj (Dict.erase schema "$defs")))

end GdbMcp
