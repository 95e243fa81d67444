import GdbMcp.SchemaJson

/-! The merging of alternative schemas, field by field, as the normalizer of the published schemas does it. -/

namespace GdbMcp

abbrev Fields := List (String × Json)

def Json.asList : Json → Option (List Json)
  | .arr items => some items
  | _ => none

/-- The properties that a schema describes. -/
def declared (schema : Fields) : Fields :=
  match schema.lookup "properties" with
  | some (.obj properties) => properties
  | _ => []

def dedupe (values : List Json) : List Json :=
  values.foldl (fun deduped value => if deduped.any value.pyEq then deduped else deduped ++ [value]) []

/-- Join alternative labels or descriptions, skipping repeated text. -/
def mergeText (left right : Json) : Json :=
  match right with
  | .str r =>
    if r = "" then left
    else match left with
      | .str l => if l = "" then right else if l = r then left else .str s!"{l} | {r}"
      | _ => right
  | _ => left

/-- The copy of the left alternative, with the names that both require. -/
def mergeRequired (left right : Fields) : Fields :=
  match (left.lookup "required").bind Json.asList, (right.lookup "required").bind Json.asList with
  | none, none => left
  | leftNames, rightNames =>
    let common := (leftNames.getD []).filter fun name => (rightNames.getD []).any name.pyEq
    if common.isEmpty then Dict.erase left "required" else Dict.set left "required" (.arr common)

mutual

/-- Merge one property that appears in several alternative object shapes. -/
def mergePropertySchemas (left right : Json) : Json :=
  if left.pyEq right then left
  else match left, right with
    | .obj left, .obj right => .obj (mergeFields (mergeRequired left right) right)
    | left, _ => left
termination_by structural right

/-- The loop over the fields of the right alternative. -/
def mergeFields (merged : Fields) : Fields → Fields
  | [] => merged
  | (key, value) :: rest => mergeFields (mergeField merged key value) rest

def mergeField (merged : Fields) (key : String) (value : Json) : Fields :=
  if key = "required" then merged
  else if key = "additionalProperties" then
    match merged.lookup key, value with
    | some (.bool false), .bool false => merged
    | _, _ => Dict.erase merged key
  else if key = "title" ∨ key = "description" then
    Dict.set merged key (mergeText ((merged.lookup key).getD .null) value)
  else match merged.lookup key, value with
    | none, value => Dict.set merged key value
    | some (.arr old), .arr new => if key = "enum" then Dict.set merged key (.arr (dedupe (old ++ new))) else merged
    | some (.obj old), .obj new => if key = "properties" then Dict.set merged key (.obj (mergeProperties old new)) else merged
    -- the value of the primary alternative is kept
    | some _, _ => merged

/-- The loop over the properties of the right alternative. -/
def mergeProperties (properties : Fields) : Fields → Fields
  | [] => properties
  | (name, prop) :: rest =>
    mergeProperties (Dict.set properties name
      (match properties.lookup name with
        | some old => mergePropertySchemas old prop
        | none => prop)) rest

end

/-- A right alternative that is no object leaves the left one. -/
theorem mergePropertySchemas_of_not_obj {left right : Json} (h : ∀ fields, right ≠ .obj fields) :
    mergePropertySchemas left right = left := by
  unfold mergePropertySchemas
  split
  · rfl
  · split
    · exact absurd rfl (h _)
    · rfl

end GdbMcp
