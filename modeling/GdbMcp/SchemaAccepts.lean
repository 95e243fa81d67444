import GdbMcp.SchemaMerge

/-! The instances that a property schema accepts. A keyword says nothing of an instance of another type than its
own. -/

namespace GdbMcp

namespace Json

/-- The name of a JSON type, of which integers are the numbers without a fraction. -/
def hasType (x : Json) (name : String) : Bool :=
  match x with
  | .null => name == "null"
  | .bool _ => name == "boolean"
  | .num q => name == "number" || name == "integer" && q.den == 1
  | .str _ => name == "string"
  | .arr _ => name == "array"
  | .obj _ => name == "object"

end Json

/-- The keywords whose value is no schema. -/
def acceptsSimple (key : String) (value x : Json) : Bool :=
  match key, value, x with
  | "type", .str name, x => x.hasType name
  | "type", .arr names, x => names.any fun name => match name with
    | .str name => x.hasType name
    | _ => false
  | "enum", .arr values, x => values.any x.same
  | "required", .arr names, .obj fields => names.all fun name => match name with
    | .str name => (Dict.keys fields).elem name
    | _ => true
  | "minimum", .num bound, .num q => decide (bound ≤ q)
  | "maximum", .num bound, .num q => decide (q ≤ bound)
  | "minLength", .num bound, .str s => decide (bound ≤ s.length)
  | "minItems", .num bound, .arr items => decide (bound ≤ items.length)
  | _, _, _ => true

/-- One keyword. The instances in an array or an object are for `accept`, or for `acceptAll` by their names; `names`
are the properties that the schema describes. -/
def acceptsField (names : List String) (key : String) (value x : Json) (accept : Json → Bool)
    (acceptAll : Fields → Bool) : Bool :=
  match x with
  | .arr items => if key = "items" then items.all accept else acceptsSimple key value x
  | .obj fields =>
    if key = "properties" then acceptAll fields
    else if key = "additionalProperties" then fields.all fun field => names.elem field.1 || accept field.2
    else acceptsSimple key value x
  | _ => acceptsSimple key value x

mutual

/-- Whether an instance conforms to a schema. -/
def accepts : Json → Json → Bool
  | .bool b, _ => b
  | .obj schema, x => acceptsFields (Dict.keys (declared schema)) schema x
  | _, _ => true
termination_by structural schema => schema

def acceptsFields (names : List String) : Fields → Json → Bool
  | [], _ => true
  | (key, value) :: rest, x =>
    acceptsField names key value x (fun y => accepts value y) (fun fields => acceptsAll value fields) && acceptsFields names rest x

def acceptsAll : Json → Fields → Bool
  | .obj properties, fields => acceptsProperties properties fields
  | _, _ => true

def acceptsProperties : Fields → Fields → Bool
  | [], _ => true
  | (name, schema) :: rest, fields =>
    (match fields.lookup name with
      | some value => accepts schema value
      | none => true) && acceptsProperties rest fields

end

end GdbMcp
