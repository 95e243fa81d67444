import GdbMcp.SchemaNormalize

/-! The types of request models, the JSON schemas that are generated for them, and the locations at which the validation
of a request reports its errors. What only describes or bounds a value is left out of the schemas. -/

namespace GdbMcp

/-- The type of a field of a request model, or of a whole request. A field has a name, and may be required. -/
inductive RequestType where
  | text
  | integer
  | boolean
  | literal (values : List String)
  | list (item : RequestType)
  /-- Texts as keys; the values are of any type if none is given. -/
  | mapping (value : Option RequestType)
  | model (name : String) (fields : List (String × Bool × RequestType))
  | nullable (type : RequestType)
  /-- A union of which the first alternative that fits is taken. -/
  | union (alternatives : List RequestType)
  /-- A union of models, told apart by the literal that each has at the discriminator. -/
  | tagged (discriminator : String) (alternatives : List RequestType)

/-- A step of an error location: the name of a field, the index in a list, or the tag of an alternative. -/
inductive Segment where
  | name (name : String)
  | index (index : Nat)
  | tag (tag : String)
  deriving DecidableEq

namespace RequestType

/-- The values of the literal that a model has at a discriminator. -/
def tags (discriminator : String) : RequestType → List String
  | .model _ fields =>
    match fields.lookup discriminator with
    | some (_, .literal values) => values
    | _ => []
  | _ => []

/-- The locations in a request of a type. Behind the path of a tagged union comes the tag of the alternative, and a `None`
beside a type adds nothing. -/
inductive Located : RequestType → List Segment → Prop
  | here (type : RequestType) : Located type []
  | item {type : RequestType} {rest : List Segment} (index : Nat) (hitem : Located type rest) :
      Located (.list type) (.index index :: rest)
  | field {model name : String} {fields : List (String × Bool × RequestType)} {required : Bool} {type : RequestType}
      {rest : List Segment} (hmem : (name, required, type) ∈ fields) (hfield : Located type rest) :
      Located (.model model fields) (.name name :: rest)
  | present {type : RequestType} {rest : List Segment} (htype : Located type rest) : Located (.nullable type) rest
  | alternative {discriminator tag : String} {alternatives : List RequestType} {type : RequestType} {rest : List Segment}
      (hmem : type ∈ alternatives) (htag : tag ∈ type.tags discriminator) (htype : Located type rest) :
      Located (.tagged discriminator alternatives) (.tag tag :: rest)

/-! ### Generated schemas -/

def typed (name : String) : Json := .obj [("type", .str name)]

mutual

/-- The schema of a type; a model is referred to. -/
def schema : RequestType → Json
  | .text => typed "string"
  | .integer => typed "integer"
  | .boolean => typed "boolean"
  | .literal [value] => .obj [("const", .str value), ("type", .str "string")]
  | .literal values => .obj [("enum", .arr (values.map .str)), ("type", .str "string")]
  | .list item => .obj [("items", schema item), ("type", .str "array")]
  | .mapping value => .obj [("additionalProperties", valueSchema value), ("type", .str "object")]
  | .model name _ => .obj [("$ref", .str ("#/$defs/" ++ name))]
  | .nullable (.union alternatives) => .obj [("anyOf", .arr (schemas alternatives ++ [typed "null"]))]
  | .nullable type => .obj [("anyOf", .arr [schema type, typed "null"])]
  | .union alternatives => .obj [("anyOf", .arr (schemas alternatives))]
  | .tagged discriminator alternatives => .obj
    [("discriminator", .obj [("propertyName", .str discriminator)]), ("oneOf", .arr (schemas alternatives))]

def valueSchema : Option RequestType → Json
  | none => .bool true
  | some type => schema type

def schemas : List RequestType → List Json
  | [] => []
  | type :: rest => schema type :: schemas rest

end

def propertySchemas : List (String × Bool × RequestType) → Fields
  | [] => []
  | (name, _, type) :: rest => (name, type.schema) :: propertySchemas rest

/-- The definition of a model, which takes no other fields. -/
def modelSchema (fields : List (String × Bool × RequestType)) : Fields :=
  let required := (fields.filter fun field => field.2.1).map fun field => Json.str field.1
  [("additionalProperties", .bool false), ("properties", .obj (propertySchemas fields))] ++
    (if required.isEmpty then [] else [("required", .arr required)]) ++ [("type", .str "object")]

mutual

/-- The definitions of the models in a type. -/
def definitions : RequestType → Fields
  | .list item => definitions item
  | .mapping value => valueDefinitions value
  | .model name fields => Dict.set (fieldDefinitions fields) name (.obj (modelSchema fields))
  | .nullable type => definitions type
  | .union alternatives => alternativeDefinitions alternatives
  | .tagged _ alternatives => alternativeDefinitions alternatives
  | _ => []

def valueDefinitions : Option RequestType → Fields
  | none => []
  | some type => definitions type

def fieldDefinitions : List (String × Bool × RequestType) → Fields
  | [] => []
  | (_, _, type) :: rest => Dict.update (definitions type) (fieldDefinitions rest)

def alternativeDefinitions : List RequestType → Fields
  | [] => []
  | type :: rest => Dict.update (definitions type) (alternativeDefinitions rest)

end

/-- `model_json_schema()`. -/
def modelJsonSchema : RequestType → Fields
  | .model _ fields => modelSchema fields ++ [("$defs", .obj (fieldDefinitions fields))]
  | type =>
    match type.schema with
    | .obj fields => fields ++ [("$defs", .obj type.definitions)]
    | _ => []

/-- The schema that clients are shown. -/
def publicInputSchema (type : RequestType) : Json := normalizeInputSchema type.modelJsonSchema

end RequestType
end GdbMcp
