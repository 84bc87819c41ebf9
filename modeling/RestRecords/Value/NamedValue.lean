import RestRecords.Error
import RestRecords.Schema.Kind
/-!
# Named values

A scalar payload with the name of its type. It is read from the scalar itself or from a map whose
only key is the name; a map without keys is null.
-/

namespace RestRecords

/-- A payload of a named scalar type. -/
structure NamedValue where
  schema : ValueSchema
  payload : Json

namespace NamedValue

/-- A fault of a named value is placed under the name of its type. -/
def fault (schema : ValueSchema) (cause : BindingCause) : Error :=
  .binding ⟨[.field schema.name], schema.name, cause⟩

def unwrap (schema : ValueSchema) : Json → Except Error Json
  | .obj [] => .ok .null
  | .obj [(key, raw)] =>
    if key = schema.name then scalar raw else .error (fault schema (.unknownName key))
  | raw => scalar raw
where
  /-- Refuses lists and maps. -/
  scalar : Json → Except Error Json
    | .arr _ | .obj _ => .error (fault schema .notAScalar)
    | raw => .ok raw

def prepare (schema : ValueSchema) (raw : Json) : Except Error Json :=
  match unwrap schema raw with
  | .error e => .error e
  | .ok payload =>
    match schema.normalize payload with
    | .ok payload => .ok payload
    | .error complaint => .error (fault schema (.rejected complaint))

def ofJson (schema : ValueSchema) (raw : Json) : Except Error NamedValue :=
  (prepare schema raw).map fun payload => ⟨schema, payload⟩

/-- Replaces the payload, unless the type is read-only. -/
def update (v : NamedValue) (raw : Json) : Except Error NamedValue :=
  if v.schema.readOnly then .error (.readOnly (.value v.schema.name))
  else ofJson v.schema raw

def isValid (v : NamedValue) : Bool :=
  v.schema.check v.payload

/-- The map from the name to the payload; null gives a map without keys. -/
def toJson (v : NamedValue) : Json :=
  if v.payload.isNull then .obj [] else .obj [(v.schema.name, v.payload)]

/-- A string as it is, nothing for null, and the text of every other payload. -/
def display (v : NamedValue) : String :=
  match v.payload with
  | .str s => s
  | .null => ""
  | other => other.text

def same (a b : NamedValue) : Bool :=
  a.schema.name == b.schema.name && a.payload.equal b.payload

end NamedValue

end RestRecords
