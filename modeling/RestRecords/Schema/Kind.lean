import RestRecords.Json.Basic
/-!
# Kinds of values

What a field or an element of a collection is declared to hold. Entities and collections are
referred to, so that declarations may be recursive; enumerations and named values stand in place.
-/

namespace RestRecords

/-- The value an enumeration case is read from and written as. -/
inductive Backing where
  | text (s : String)
  | number (n : Int64)
  deriving DecidableEq

namespace Backing

def toJson : Backing → Json
  | .text s => .str s
  | .number n => .int n.toInt

/-- Whether a value is the backing itself; a numeral in a string is not its number. -/
def isBacking : Backing → Json → Bool
  | .text s, .str raw => s == raw
  | .number n, raw => raw.int64? == some n
  | _, _ => false

end Backing

structure EnumCase where
  name : String
  backing : Backing
  deriving DecidableEq

structure EnumSchema where
  name : String
  cases : List EnumCase
  deriving DecidableEq

/-- A scalar with a name of its own: the form given to payloads, and the rule for valid ones. -/
structure ValueSchema where
  name : String
  readOnly : Bool := false
  normalize : Json → Except String Json := .ok
  check : Json → Bool := fun _ => true

/-- A reference to the declaration of an entity: its name and its place in a catalog. -/
structure EntityRef where
  name : String
  key : Nat
  deriving DecidableEq, Repr

/-- A reference to the declaration of a collection: its name and its place in a catalog. -/
structure CollectionRef where
  name : String
  key : Nat
  deriving DecidableEq, Repr

/-- What a field or an element is declared to hold. -/
inductive Kind where
  | bool
  | int
  | float
  | str
  | dateTime
  | enumeration (schema : EnumSchema)
  | value (schema : ValueSchema)
  | entity (ref : EntityRef)
  | collection (ref : CollectionRef)

namespace Kind

def name : Kind → String
  | .bool => "bool"
  | .int => "int"
  | .float => "float"
  | .str => "string"
  | .dateTime => "datetime"
  | .enumeration schema => schema.name
  | .value schema => schema.name
  | .entity ref => ref.name
  | .collection ref => ref.name

/-- Whether values of the kind have parts or a name of their own. -/
def isNested : Kind → Bool
  | .value _ | .entity _ | .collection _ => true
  | _ => false

end Kind

end RestRecords
