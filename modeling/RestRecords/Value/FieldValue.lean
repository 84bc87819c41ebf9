import RestRecords.Number.Binary64
import RestRecords.Time.DateTime
import RestRecords.Value.EnumValue
import RestRecords.Value.NamedValue
/-!
# Bound values

The values fields and collections hold. An entity has a slot for each declared field, which is
unset, null or filled. Values without data are identified where entities are compared: null, an
unset slot, and a named value whose payload is null.
-/

namespace RestRecords

/-- The value of a field or an element. -/
inductive FieldValue where
  | null
  | bool (b : Bool)
  | int (i : Int64)
  | float (x : Binary64)
  | str (s : String)
  | dateTime (t : DateTime)
  | enumCase (e : EnumValue)
  | named (v : NamedValue)
  | entity (ref : EntityRef) (slots : List (Option FieldValue))
  | collection (ref : CollectionRef) (items : List FieldValue)

/-- The values of the fields of an entity; nothing where a field is unset. -/
abbrev Slots := List (Option FieldValue)

/-- An entity bound against its declaration. -/
structure Record where
  ref : EntityRef
  slots : Slots

/-- A collection bound against its declaration. -/
structure Collection where
  ref : CollectionRef
  items : List FieldValue

namespace FieldValue

instance : Inhabited FieldValue := ⟨.null⟩

def ofRecord (r : Record) : FieldValue :=
  .entity r.ref r.slots

def ofCollection (c : Collection) : FieldValue :=
  .collection c.ref c.items

def isNull : FieldValue → Bool
  | .null => true
  | _ => false

/-- Whether a value is null or a named value without payload. -/
def carriesNoData : FieldValue → Bool
  | .null => true
  | .named v => v.payload.isNull
  | _ => false

def bool? : FieldValue → Option Bool
  | .bool b => some b
  | _ => none

def int? : FieldValue → Option Int64
  | .int i => some i
  | _ => none

def float? : FieldValue → Option Binary64
  | .float x => some x
  | _ => none

def str? : FieldValue → Option String
  | .str s => some s
  | .named v => v.payload.str?
  | _ => none

def dateTime? : FieldValue → Option DateTime
  | .dateTime t => some t
  | _ => none

def enumCase? : FieldValue → Option EnumValue
  | .enumCase e => some e
  | _ => none

def named? : FieldValue → Option NamedValue
  | .named v => some v
  | _ => none

def record? : FieldValue → Option Record
  | .entity ref slots => some ⟨ref, slots⟩
  | _ => none

def collection? : FieldValue → Option Collection
  | .collection ref items => some ⟨ref, items⟩
  | _ => none

/-- Whether a value may be stored where `kind` is declared. Null may be stored anywhere; values with
a name of their own go by that name. -/
def fits : FieldValue → Kind → Bool
  | .null, _ => true
  | .bool _, .bool => true
  | .int _, .int => true
  | .float _, .float => true
  | .str _, .str => true
  | .dateTime _, .dateTime => true
  | .enumCase e, .enumeration schema => e.schema.name == schema.name
  | .named v, .value schema => v.schema.name == schema.name
  | .entity ref _, .entity other => ref.name == other.name
  | .collection ref _, .collection other => ref.name == other.name
  | _, _ => false

mutual

/-- Equality of values: doubles as numbers, date-times as instants, enumeration cases and named
values by their names, entities slot by slot, collections item by item. -/
def equal : FieldValue → FieldValue → Bool
  | .null, .null => true
  | .bool a, .bool b => a == b
  | .int a, .int b => a == b
  | .float a, .float b => a.numEq b
  | .str a, .str b => a == b
  | .dateTime a, .dateTime b => a.sameInstant b
  | .enumCase a, .enumCase b => a.same b
  | .named a, .named b => a.same b
  | .entity ref slots, .entity other slots' => ref.name == other.name && equalSlots slots slots'
  | .collection ref items, .collection other items' =>
    ref.name == other.name && equalItems items items'
  | _, _ => false

def equalSlots : List (Option FieldValue) → List (Option FieldValue) → Bool
  | [], [] => true
  | none :: as, b :: bs => b.all carriesNoData && equalSlots as bs
  | some a :: as, b :: bs =>
    (match b with
      | none => a.carriesNoData
      | some b =>
        if a.carriesNoData || b.carriesNoData then a.carriesNoData && b.carriesNoData
        else equal a b) && equalSlots as bs
  | _, _ => false

def equalItems : List FieldValue → List FieldValue → Bool
  | [], [] => true
  | a :: as, b :: bs => equal a b && equalItems as bs
  | _, _ => false

end

instance : BEq FieldValue := ⟨equal⟩

end FieldValue

def Record.same (a b : Record) : Bool :=
  (FieldValue.ofRecord a).equal (.ofRecord b)

def Collection.same (a b : Collection) : Bool :=
  (FieldValue.ofCollection a).equal (.ofCollection b)

end RestRecords
