import RestRecords.Schema.Catalog
/-!
# Values as JSON

The representation that values are stored in: enumeration cases by their backing values, date-times
by their text, named values by their payload alone, entities as objects without the fields that
carry no data, collections as lists.
-/

namespace RestRecords

namespace FieldValue

/-- Whether a slot is left out of the object: unset, null, or nullable and without data. -/
def isOmitted (f : FieldSpec) : Option FieldValue → Bool
  | none => true
  | some v => v.isNull || (f.nullable && v.carriesNoData)

mutual

/-- The representation of a value; a double that is no number becomes null. -/
def toJson (Δ : Catalog) : FieldValue → Json
  | .null => .null
  | .bool b => .bool b
  | .int i => .int i.toInt
  | .float (.finite x) => .float x
  | .float _ => .null
  | .str s => .str s
  | .dateTime t => .str t.text
  | .enumCase e => e.case.backing.toJson
  | .named v => v.payload
  | .entity ref slots => .ofEntries (slotEntries Δ (Δ.entity ref).fields slots)
  | .collection _ items => .arr (itemsJson Δ items)

def slotEntries (Δ : Catalog) (fields : List FieldSpec) :
    List (Option FieldValue) → List (String × Json)
  | [] => []
  | none :: slots => slotEntries Δ fields.tail slots
  | some v :: slots =>
    match fields with
    | [] => []
    | f :: fs =>
      if isOmitted f (some v) then slotEntries Δ fs slots
      else (f.name, toJson Δ v) :: slotEntries Δ fs slots

def itemsJson (Δ : Catalog) : List FieldValue → List Json
  | [] => []
  | v :: items => toJson Δ v :: itemsJson Δ items

end

end FieldValue

def Record.toJson (Δ : Catalog) (r : Record) : Json :=
  (FieldValue.ofRecord r).toJson Δ

def Collection.toJson (Δ : Catalog) (c : Collection) : Json :=
  (FieldValue.ofCollection c).toJson Δ

end RestRecords
