import RestRecords.Record
/-!
# Collections

Collections are made from raw data, from JSON text or from values, and are filtered, searched
through and changed as a whole or at their end, unless they are read-only.
-/

namespace RestRecords

namespace Collection

def empty (ref : CollectionRef) : Collection :=
  ⟨ref, []⟩

def ofJson (Δ : Catalog) (ref : CollectionRef) (raw : Json) : Traced Collection :=
  Bind.collection Δ (Bind.asElement Δ) ref raw

def ofText (Δ : Catalog) (ref : CollectionRef) (text : String) : Traced Collection :=
  match Json.read? text with
  | some raw => ofJson Δ ref raw
  | none => .fail .json

private def misfit (kind : Kind) (i : Nat) : Error :=
  .binding ⟨[.index i], kind.name, .elementMismatch⟩

def ofItems (Δ : Catalog) (ref : CollectionRef) (items : List FieldValue) :
    Except Error Collection :=
  let kind := (Δ.collection ref).element
  match items.findIdx? fun v => !v.fits kind with
  | some i => .error (misfit kind i)
  | none => .ok ⟨ref, items⟩

def isReadOnly (Δ : Catalog) (c : Collection) : Bool :=
  (Δ.collection c.ref).readOnly

private def locked (c : Collection) : Error :=
  .readOnly (.collection c.ref.name)

def update (Δ : Catalog) (c : Collection) (raw : Json) : Traced Collection :=
  if c.isReadOnly Δ then .fail c.locked else ofJson Δ c.ref raw

def push (Δ : Catalog) (c : Collection) (v : FieldValue) : Except Error Collection :=
  let kind := (Δ.collection c.ref).element
  if c.isReadOnly Δ then .error c.locked
  else if !v.fits kind then .error (misfit kind c.items.length)
  else .ok { c with items := c.items ++ [v] }

def filter (p : FieldValue → Bool) (c : Collection) : Collection :=
  { c with items := c.items.filter p }

/-- The values of a field, for every item; nothing where the item is no entity or the field has no
value but null. -/
def pluck (Δ : Catalog) (c : Collection) (field : String) : List (Option FieldValue) :=
  c.items.map fun v => (v.record?.bind fun r => r.get? Δ field).filter fun v => !v.isNull

def recordsNamed (c : Collection) (name : String) : List Record :=
  (c.items.filterMap FieldValue.record?).filter fun r => r.ref.name == name

def toText (Δ : Catalog) (c : Collection) : String :=
  (c.toJson Δ).text

def isValid (Δ : Catalog) (c : Collection) : Traced Bool :=
  Validation.verdict (c.validationErrors Δ)

def requireValid (Δ : Catalog) (c : Collection) : Except Error Unit :=
  Validation.require (c.validationErrors Δ)

end Collection

end RestRecords
