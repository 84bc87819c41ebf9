import RestRecords.Binding.Bind
import RestRecords.Json.Reader
import RestRecords.Value.Mapping
import RestRecords.Validation
/-!
# Entities

Entities are made from raw data, from JSON text or empty, are changed by further data or field by
field, and are read by field name.
-/

namespace RestRecords

namespace Record

def empty (Δ : Catalog) (ref : EntityRef) : Record :=
  ⟨ref, Bind.unset (Δ.entity ref)⟩

/-- Binds raw data; null gives the defaults. -/
def ofJson (Δ : Catalog) (ref : EntityRef) (raw : Json) : Traced Record :=
  Bind.entity Δ (Bind.asField Δ) ref raw

def ofText (Δ : Catalog) (ref : EntityRef) (text : String) : Traced Record :=
  match Json.read? text with
  | some raw => ofJson Δ ref raw
  | none => .fail .json

/-- Binds further raw data into an entity. Fields that are not mentioned keep their values; so do,
after a failure, those behind it, while the ones before it are changed. -/
def update (Δ : Catalog) (r : Record) (raw : Json) : Record × Traced Unit :=
  let d := Δ.entity r.ref
  let a := Bind.update (Bind.asField Δ d) r.ref d r.slots raw
  (⟨r.ref, a.slots⟩, a.report)

def get? (Δ : Catalog) (r : Record) (name : String) : Option FieldValue :=
  ((Δ.entity r.ref).index? name).bind fun i => (r.slots[i]?).join

/-- Whether a field is set; null counts as set. -/
def isSet (Δ : Catalog) (r : Record) (name : String) : Bool :=
  (r.get? Δ name).isSome

def set (Δ : Catalog) (r : Record) (name : String) (v : FieldValue) : Except Error Record :=
  let d := Δ.entity r.ref
  let fault (target : String) (cause : BindingCause) : Except Error Record :=
    .error (.binding ⟨[.field name], target, cause⟩)
  match d.index? name, d.field? name with
  | some i, some f =>
    let kind := d.bindingKind f
    if v.isNull && !f.nullable then fault kind.name .nullRefused
    else if !v.fits kind then fault kind.name .fieldMismatch
    else .ok { r with slots := r.slots.set i (some v) }
  | _, _ => fault r.ref.name .undeclaredField

def unset (Δ : Catalog) (r : Record) (name : String) : Record :=
  match (Δ.entity r.ref).index? name with
  | some i => { r with slots := r.slots.set i none }
  | none => r

def str? (Δ : Catalog) (r : Record) (name : String) : Option String :=
  (r.get? Δ name).bind FieldValue.str?

def bool? (Δ : Catalog) (r : Record) (name : String) : Option Bool :=
  (r.get? Δ name).bind FieldValue.bool?

def int? (Δ : Catalog) (r : Record) (name : String) : Option Int64 :=
  (r.get? Δ name).bind FieldValue.int?

def float? (Δ : Catalog) (r : Record) (name : String) : Option Binary64 :=
  (r.get? Δ name).bind FieldValue.float?

def dateTime? (Δ : Catalog) (r : Record) (name : String) : Option DateTime :=
  (r.get? Δ name).bind FieldValue.dateTime?

def enumCase? (Δ : Catalog) (r : Record) (name : String) : Option EnumValue :=
  (r.get? Δ name).bind FieldValue.enumCase?

def named? (Δ : Catalog) (r : Record) (name : String) : Option NamedValue :=
  (r.get? Δ name).bind FieldValue.named?

def record? (Δ : Catalog) (r : Record) (name : String) : Option Record :=
  (r.get? Δ name).bind FieldValue.record?

def collection? (Δ : Catalog) (r : Record) (name : String) : Option Collection :=
  (r.get? Δ name).bind FieldValue.collection?

def toText (Δ : Catalog) (r : Record) : String :=
  (r.toJson Δ).text

def isValid (Δ : Catalog) (r : Record) : Traced Bool :=
  Validation.verdict (r.validationErrors Δ)

def requireValid (Δ : Catalog) (r : Record) : Except Error Unit :=
  Validation.require (r.validationErrors Δ)

end Record

end RestRecords
