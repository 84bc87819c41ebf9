import RestRecords.Binding.Coerce
import RestRecords.Binding.Default
import RestRecords.Time.DateTimeReader
/-!
# Binding

Raw data are bound against a declared kind. Scalars are read permissively, entities field by field
in the order of the keys, collections element by element; a failure names the path to its place. A
list of one element may be given as the element alone.
-/

namespace RestRecords

/-- What came of putting raw data into the slots of an entity: the slots as they are at the end,
also where it failed on the way. -/
structure Assignment where
  slots : Slots
  report : Traced Unit

namespace Bind

def fault (place : Step) (kind : Kind) (cause : BindingCause) : Error :=
  .binding ⟨[place], kind.name, cause⟩

/-- Places a failure inside a value below the value's own place. -/
def nest (place : Step) : Error → Error
  | .binding fault => .binding { fault with path := place :: fault.path }
  | e => e

def lift {α : Type} : Except Error α → Traced α
  | .ok a => .ok a
  | .error e => .fail e

/-- An enumeration case, or null where that is allowed. A value that backs no case is reported, and
nothing is bound. -/
def enumeration (schema : EnumSchema) (place : Step) (nullable : Bool) (raw : Json) :
    Traced (Option FieldValue) :=
  if raw.isNull && nullable then .ok (some .null)
  else
    match schema.ofBacking? raw with
    | some e => .ok (some (.enumCase e))
    | none => do
      Traced.report (.unknownCase place raw schema.name)
      return none

/-- A truth value, integer or double. One that cannot be read is reported and null where that is
allowed. -/
def number (kind : Kind) (place : Step) (nullable : Bool) (raw : Json)
    (value : Option FieldValue) : Traced (Option FieldValue) :=
  match raw with
  | .arr _ => .fail (fault place kind .listRefused)
  | .obj _ => .fail (fault place kind .mapRefused)
  | _ =>
    match value with
    | some v => .ok (some v)
    | none =>
      if nullable then do
        Traced.report (.invalidScalar place raw kind.name)
        return some .null
      else .fail (fault place kind (.invalidValue raw))

/-- A string; other scalars are bound by their text. -/
def string (place : Step) : Json → Traced (Option FieldValue)
  | .str s => .ok (some (.str s))
  | .arr _ => .fail (fault place .str .listRefused)
  | .obj _ => .fail (fault place .str .mapRefused)
  | raw => do
    Traced.report (.stringified place raw)
    return some (.str raw.text)

def dateTime (place : Step) (raw : Json) : Traced (Option FieldValue) :=
  match raw.str?.bind DateTime.read? with
  | some t => .ok (some (.dateTime t))
  | none => .fail (fault place .dateTime (.unrecognizedDateTime raw))

/-- Puts the entries of a map into slots, one after the other, and stops at the first failure. An
entry of an undeclared field is reported and skipped; one that binds to nothing leaves its slot as
it is. -/
def assign (bindField : FieldSpec → Json → Traced (Option FieldValue)) (entity : EntityRef)
    (d : EntityDecl) : List (String × Json) → Slots → Assignment
  | [], slots => ⟨slots, .ok ()⟩
  | (key, raw) :: rest, slots =>
    match d.index? key with
    | none =>
      let a := assign bindField entity d rest slots
      { a with report := do Traced.report (.undeclaredField entity.name key); a.report }
    | some i =>
      match d.fields[i]? with
      | none => assign bindField entity d rest slots
      | some f =>
        let bound := bindField f raw
        match bound.outcome with
        | .error e => ⟨slots, ⟨.error e, bound.events⟩⟩
        | .ok v =>
          let next := match v with
            | some v => slots.set i (some v)
            | none => slots
          let a := assign bindField entity d rest next
          { a with report := ⟨a.report.outcome, bound.events ++ a.report.events⟩ }

/-- Puts raw data, which must be a map, into the slots of an entity. -/
def update (bindField : FieldSpec → Json → Traced (Option FieldValue)) (entity : EntityRef)
    (d : EntityDecl) (slots : Slots) : Json → Assignment
  | .obj entries => assign bindField entity d entries slots
  | _ => ⟨slots, .fail (.binding ⟨[.field entity.name], entity.name, .notAMap⟩)⟩

def unset (d : EntityDecl) : Slots :=
  List.replicate d.fields.length none

/-- A new entity from a map; null gives the defaults. -/
def entity (Δ : Catalog) (bindField : EntityDecl → FieldSpec → Json → Traced (Option FieldValue))
    (ref : EntityRef) (raw : Json) : Traced Record :=
  if raw.isNull then Record.initial Δ ref
  else
    let d := Δ.entity ref
    let a := update (bindField d) ref d (unset d) raw
    do
      a.report
      return ⟨ref, a.slots⟩

/-- The elements of a collection in raw data: the content of a map, if the collection goes by that
name; the items of a list; none for null; and otherwise the data as the only element. -/
def elements (name : String) (raw : Json) : List Json :=
  let content := match raw with
    | .obj entries =>
      if name = contentName then (Json.entry? entries contentName).getD raw else raw
    | _ => raw
  match content with
  | .null => []
  | .arr items => items
  | single => [single]

/-- One element. It must be an instance of the element's kind; null gives an entity's defaults. -/
def element (Δ : Catalog) (bindElement : Step → Json → Traced (Option FieldValue)) (kind : Kind)
    (i : Nat) (raw : Json) : Traced FieldValue :=
  match kind, raw with
  | .entity ref, .null => do return .ofRecord (← Record.initial Δ ref)
  | _, _ => do
    match ← bindElement (.index i) raw with
    | some v => return v
    | none => Traced.fail (fault (.index i) kind (.invalidValue raw))

def items (bindElement : Nat → Json → Traced FieldValue) :
    Nat → List Json → Traced (List FieldValue)
  | _, [] => .ok []
  | i, raw :: rest => do
    let v ← bindElement i raw
    return v :: (← items bindElement (i + 1) rest)

def collection (Δ : Catalog) (bindElement : Kind → Step → Json → Traced (Option FieldValue))
    (ref : CollectionRef) (raw : Json) : Traced Collection :=
  let kind := (Δ.collection ref).element
  do return ⟨ref, ← items (element Δ (bindElement kind) kind) 0 (elements ref.name raw)⟩

/-- Binds raw data as a kind, as far as `depth` steps into the data lead. -/
def kindWithin (Δ : Catalog) : Nat → Step → Kind → Bool → Json → Traced (Option FieldValue)
  | 0, _, _, _, _ => .abort .endlessSchema
  | depth + 1, place, kind, nullable, raw =>
    match kind with
    | .enumeration schema => enumeration schema place nullable raw
    | _ =>
      if raw.isNull then
        if nullable then .ok (some .null)
        else
          match kind with
          | .value schema => do return some (.named (← lift (NamedValue.ofJson schema .null)))
          | _ => .fail (fault place kind .nullRefused)
      else
        match kind with
        | .bool => number kind place nullable raw ((Coerce.bool? raw).map .bool)
        | .int => number kind place nullable raw ((Coerce.int? raw).map .int)
        | .float =>
          number kind place nullable raw ((Coerce.float? raw).map fun x => .float (.finite x))
        | .str => string place raw
        | .dateTime => dateTime place raw
        | .enumeration schema => enumeration schema place nullable raw
        | .value schema => do return some (.named (← lift (NamedValue.ofJson schema raw)))
        | .entity ref => do
          let bindField (d : EntityDecl) (f : FieldSpec) :=
            kindWithin Δ depth (.field f.name) (d.bindingKind f) f.nullable
          return some (.ofRecord (← (entity Δ bindField ref raw).mapError (nest place)))
        | .collection ref => do
          let bindElement (kind : Kind) (place : Step) := kindWithin Δ depth place kind false
          return some (.ofCollection (← (collection Δ bindElement ref raw).mapError (nest place)))

/-- As many steps into raw data as can be taken, unless the elements of a collection are collections
of its own kind: between two steps that enter a part of the data lie at most as many others as there
are collections. -/
def depthFor (Δ : Catalog) (raw : Json) : Nat :=
  (raw.depth + 1) * (Δ.collections.length + 2) + 1

def asKind (Δ : Catalog) (place : Step) (kind : Kind) (nullable : Bool) (raw : Json) :
    Traced (Option FieldValue) :=
  kindWithin Δ (depthFor Δ raw) place kind nullable raw

def asField (Δ : Catalog) (d : EntityDecl) (f : FieldSpec) (raw : Json) :
    Traced (Option FieldValue) :=
  asKind Δ (.field f.name) (d.bindingKind f) f.nullable raw

def asElement (Δ : Catalog) (kind : Kind) (place : Step) (raw : Json) :
    Traced (Option FieldValue) :=
  asKind Δ place kind false raw

end Bind

end RestRecords
