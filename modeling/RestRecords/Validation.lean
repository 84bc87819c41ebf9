import RestRecords.Event
import RestRecords.Schema.Catalog
/-!
# Validation

An entity is valid when its required fields are set and every value with data keeps the rules of its
field, of its type and of its parts. Each failure is listed with the path to its place, in the order
of fields and items, a field's own rule before those of its parts.
-/

namespace RestRecords

namespace FieldValue

def ruleErrors (f : FieldSpec) (v : FieldValue) : List FieldError :=
  match f.check.bind (· v) with
  | some complaint => [⟨[.field f.name], complaint⟩]
  | none => []

mutual

/-- The failures inside a value; a named value that breaks its rule fails as a whole. -/
def innerErrors (Δ : Catalog) : FieldValue → List FieldError
  | .entity ref slots => slotErrors Δ (Δ.entity ref).fields slots
  | .collection _ items => itemErrors Δ 0 items
  | .named v => if v.isValid then [] else [⟨[], "is not a valid " ++ v.schema.name⟩]
  | _ => []

def slotErrors (Δ : Catalog) (fields : List FieldSpec) : List (Option FieldValue) → List FieldError
  | [] => []
  | none :: slots =>
    match fields with
    | [] => []
    | f :: fs =>
      if f.nullable then slotErrors Δ fs slots
      else ⟨[.field f.name], "is required but not initialized"⟩ :: slotErrors Δ fs slots
  | some v :: slots =>
    match fields with
    | [] => []
    | f :: fs =>
      if v.isNull || (f.nullable && v.carriesNoData) then slotErrors Δ fs slots
      else
        ruleErrors f v ++ (innerErrors Δ v).map (FieldError.under (.field f.name)) ++
          slotErrors Δ fs slots

def itemErrors (Δ : Catalog) (i : Nat) : List FieldValue → List FieldError
  | [] => []
  | v :: items => (innerErrors Δ v).map (FieldError.under (.index i)) ++ itemErrors Δ (i + 1) items

end

end FieldValue

def Record.validationErrors (Δ : Catalog) (r : Record) : List FieldError :=
  (FieldValue.ofRecord r).innerErrors Δ

def Collection.validationErrors (Δ : Catalog) (c : Collection) : List FieldError :=
  (FieldValue.ofCollection c).innerErrors Δ

/-- The failure of a named value by itself, under the name of its type. -/
def NamedValue.validationErrors (v : NamedValue) : List FieldError :=
  if v.isValid then [] else [⟨[.field v.schema.name], "is not a valid value"⟩]

namespace Validation

def verdict (errors : List FieldError) : Traced Bool :=
  ⟨.ok errors.isEmpty, errors.map Event.ruleFailed⟩

def require (errors : List FieldError) : Except Error Unit :=
  if errors.isEmpty then .ok () else .error (.validation errors)

end Validation

end RestRecords
