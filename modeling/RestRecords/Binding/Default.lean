import RestRecords.Event
import RestRecords.Schema.Catalog
/-!
# Defaults

The entity that stands for no data: enumerations take their first case, nullable fields null,
required entities, collections and named values an empty instance; other fields stay unset. The
defaults of an entity contain those of its required entities, so a declaration that requires itself
has none; every other one is done within as many steps as there are declarations.
-/

namespace RestRecords

namespace Default

def slot (nested : EntityRef → Traced Slots) (entity : EntityRef) (f : FieldSpec) (kind : Kind) :
    Traced (Option FieldValue) :=
  match kind with
  | .enumeration schema => .ok (schema.first?.map .enumCase)
  | _ =>
    if f.nullable then .ok (some .null)
    else
      match kind with
      | .entity ref => do return some (.entity ref (← nested ref))
      | .collection ref => .ok (some (.collection ref []))
      | .value schema =>
        match NamedValue.ofJson schema .null with
        | .ok v => .ok (some (.named v))
        | .error e => do
          Traced.report (.defaultRejected entity.name f.name schema.name e)
          return none
      | _ => .ok none

def slots (default : FieldSpec → Traced (Option FieldValue)) : List FieldSpec → Traced Slots
  | [] => .ok []
  | f :: fs => do
    let v ← default f
    return v :: (← slots default fs)

/-- The defaults of an entity, as far as `depth` steps from entity to entity lead. -/
def within (Δ : Catalog) : Nat → EntityRef → Traced Slots
  | 0, _ => .abort .endlessSchema
  | depth + 1, ref =>
    let d := Δ.entity ref
    slots (fun f => slot (within Δ depth) ref f (d.bindingKind f)) d.fields

end Default

def Record.initial (Δ : Catalog) (ref : EntityRef) : Traced Record := do
  return ⟨ref, ← Default.within Δ (Δ.entities.length + 1) ref⟩

end RestRecords
