import RestRecords.Schema.Kind
/-!
# Enumeration cases

A selected case of an enumeration. Two cases are the same when their enumerations and they have the
same names.
-/

namespace RestRecords

structure EnumValue where
  schema : EnumSchema
  case : EnumCase
  deriving DecidableEq

namespace EnumValue

def same (a b : EnumValue) : Bool :=
  a.schema.name == b.schema.name && a.case.name == b.case.name

theorem same_iff {a b : EnumValue} :
    a.same b = true ↔ a.schema.name = b.schema.name ∧ a.case.name = b.case.name := by
  simp [same]

end EnumValue

namespace EnumSchema

def ofBacking? (schema : EnumSchema) (raw : Json) : Option EnumValue :=
  (schema.cases.find? fun c => c.backing.isBacking raw).map fun c => ⟨schema, c⟩

def case? (schema : EnumSchema) (name : String) : Option EnumValue :=
  (schema.cases.find? fun c => c.name == name).map fun c => ⟨schema, c⟩

def first? (schema : EnumSchema) : Option EnumValue :=
  schema.cases.head?.map fun c => ⟨schema, c⟩

end EnumSchema

end RestRecords
