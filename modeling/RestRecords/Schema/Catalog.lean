import RestRecords.Value.FieldValue
/-!
# Catalogs of declarations

The declarations of entities and collections, which may refer to each other and to themselves. The
field named `content` of an entity may be bound as another kind than the declared one.
-/

namespace RestRecords

/-- A declared field: a required one must be set for the entity to be valid, a nullable one may be
null. The check is a rule for values with data and gives a complaint where it fails. -/
structure FieldSpec where
  name : String
  kind : Kind
  nullable : Bool := false
  check : Option (FieldValue → Option String) := none

structure EntityDecl where
  fields : List FieldSpec
  content : Option Kind := none

structure CollectionDecl where
  element : Kind
  readOnly : Bool := false

/-- The declarations that references point to. -/
structure Catalog where
  entities : List EntityDecl
  collections : List CollectionDecl

/-- The name of the field, and of the collections, that stand for the content of their container. -/
def contentName : String := "content"

namespace EntityDecl

def field? (d : EntityDecl) (name : String) : Option FieldSpec :=
  d.fields.find? fun f => f.name == name

def index? (d : EntityDecl) (name : String) : Option Nat :=
  d.fields.findIdx? fun f => f.name == name

def bindingKind (d : EntityDecl) (f : FieldSpec) : Kind :=
  match d.content with
  | some kind => if f.name = contentName ∧ f.kind.isNested then kind else f.kind
  | none => f.kind

end EntityDecl

namespace Catalog

/-- The declaration of an entity; an unknown one has no fields. -/
def entity (Δ : Catalog) (ref : EntityRef) : EntityDecl :=
  (Δ.entities[ref.key]?).getD ⟨[], none⟩

/-- The declaration of a collection; an unknown one holds strings. -/
def collection (Δ : Catalog) (ref : CollectionRef) : CollectionDecl :=
  (Δ.collections[ref.key]?).getD ⟨.str, false⟩

def addEntity (Δ : Catalog) (name : String) (d : EntityDecl) : Catalog × EntityRef :=
  ({ Δ with entities := Δ.entities ++ [d] }, ⟨name, Δ.entities.length⟩)

def addCollection (Δ : Catalog) (name : String) (d : CollectionDecl) : Catalog × CollectionRef :=
  ({ Δ with collections := Δ.collections ++ [d] }, ⟨name, Δ.collections.length⟩)

end Catalog

/-- The kinds that the declaration of a kind leads to. -/
inductive Kind.Reaches (Δ : Catalog) : Kind → Kind → Prop where
  | self (kind : Kind) : Reaches Δ kind kind
  | field {ref : EntityRef} {f : FieldSpec} {kind : Kind} (declared : f ∈ (Δ.entity ref).fields)
    (rest : Reaches Δ ((Δ.entity ref).bindingKind f) kind) : Reaches Δ (.entity ref) kind
  | element {ref : CollectionRef} {kind : Kind}
    (rest : Reaches Δ (Δ.collection ref).element kind) : Reaches Δ (.collection ref) kind

end RestRecords
