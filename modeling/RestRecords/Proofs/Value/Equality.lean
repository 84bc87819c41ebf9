import RestRecords.Proofs.Binding.StoredForm
/-!
# Equality of values

Two values are equal exactly if they are taken for the same and have no NaN inside. What a value is
taken for leaves aside the sign of a zero, the offset of a date-time, the backing of an enumeration
case and the declarations behind names, and in an entity it does not tell null, unset slots and
named values without payload apart. So equality is an equivalence on values without NaN.
-/

namespace RestRecords

/-! ## JSON -/

/-- The number without the sign of a zero. -/
def FiniteDouble.plain (x : FiniteDouble) : FiniteDouble :=
  if x.units = 0 then .zero else x

theorem FiniteDouble.numEq_iff_plain {x y : FiniteDouble} :
    x.numEq y = true ↔ x.plain = y.plain := by
  rw [numEq_iff]
  obtain ⟨m, u, hu⟩ := x
  obtain ⟨n, v, hv⟩ := y
  unfold plain toInt
  dsimp only
  by_cases hzero : u = 0
  · by_cases hzero' : v = 0
    · simp [hzero, hzero']
    · have hne : ¬FiniteDouble.zero = ⟨n, v, hv⟩ := fun h => hzero' (congrArg units h).symm
      cases m <;> cases n <;> simp [hzero, hzero', hne] <;> omega
  · by_cases hzero' : v = 0
    · have hne : ¬(⟨m, u, hu⟩ : FiniteDouble) = .zero := fun h => hzero (congrArg units h)
      cases m <;> cases n <;> simp [hzero, hzero', hne]
    · rw [if_neg hzero, if_neg hzero', mk.injEq]
      cases m <;> cases n <;> simp <;> omega

namespace Json

mutual

def plain : Json → Json
  | .float x => .float x.plain
  | .arr items => .arr (plainItems items)
  | .obj entries => .obj (plainEntries entries)
  | a => a

def plainItems : List Json → List Json
  | [] => []
  | a :: as => plain a :: plainItems as

def plainEntries : List (String × Json) → List (String × Json)
  | [] => []
  | (k, a) :: as => (k, plain a) :: plainEntries as

end

mutual

theorem equal_iff_plain (a b : Json) : a.equal b = true ↔ a.plain = b.plain := by
  cases a with
  | float x => cases b <;> simp [equal, plain, FiniteDouble.numEq_iff_plain]
  | arr items => cases b <;> simp [equal, plain, equalItems_iff_plain]
  | obj entries => cases b <;> simp [equal, plain, equalEntries_iff_plain]
  | _ => cases b <;> simp [equal, plain]

theorem equalItems_iff_plain (as bs : List Json) :
    equalItems as bs = true ↔ plainItems as = plainItems bs := by
  cases as with
  | nil => cases bs <;> simp [equalItems, plainItems]
  | cons a as =>
    cases bs with
    | nil => simp [equalItems, plainItems]
    | cons b bs => simp [equalItems, plainItems, equal_iff_plain a b, equalItems_iff_plain as bs]

theorem equalEntries_iff_plain (as bs : List (String × Json)) :
    equalEntries as bs = true ↔ plainEntries as = plainEntries bs := by
  cases as with
  | nil => cases bs <;> simp [equalEntries, plainEntries]
  | cons a as =>
    cases bs with
    | nil => simp [equalEntries, plainEntries]
    | cons b bs =>
      simp [equalEntries, plainEntries, equal_iff_plain a.2 b.2, equalEntries_iff_plain as bs]

end

end Json

/-! ## Values -/

/-- What a value is taken for where values are compared. -/
inductive Likeness where
  | null
  | bool (b : Bool)
  | int (i : Int64)
  | finite (x : FiniteDouble)
  | infinite (negative : Bool)
  | nan
  | str (s : String)
  | instant (second : Int) (nanos : Nat)
  | enumCase (enumeration case : String)
  | named (name : String) (payload : Json)
  | entity (name : String) (slots : List (Option Likeness))
  | collection (name : String) (items : List Likeness)

namespace FieldValue

mutual

def likeness : FieldValue → Likeness
  | .null => .null
  | .bool b => .bool b
  | .int i => .int i
  | .float (.finite x) => .finite x.plain
  | .float (.infinite negative) => .infinite negative
  | .float .nan => .nan
  | .str s => .str s
  | .dateTime t => .instant t.universalSecond t.nanos
  | .enumCase e => .enumCase e.schema.name e.case.name
  | .named v => .named v.schema.name v.payload.plain
  | .entity ref slots => .entity ref.name (slotLikenesses slots)
  | .collection ref items => .collection ref.name (itemLikenesses items)

/-- What the slots of an entity are taken for; nothing where they carry no data. -/
def slotLikenesses : List (Option FieldValue) → List (Option Likeness)
  | [] => []
  | none :: slots => none :: slotLikenesses slots
  | some v :: slots => (if v.carriesNoData then none else some (likeness v)) :: slotLikenesses slots

def itemLikenesses : List FieldValue → List Likeness
  | [] => []
  | v :: items => likeness v :: itemLikenesses items

end

/-- Whether no number inside a value is NaN. -/
def HasNoNaN (v : FieldValue) : Prop :=
  ¬v.Contains (.float .nan)

theorem hasNoNaN_iff {v : FieldValue} :
    v.HasNoNaN ↔ v ≠ .float .nan ∧ ∀ part ∈ v.parts, part.HasNoNaN := by
  constructor
  · intro h
    exact ⟨fun hv => h (hv ▸ .self v), fun part hpart hin => h (.inside hpart hin)⟩
  · rintro ⟨hself, hparts⟩ hin
    cases hin with
    | self => exact hself rfl
    | inside hpart hin => exact hparts _ hpart hin

theorem hasNoNaN_of_parts_eq_nil {v : FieldValue} (hparts : v.parts = []) (h : v ≠ .float .nan) :
    v.HasNoNaN := by
  rw [hasNoNaN_iff, hparts]
  exact ⟨h, nofun⟩

theorem hasNoNaN_of_carriesNoData {v : FieldValue} (h : v.carriesNoData = true) : v.HasNoNaN := by
  cases v with
  | null | named => exact hasNoNaN_of_parts_eq_nil rfl nofun
  | _ => cases h

theorem hasNoNaN_entity_iff {ref : EntityRef} {slots : Slots} :
    (entity ref slots).HasNoNaN ↔ ∀ v, some v ∈ slots → v.HasNoNaN := by
  rw [hasNoNaN_iff]
  simp [parts]

theorem hasNoNaN_collection_iff {ref : CollectionRef} {items : List FieldValue} :
    (collection ref items).HasNoNaN ↔ ∀ v ∈ items, v.HasNoNaN := by
  rw [hasNoNaN_iff]
  simp [parts]

mutual

/-- Two values are equal if they are taken for the same and have no NaN inside. -/
theorem equal_iff (a b : FieldValue) :
    a.equal b = true ↔ a.likeness = b.likeness ∧ a.HasNoNaN := by
  cases a with
  | float x =>
    cases x with
    | nan =>
      have hnan : ¬(float .nan).HasNoNaN := fun h => h (.self _)
      cases b <;> simp [equal, hnan, Binary64.numEq]
    | _ =>
      refine .trans ?_ (and_iff_left (hasNoNaN_of_parts_eq_nil (by rfl) (by simp))).symm
      cases b with
      | float y =>
        cases y <;> simp [equal, likeness, Binary64.numEq, FiniteDouble.numEq_iff_plain]
      | _ => simp [equal, likeness]
  | entity ref slots =>
    rw [hasNoNaN_entity_iff]
    cases b with
    | entity other slots' => simp [equal, likeness, equalSlots_iff slots slots', and_assoc]
    | float y => cases y <;> simp [equal, likeness]
    | _ => simp [equal, likeness]
  | collection ref items =>
    rw [hasNoNaN_collection_iff]
    cases b with
    | collection other items' => simp [equal, likeness, equalItems_iff items items', and_assoc]
    | float y => cases y <;> simp [equal, likeness]
    | _ => simp [equal, likeness]
  | _ =>
    refine .trans ?_ (and_iff_left (hasNoNaN_of_parts_eq_nil (by rfl) (by simp))).symm
    cases b with
    | float y => cases y <;> simp [equal, likeness]
    | _ => simp [equal, likeness, DateTime.sameInstant, EnumValue.same, NamedValue.same,
        Json.equal_iff_plain]

theorem equalSlots_iff (as bs : List (Option FieldValue)) :
    equalSlots as bs = true ↔
      slotLikenesses as = slotLikenesses bs ∧ ∀ v, some v ∈ as → v.HasNoNaN := by
  cases as with
  | nil =>
    cases bs with
    | nil => simp [equalSlots]
    | cons slot bs => cases slot <;> simp [equalSlots, slotLikenesses]
  | cons slot as =>
    cases bs with
    | nil => cases slot <;> simp [equalSlots, slotLikenesses]
    | cons slot' bs =>
      have hrest := equalSlots_iff as bs
      cases slot with
      | none => cases slot' <;> simp [equalSlots, slotLikenesses, hrest, and_assoc]
      | some a =>
        cases ha : a.carriesNoData with
        | true =>
          have hnan := hasNoNaN_of_carriesNoData ha
          cases slot' <;> simp [equalSlots, slotLikenesses, hrest, ha, hnan, and_assoc]
        | false =>
          cases slot' with
          | none => simp [equalSlots, slotLikenesses, ha]
          | some b =>
            have hfirst := equal_iff a b
            cases hb : b.carriesNoData with
            | true => simp [equalSlots, slotLikenesses, ha, hb]
            | false =>
              simp [equalSlots, slotLikenesses, hrest, ha, hb, hfirst, and_and_and_comm]

theorem equalItems_iff (as bs : List FieldValue) :
    equalItems as bs = true ↔
      itemLikenesses as = itemLikenesses bs ∧ ∀ v ∈ as, v.HasNoNaN := by
  cases as with
  | nil => cases bs <;> simp [equalItems, itemLikenesses]
  | cons a as =>
    cases bs with
    | nil => simp [equalItems, itemLikenesses]
    | cons b bs =>
      simp only [equalItems, itemLikenesses, Bool.and_eq_true, equal_iff a b,
        equalItems_iff as bs, List.cons.injEq, List.forall_mem_cons]
      exact and_and_and_comm

end

theorem equivalence_equal {α : Type} (f : α → FieldValue) :
    Equivalence fun a b : {a : α // (f a).HasNoNaN} => (f a.1).equal (f b.1) = true where
  refl a := (equal_iff _ _).2 ⟨rfl, a.2⟩
  symm {_ b} h := (equal_iff _ _).2 ⟨((equal_iff _ _).1 h).1.symm, b.2⟩
  trans {a _ _} h h' :=
    (equal_iff _ _).2 ⟨((equal_iff _ _).1 h).1.trans ((equal_iff _ _).1 h').1, a.2⟩

end FieldValue

open FieldValue

/-- Equality is an equivalence on values, entities and collections without NaN. Two values are equal
exactly if they are taken for the same and the first one has no NaN inside. -/
theorem equal_equivalence :
    (Equivalence fun v w : {v : FieldValue // v.HasNoNaN} => v.1.equal w.1 = true) ∧
    (Equivalence fun r s : {r : Record // (ofRecord r).HasNoNaN} => r.1.same s.1 = true) ∧
    (Equivalence fun c d : {c : Collection // (ofCollection c).HasNoNaN} => c.1.same d.1 = true) ∧
    ∀ v w : FieldValue, v.equal w = true ↔ v.likeness = w.likeness ∧ v.HasNoNaN :=
  ⟨equivalence_equal id, equivalence_equal ofRecord, equivalence_equal ofCollection, equal_iff⟩

/-- Null, an unset slot and a named value without payload are not told apart in an entity. -/
example (ref : EntityRef) (schema : ValueSchema) :
    (entity ref [some .null, none]).likeness =
      (entity ref [none, some (.named ⟨schema, .null⟩)]).likeness := rfl

end RestRecords
