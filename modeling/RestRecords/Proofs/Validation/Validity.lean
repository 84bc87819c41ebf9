import RestRecords.Collection
/-!
# Validity

When a value is valid, told without regard to how its failures are found. A field's value has rules
to keep unless it is null, or carries no data in a field that may be null.
-/

namespace RestRecords

def FieldSpec.Counts (f : FieldSpec) (v : FieldValue) : Prop :=
  v ≠ .null ∧ (v.carriesNoData = false ∨ f.nullable = false)

/-- The values that keep every rule: required fields are set, the values that count pass the checks
of their fields, named values that count pass the checks of their types, and all parts that count are
valid. -/
inductive Valid (Δ : Catalog) : FieldValue → Prop where
  | named {v : NamedValue} (passes : v.schema.check v.payload = true) : Valid Δ (.named v)
  | entity {ref : EntityRef} {slots : Slots}
    (required : ∀ (k : Nat) (f : FieldSpec), (Δ.entity ref).fields[k]? = some f →
      slots[k]? = some none → f.nullable = true)
    (passes : ∀ (k : Nat) (f : FieldSpec) (v : FieldValue) (check : FieldValue → Option String),
      (Δ.entity ref).fields[k]? = some f → slots[k]? = some (some v) → f.Counts v →
        f.check = some check → check v = none)
    (parts : ∀ (k : Nat) (f : FieldSpec) (v : FieldValue), (Δ.entity ref).fields[k]? = some f →
      slots[k]? = some (some v) → f.Counts v → Valid Δ v) : Valid Δ (.entity ref slots)
  | collection {ref : CollectionRef} {items : List FieldValue}
    (parts : ∀ (k : Nat) (v : FieldValue), items[k]? = some v → Valid Δ v) :
    Valid Δ (.collection ref items)
  | plain {v : FieldValue} (notNamed : v.named? = none) (notRecord : v.record? = none)
    (notCollection : v.collection? = none) : Valid Δ v

variable {Δ : Catalog}

theorem FieldSpec.counts_iff {f : FieldSpec} {v : FieldValue} :
    f.Counts v ↔ (v.isNull || (f.nullable && v.carriesNoData)) = false := by
  have hnull : v ≠ .null ↔ v.isNull = false := by
    cases v <;> simp [FieldValue.isNull]
  rw [FieldSpec.Counts, hnull, Bool.or_eq_false_iff, Bool.and_eq_false_iff]
  exact and_congr_right fun _ => or_comm

theorem forall_getElem?_cons_iff {α β : Type} {P : α → β → Prop} {a : α} {as : List α} {b : β}
    {bs : List β} :
    (∀ (k : Nat) x y, (a :: as)[k]? = some x → (b :: bs)[k]? = some y → P x y) ↔
      P a b ∧ ∀ (k : Nat) x y, as[k]? = some x → bs[k]? = some y → P x y := by
  constructor
  · intro h
    exact ⟨h 0 a b rfl rfl, fun k x y hx hy => h (k + 1) x y hx hy⟩
  · rintro ⟨hhead, htail⟩ k x y hx hy
    cases k with
    | zero =>
      cases hx
      cases hy
      exact hhead
    | succ k => exact htail k x y hx hy

def SlotValid (Δ : Catalog) (f : FieldSpec) (slot : Option FieldValue) : Prop :=
  (slot = none → f.nullable = true) ∧ ∀ v, slot = some v → f.Counts v →
    (∀ check, f.check = some check → check v = none) ∧ Valid Δ v

theorem valid_entity_iff {ref : EntityRef} {slots : Slots} :
    Valid Δ (.entity ref slots) ↔ ∀ (k : Nat) (f : FieldSpec) (slot : Option FieldValue),
      (Δ.entity ref).fields[k]? = some f → slots[k]? = some slot → SlotValid Δ f slot := by
  constructor
  · intro h k f slot hf hs
    cases h with
    | entity required passes parts =>
      refine ⟨?_, ?_⟩
      · rintro rfl
        exact required k f hf hs
      · rintro v rfl hcounts
        exact ⟨fun check => passes k f v check hf hs hcounts, parts k f v hf hs hcounts⟩
    | plain _ notRecord => cases notRecord
  · intro h
    refine .entity (fun k f hf hs => (h k f none hf hs).1 rfl) ?_ ?_
    · exact fun k f v check hf hs hcounts => ((h k f _ hf hs).2 v rfl hcounts).1 check
    · exact fun k f v hf hs hcounts => ((h k f _ hf hs).2 v rfl hcounts).2

theorem valid_collection_iff {ref : CollectionRef} {items : List FieldValue} :
    Valid Δ (.collection ref items) ↔ ∀ v ∈ items, Valid Δ v := by
  simp only [List.mem_iff_getElem?]
  constructor
  · rintro h v ⟨k, hv⟩
    cases h with
    | collection parts => exact parts k v hv
    | plain _ _ notCollection => cases notCollection
  · exact fun h => .collection fun k v hv => h v ⟨k, hv⟩

theorem valid_named_iff {v : NamedValue} : Valid Δ (.named v) ↔ v.isValid = true := by
  constructor
  · intro h
    cases h with
    | named passes => exact passes
    | plain notNamed => cases notNamed
  · exact .named

namespace FieldValue

theorem ruleErrors_eq_nil_iff {f : FieldSpec} {v : FieldValue} :
    ruleErrors f v = [] ↔ ∀ check, f.check = some check → check v = none := by
  unfold ruleErrors
  cases hcheck : f.check with
  | none => simp
  | some check => cases hfails : check v <;> simp [hfails]

mutual

theorem innerErrors_eq_nil_iff (v : FieldValue) : innerErrors Δ v = [] ↔ Valid Δ v := by
  cases v with
  | entity ref slots => rw [innerErrors, slotErrors_eq_nil_iff, valid_entity_iff]
  | collection ref items => rw [innerErrors, itemErrors_eq_nil_iff, valid_collection_iff]
  | named v =>
    rw [innerErrors, valid_named_iff]
    cases v.isValid <;> simp
  | _ => exact ⟨fun _ => .plain rfl rfl rfl, fun _ => rfl⟩

theorem slotErrors_eq_nil_iff (fields : List FieldSpec) (slots : Slots) :
    slotErrors Δ fields slots = [] ↔ ∀ (k : Nat) (f : FieldSpec) (slot : Option FieldValue),
      fields[k]? = some f → slots[k]? = some slot → SlotValid Δ f slot := by
  cases slots with
  | nil => simp [slotErrors]
  | cons slot slots =>
    cases fields with
    | nil => cases slot <;> simp [slotErrors]
    | cons f fields =>
      rw [forall_getElem?_cons_iff, ← slotErrors_eq_nil_iff fields slots]
      cases slot with
      | none =>
        rw [slotErrors]
        cases hnullable : f.nullable <;> simp [SlotValid, hnullable]
      | some v =>
        have hv := innerErrors_eq_nil_iff v
        rw [slotErrors]
        split
        · rename_i hexempt
          have hcounts : ¬f.Counts v := by
            rw [FieldSpec.counts_iff, hexempt]
            exact Bool.noConfusion
          simp [SlotValid, hcounts]
        · rename_i hcounts
          rw [Bool.not_eq_true, ← FieldSpec.counts_iff] at hcounts
          simp [SlotValid, hcounts, ruleErrors_eq_nil_iff, hv, and_assoc]

theorem itemErrors_eq_nil_iff (i : Nat) (items : List FieldValue) :
    itemErrors Δ i items = [] ↔ ∀ v ∈ items, Valid Δ v := by
  cases items with
  | nil => simp [itemErrors]
  | cons v items =>
    rw [itemErrors, List.forall_mem_cons, ← innerErrors_eq_nil_iff v,
      ← itemErrors_eq_nil_iff (i + 1) items, List.append_eq_nil_iff, List.map_eq_nil_iff]

end

end FieldValue

end RestRecords
