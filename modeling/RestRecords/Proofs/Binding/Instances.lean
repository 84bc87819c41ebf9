import RestRecords.Proofs.Traced
import RestRecords.Collection
/-!
# What binding yields

The instances of a kind are the values that binding makes for it. Whatever binding, the defaults
and updates put into a slot or a collection is an instance of the kind expected there, or null in a
field that allows it.
-/

namespace RestRecords

/-- The values that binding makes for a kind, at every depth. A slot may also be unset, or null
where its field allows that. -/
inductive Instance (Δ : Catalog) : Kind → FieldValue → Prop where
  | bool (b : Bool) : Instance Δ .bool (.bool b)
  | int (i : Int64) : Instance Δ .int (.int i)
  | float (x : FiniteDouble) : Instance Δ .float (.float (.finite x))
  | str (s : String) : Instance Δ .str (.str s)
  | dateTime {s : String} {t : DateTime} (read : DateTime.read? s = some t) :
    Instance Δ .dateTime (.dateTime t)
  | enumCase {schema : EnumSchema} {raw : Json} {e : EnumValue}
    (found : schema.ofBacking? raw = some e) : Instance Δ (.enumeration schema) (.enumCase e)
  | named {schema : ValueSchema} {raw : Json} {v : NamedValue}
    (bound : NamedValue.ofJson schema raw = .ok v) : Instance Δ (.value schema) (.named v)
  | entity {ref : EntityRef} {slots : Slots}
    (length : slots.length = (Δ.entity ref).fields.length)
    (nulls : ∀ (i : Nat) (f : FieldSpec), (Δ.entity ref).fields[i]? = some f →
      slots[i]? = some (some .null) → f.nullable = true)
    (parts : ∀ (i : Nat) (f : FieldSpec) (v : FieldValue), (Δ.entity ref).fields[i]? = some f →
      slots[i]? = some (some v) → v ≠ .null → Instance Δ ((Δ.entity ref).bindingKind f) v) :
    Instance Δ (.entity ref) (.entity ref slots)
  | collection {ref : CollectionRef} {items : List FieldValue}
    (parts : ∀ v ∈ items, Instance Δ (Δ.collection ref).element v) :
    Instance Δ (.collection ref) (.collection ref items)

/-- What a field may be set to. -/
def Fills (Δ : Catalog) (kind : Kind) (nullable : Bool) (v : FieldValue) : Prop :=
  v = .null ∧ nullable = true ∨ Instance Δ kind v

/-- Slots as they may be for the fields of an entity. -/
structure FillsSlots (Δ : Catalog) (d : EntityDecl) (slots : Slots) : Prop where
  length : slots.length = d.fields.length
  parts : ∀ (i : Nat) (f : FieldSpec) (v : FieldValue), d.fields[i]? = some f →
    slots[i]? = some (some v) → Fills Δ (d.bindingKind f) f.nullable v

variable {Δ : Catalog}

theorem Instance.ne_null {kind : Kind} {v : FieldValue} (h : Instance Δ kind v) : v ≠ .null := by
  cases h <;> exact nofun

theorem Fills.instance_of_required {kind : Kind} {v : FieldValue} (h : Fills Δ kind false v) :
    Instance Δ kind v := by
  rcases h with ⟨-, h⟩ | h
  · cases h
  · exact h

theorem Fills.nullable_of_null {kind : Kind} {nullable : Bool} (h : Fills Δ kind nullable .null) :
    nullable = true := by
  rcases h with ⟨-, hnull⟩ | hinst
  · exact hnull
  · exact absurd rfl hinst.ne_null

theorem Instance.of_fillsSlots {ref : EntityRef} {slots : Slots}
    (h : FillsSlots Δ (Δ.entity ref) slots) : Instance Δ (.entity ref) (.entity ref slots) := by
  apply Instance.entity h.length
  · intro i f hf hs
    exact (h.parts i f .null hf hs).nullable_of_null
  · intro i f v hf hs hv
    rcases h.parts i f v hf hs with ⟨hnull, -⟩ | hinst
    · exact absurd hnull hv
    · exact hinst

theorem Instance.fillsSlots {ref : EntityRef} {slots : Slots}
    (h : Instance Δ (.entity ref) (.entity ref slots)) : FillsSlots Δ (Δ.entity ref) slots := by
  cases h with
  | entity length nulls parts =>
    refine ⟨length, fun i f v hf hs => ?_⟩
    by_cases hv : v = .null
    · subst hv
      exact .inl ⟨rfl, nulls i f hf hs⟩
    · exact .inr (parts i f v hf hs hv)

/-! ## Slots -/

theorem FillsSlots.unset (d : EntityDecl) : FillsSlots Δ d (Bind.unset d) := by
  refine ⟨by simp [Bind.unset], fun i f v _ hs => ?_⟩
  simp [Bind.unset, List.getElem?_replicate] at hs

theorem FillsSlots.set {d : EntityDecl} {slots : Slots} (h : FillsSlots Δ d slots) {i : Nat}
    {f : FieldSpec} (hf : d.fields[i]? = some f) {slot : Option FieldValue}
    (hslot : ∀ v, slot = some v → Fills Δ (d.bindingKind f) f.nullable v) :
    FillsSlots Δ d (slots.set i slot) := by
  refine ⟨by rw [List.length_set, h.length], fun j g v hg hs => ?_⟩
  rw [List.getElem?_set] at hs
  split at hs
  · subst_vars
    rw [hf] at hg
    cases hg
    split at hs
    · cases hs
      exact hslot v rfl
    · cases hs
  · exact h.parts j g v hg hs

/-- What putting entries into slots keeps, also when it fails on the way: whatever holds of the slots
and goes on to hold when a bound value is put into the slot of its field. -/
theorem Bind.assign_induction {P : Slots → Prop} {d : EntityDecl} {ref : EntityRef}
    {bindField : FieldSpec → Json → Traced (Option FieldValue)}
    (hset : ∀ {slots : Slots} {i : Nat} {f : FieldSpec} {raw : Json} {v : FieldValue}, P slots →
      d.fields[i]? = some f → (bindField f raw).outcome = .ok (some v) →
        P (slots.set i (some v)))
    (entries : List (String × Json)) {slots : Slots} (h : P slots) :
    P (Bind.assign bindField ref d entries slots).slots := by
  induction entries generalizing slots with
  | nil => exact h
  | cons entry rest ih =>
    obtain ⟨key, raw⟩ := entry
    rw [Bind.assign]
    split
    · exact ih h
    split
    · exact ih h
    rename_i i _ f hf
    dsimp only
    split
    · exact h
    · rename_i v hv
      cases v with
      | none => exact ih h
      | some v => exact ih (hset h hf hv)

theorem Bind.update_induction {P : Slots → Prop} {d : EntityDecl} {ref : EntityRef}
    {bindField : FieldSpec → Json → Traced (Option FieldValue)}
    (hset : ∀ {slots : Slots} {i : Nat} {f : FieldSpec} {raw : Json} {v : FieldValue}, P slots →
      d.fields[i]? = some f → (bindField f raw).outcome = .ok (some v) →
        P (slots.set i (some v)))
    {slots : Slots} (h : P slots) (raw : Json) :
    P (Bind.update bindField ref d slots raw).slots := by
  unfold Bind.update
  split
  · exact Bind.assign_induction hset _ h
  · exact h

theorem FillsSlots.update {d : EntityDecl} {ref : EntityRef}
    {bindField : FieldSpec → Json → Traced (Option FieldValue)}
    (hbind : ∀ f raw v, (bindField f raw).outcome = .ok (some v) →
      Fills Δ (d.bindingKind f) f.nullable v)
    {slots : Slots} (h : FillsSlots Δ d slots) (raw : Json) :
    FillsSlots Δ d (Bind.update bindField ref d slots raw).slots := by
  refine Bind.update_induction (fun {slots i f raw v} hslots hf hv => ?_) h raw
  refine hslots.set hf ?_
  rintro w ⟨⟩
  exact hbind f raw v hv

/-! ## Defaults -/

theorem Json.int64?_int (n : Int64) : (Json.int n.toInt).int64? = some n := by
  have hrange : Int64.minValue.toInt ≤ n.toInt ∧ n.toInt ≤ Int64.maxValue.toInt :=
    ⟨Int64.minValue_le_toInt n, Int64.toInt_le n⟩
  rw [Json.int64?, if_pos hrange, Int64.ofInt_toInt]

theorem Backing.isBacking_toJson (b : Backing) : b.isBacking b.toJson = true := by
  cases b with
  | text s => simp [isBacking, toJson]
  | number n => simp [isBacking, toJson, Json.int64?_int]

theorem ofBacking?_of_first? {schema : EnumSchema} {e : EnumValue} (h : schema.first? = some e) :
    schema.ofBacking? e.case.backing.toJson = some e := by
  obtain ⟨name, cases⟩ := schema
  cases cases with
  | nil => cases h
  | cons c cases =>
    cases h
    have hself : c.backing.isBacking c.backing.toJson = true := c.backing.isBacking_toJson
    simp [EnumSchema.ofBacking?, hself]

theorem getElem?_of_defaultSlots {default : FieldSpec → Traced (Option FieldValue)}
    {fields : List FieldSpec} {slots : Slots}
    (h : (Default.slots default fields).outcome = .ok slots) :
    slots.length = fields.length ∧ ∀ (i : Nat) (f : FieldSpec) (slot : Option FieldValue),
      fields[i]? = some f → slots[i]? = some slot → (default f).outcome = .ok slot := by
  induction fields generalizing slots with
  | nil =>
    cases h
    exact ⟨rfl, nofun⟩
  | cons f fs ih =>
    obtain ⟨slot, hslot, h⟩ := Traced.outcome_bind_eq_ok_iff.1 h
    obtain ⟨rest, hrest, h⟩ := Traced.outcome_bind_eq_ok_iff.1 h
    cases h
    obtain ⟨hlength, hparts⟩ := ih hrest
    refine ⟨by simp [hlength], fun i g other hg hother => ?_⟩
    cases i with
    | zero =>
      cases hg
      cases hother
      exact hslot
    | succ i => exact hparts i g other hg hother

theorem Fills.of_defaultSlot {entity : EntityRef} {f : FieldSpec} {kind : Kind} {v : FieldValue}
    {nested : EntityRef → Traced Slots}
    (hnested : ∀ ref slots, (nested ref).outcome = .ok slots →
      FillsSlots Δ (Δ.entity ref) slots)
    (h : (Default.slot nested entity f kind).outcome = .ok (some v)) :
    Fills Δ kind f.nullable v := by
  unfold Default.slot at h
  split at h
  · rename_i schema
    right
    rw [Traced.outcome_ok, Except.ok.injEq, Option.map_eq_some_iff] at h
    obtain ⟨e, he, rfl⟩ := h
    exact .enumCase (ofBacking?_of_first? he)
  split at h
  · rename_i hnull
    cases h
    exact .inl ⟨rfl, hnull⟩
  right
  split at h
  · obtain ⟨slots, hslots, h⟩ := Traced.outcome_bind_eq_ok_iff.1 h
    cases h
    exact .of_fillsSlots (hnested _ _ hslots)
  · cases h
    exact .collection nofun
  · split at h
    · rename_i hv
      cases h
      exact .named hv
    · cases h
  · cases h

theorem FillsSlots.of_default {depth : Nat} {ref : EntityRef} {slots : Slots}
    (h : (Default.within Δ depth ref).outcome = .ok slots) :
    FillsSlots Δ (Δ.entity ref) slots := by
  induction depth generalizing ref slots with
  | zero => cases h
  | succ depth ih =>
    obtain ⟨hlength, hparts⟩ := getElem?_of_defaultSlots h
    exact ⟨hlength, fun i f v hf hs =>
      .of_defaultSlot (fun _ _ hnested => ih hnested) (hparts i f (some v) hf hs)⟩

theorem FillsSlots.of_initial {ref : EntityRef} {r : Record}
    (h : (Record.initial Δ ref).outcome = .ok r) :
    r.ref = ref ∧ FillsSlots Δ (Δ.entity ref) r.slots := by
  obtain ⟨slots, hslots, h⟩ := Traced.outcome_bind_eq_ok_iff.1 h
  cases h
  exact ⟨rfl, .of_default hslots⟩

theorem Default.outcome_slot_ne_fail {nested : EntityRef → Traced Slots} {entity : EntityRef}
    {f : FieldSpec} {kind : Kind} {e : Error}
    (hnested : ∀ ref, (nested ref).outcome ≠ Outcome.fail e) :
    (Default.slot nested entity f kind).outcome ≠ Outcome.fail e := by
  intro h
  unfold Default.slot at h
  split at h
  · cases h
  split at h
  · cases h
  split at h
  · rcases Traced.outcome_bind_eq_fail_iff.1 h with hslots | ⟨_, -, h⟩
    · exact hnested _ hslots
    · cases h
  · cases h
  · split at h
    · cases h
    · rcases Traced.outcome_bind_eq_fail_iff.1 h with hreport | ⟨_, -, h⟩
      · cases hreport
      · cases h
  · cases h

theorem Default.outcome_slots_ne_fail {default : FieldSpec → Traced (Option FieldValue)} {e : Error}
    (hdefault : ∀ f, (default f).outcome ≠ Outcome.fail e) (fields : List FieldSpec) :
    (Default.slots default fields).outcome ≠ Outcome.fail e := by
  induction fields with
  | nil => exact nofun
  | cons f fields ih =>
    intro h
    rcases Traced.outcome_bind_eq_fail_iff.1 h with hfirst | ⟨v, -, h⟩
    · exact hdefault f hfirst
    · rcases Traced.outcome_bind_eq_fail_iff.1 h with hrest | ⟨rest, -, h⟩
      · exact ih hrest
      · cases h

/-- Defaults do not fail, though they may have no end. -/
theorem Record.outcome_initial_ne_fail {ref : EntityRef} {e : Error} :
    (Record.initial Δ ref).outcome ≠ Outcome.fail e := by
  have hwithin : ∀ depth ref, (Default.within Δ depth ref).outcome ≠ Outcome.fail e := by
    intro depth
    induction depth with
    | zero => exact fun _ => nofun
    | succ depth ih =>
      exact fun ref => Default.outcome_slots_ne_fail (fun f => Default.outcome_slot_ne_fail ih) _
  intro h
  rcases Traced.outcome_bind_eq_fail_iff.1 h with hslots | ⟨_, -, h⟩
  · exact hwithin _ _ hslots
  · cases h

/-! ## Binding -/

theorem Fills.of_enumeration {schema : EnumSchema} {place : Step} {nullable : Bool} {raw : Json}
    {v : FieldValue} (h : (Bind.enumeration schema place nullable raw).outcome = .ok (some v)) :
    Fills Δ (.enumeration schema) nullable v := by
  unfold Bind.enumeration at h
  split at h
  · rename_i hnull
    cases h
    exact .inl ⟨rfl, by simp_all⟩
  split at h
  · rename_i e he
    cases h
    exact .inr (.enumCase he)
  · cases h

theorem Fills.of_number {α : Type} {kind : Kind} {place : Step} {nullable : Bool} {raw : Json}
    {value : Option α} {inject : α → FieldValue} {v : FieldValue}
    (hinject : ∀ a, Instance Δ kind (inject a))
    (h : (Bind.number kind place nullable raw (value.map inject)).outcome = .ok (some v)) :
    Fills Δ kind nullable v := by
  unfold Bind.number at h
  split at h
  · cases h
  · cases h
  split at h
  · rename_i hv
    cases h
    obtain ⟨a, -, rfl⟩ := Option.map_eq_some_iff.1 hv
    exact .inr (hinject a)
  split at h
  · rename_i hnull
    cases h
    exact .inl ⟨rfl, hnull⟩
  · cases h

theorem Instance.of_string {place : Step} {raw : Json} {v : FieldValue}
    (h : (Bind.string place raw).outcome = .ok (some v)) : Instance Δ .str v := by
  unfold Bind.string at h
  split at h <;> cases h <;> exact .str _

theorem Instance.of_dateTime {place : Step} {raw : Json} {v : FieldValue}
    (h : (Bind.dateTime place raw).outcome = .ok (some v)) : Instance Δ .dateTime v := by
  unfold Bind.dateTime at h
  split at h
  · rename_i t ht
    cases h
    obtain ⟨s, -, hread⟩ := Option.bind_eq_some_iff.1 ht
    exact .dateTime hread
  · cases h

theorem Instance.of_named {schema : ValueSchema} {raw : Json} {v : FieldValue}
    (h : (do return some (.named (← Bind.lift (NamedValue.ofJson schema raw))) :
      Traced (Option FieldValue)).outcome = .ok (some v)) : Instance Δ (.value schema) v := by
  obtain ⟨named, hnamed, h⟩ := Traced.outcome_bind_eq_ok_iff.1 h
  cases h
  cases hv : NamedValue.ofJson schema raw with
  | ok w =>
    rw [hv] at hnamed
    cases hnamed
    exact .named hv
  | error e =>
    rw [hv] at hnamed
    cases hnamed

theorem FillsSlots.of_entity {ref : EntityRef} {raw : Json} {r : Record}
    {bindField : EntityDecl → FieldSpec → Json → Traced (Option FieldValue)}
    (hbind : ∀ f raw v, (bindField (Δ.entity ref) f raw).outcome = .ok (some v) →
      Fills Δ ((Δ.entity ref).bindingKind f) f.nullable v)
    (h : (Bind.entity Δ bindField ref raw).outcome = .ok r) :
    r.ref = ref ∧ FillsSlots Δ (Δ.entity ref) r.slots := by
  unfold Bind.entity at h
  split at h
  · exact FillsSlots.of_initial h
  · obtain ⟨_, -, h⟩ := Traced.outcome_bind_eq_ok_iff.1 h
    cases h
    exact ⟨rfl, (FillsSlots.unset _).update hbind raw⟩

theorem forall_of_items {P : FieldValue → Prop} {bindElement : Nat → Json → Traced FieldValue}
    (hbind : ∀ i raw v, (bindElement i raw).outcome = .ok v → P v) {i : Nat} {raws : List Json}
    {items : List FieldValue} (h : (Bind.items bindElement i raws).outcome = .ok items) :
    ∀ v ∈ items, P v := by
  induction raws generalizing i items with
  | nil =>
    cases h
    exact nofun
  | cons raw raws ih =>
    obtain ⟨v, hv, h⟩ := Traced.outcome_bind_eq_ok_iff.1 h
    obtain ⟨rest, hrest, h⟩ := Traced.outcome_bind_eq_ok_iff.1 h
    cases h
    intro w hw
    rcases List.mem_cons.1 hw with rfl | hw
    · exact hbind i raw w hv
    · exact ih hrest w hw

theorem Instance.of_element {kind : Kind} {i : Nat} {raw : Json} {v : FieldValue}
    {bindElement : Step → Json → Traced (Option FieldValue)}
    (hbind : ∀ place raw v, (bindElement place raw).outcome = .ok (some v) → Instance Δ kind v)
    (h : (Bind.element Δ bindElement kind i raw).outcome = .ok v) : Instance Δ kind v := by
  unfold Bind.element at h
  split at h
  · obtain ⟨r, hr, h⟩ := Traced.outcome_bind_eq_ok_iff.1 h
    cases h
    obtain ⟨rfl, hslots⟩ := FillsSlots.of_initial hr
    exact .of_fillsSlots hslots
  · obtain ⟨bound, hbound, h⟩ := Traced.outcome_bind_eq_ok_iff.1 h
    cases bound with
    | none => cases h
    | some w =>
      cases h
      exact hbind _ raw v hbound

theorem Instance.of_collection {ref : CollectionRef} {raw : Json} {c : Collection}
    {bindElement : Kind → Step → Json → Traced (Option FieldValue)}
    (hbind : ∀ place raw v,
      (bindElement (Δ.collection ref).element place raw).outcome = .ok (some v) →
        Instance Δ (Δ.collection ref).element v)
    (h : (Bind.collection Δ bindElement ref raw).outcome = .ok c) :
    c.ref = ref ∧ ∀ v ∈ c.items, Instance Δ (Δ.collection ref).element v := by
  obtain ⟨items, hitems, h⟩ := Traced.outcome_bind_eq_ok_iff.1 h
  cases h
  exact ⟨rfl, forall_of_items (fun i raw v => .of_element hbind) hitems⟩

/-- Binding as a kind yields an instance of it, or null where that is allowed. -/
theorem Fills.of_kindWithin {depth : Nat} {place : Step} {kind : Kind} {nullable : Bool}
    {raw : Json} {v : FieldValue}
    (h : (Bind.kindWithin Δ depth place kind nullable raw).outcome = .ok (some v)) :
    Fills Δ kind nullable v := by
  induction depth generalizing place kind nullable raw v with
  | zero => cases h
  | succ depth ih =>
    unfold Bind.kindWithin at h
    split at h
    · exact .of_enumeration h
    split at h
    · split at h
      · rename_i hnull
        cases h
        exact .inl ⟨rfl, hnull⟩
      split at h
      · exact .inr (.of_named h)
      · cases h
    split at h
    · exact .of_number .bool h
    · exact .of_number .int h
    · exact .of_number .float h
    · exact .inr (.of_string h)
    · exact .inr (.of_dateTime h)
    · exact .of_enumeration h
    · exact .inr (.of_named h)
    · obtain ⟨r, hr, h⟩ := Traced.outcome_bind_eq_ok_iff.1 h
      cases h
      obtain ⟨rfl, hslots⟩ :=
        FillsSlots.of_entity (fun f raw v hv => ih hv) (Traced.outcome_mapError_eq_ok_iff.1 hr)
      exact .inr (.of_fillsSlots hslots)
    · obtain ⟨c, hc, h⟩ := Traced.outcome_bind_eq_ok_iff.1 h
      cases h
      obtain ⟨rfl, hitems⟩ :=
        Instance.of_collection (fun place raw v hv => (ih hv).instance_of_required)
          (Traced.outcome_mapError_eq_ok_iff.1 hc)
      exact .inr (.collection hitems)

theorem FillsSlots.of_ofJson {ref : EntityRef} {raw : Json} {r : Record}
    (h : (Record.ofJson Δ ref raw).outcome = .ok r) :
    r.ref = ref ∧ FillsSlots Δ (Δ.entity ref) r.slots :=
  FillsSlots.of_entity (fun _ _ _ hv => .of_kindWithin hv) h

theorem FillsSlots.of_ofText {ref : EntityRef} {text : String} {r : Record}
    (h : (Record.ofText Δ ref text).outcome = .ok r) :
    r.ref = ref ∧ FillsSlots Δ (Δ.entity ref) r.slots := by
  unfold Record.ofText at h
  split at h
  · exact FillsSlots.of_ofJson h
  · cases h

theorem FillsSlots.of_ref_eq {ref : EntityRef} {r : Record}
    (h : r.ref = ref ∧ FillsSlots Δ (Δ.entity ref) r.slots) :
    FillsSlots Δ (Δ.entity r.ref) r.slots := by
  obtain ⟨rfl, hslots⟩ := h
  exact hslots

theorem Instance.of_collectionOfJson {ref : CollectionRef} {raw : Json} {c : Collection}
    (h : (Collection.ofJson Δ ref raw).outcome = .ok c) :
    c.ref = ref ∧ ∀ v ∈ c.items, Instance Δ (Δ.collection ref).element v :=
  Instance.of_collection (fun _ _ _ hv => (Fills.of_kindWithin hv).instance_of_required) h

end RestRecords
