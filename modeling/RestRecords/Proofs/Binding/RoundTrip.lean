import RestRecords.Proofs.Binding.StoredForm
import RestRecords.Proofs.Time.DateTimeText
/-!
# Binding what was stored

The JSON of an entity that was made from data binds to an entity that is equal to it and is stored
as the same JSON. Field names must differ from each other, and the normal form of a payload must be
a scalar in normal form, wherever the declaration of the entity leads; date-times must have years
that are written in four digits.
-/

namespace RestRecords

/-- Whether a value is neither a list nor an object. -/
def Json.IsScalar : Json → Prop
  | .arr _ | .obj _ => False
  | _ => True

/-- Whether the fields of an entity have names of their own, and normal forms are scalars that are
their own normal form. -/
def Kind.IsRegular (Δ : Catalog) : Kind → Prop
  | .entity ref => ((Δ.entity ref).fields.map FieldSpec.name).Nodup
  | .value schema => ∀ raw payload, raw.IsScalar → schema.normalize raw = .ok payload →
    payload.IsScalar ∧ schema.normalize payload = .ok payload
  | _ => True

def Kind.IsRegularThroughout (Δ : Catalog) (kind : Kind) : Prop :=
  ∀ other, kind.Reaches Δ other → other.IsRegular Δ

/-- Whether the date-times inside a value have years that are written in four digits. -/
def FieldValue.HasPlainYears (v : FieldValue) : Prop :=
  ∀ t, v.Contains (.dateTime t) → 0 ≤ t.date.year ∧ t.date.year ≤ 9999

open FieldValue

variable {Δ : Catalog}

theorem Kind.IsRegularThroughout.self {kind : Kind} (h : kind.IsRegularThroughout Δ) :
    kind.IsRegular Δ :=
  h kind (.self kind)

theorem Kind.IsRegularThroughout.field {ref : EntityRef}
    (h : (Kind.entity ref).IsRegularThroughout Δ) {f : FieldSpec} {i : Nat}
    (hf : (Δ.entity ref).fields[i]? = some f) :
    ((Δ.entity ref).bindingKind f).IsRegularThroughout Δ :=
  fun other hother => h other (.field (List.mem_of_getElem? hf) hother)

theorem Kind.IsRegularThroughout.element {ref : CollectionRef}
    (h : (Kind.collection ref).IsRegularThroughout Δ) :
    (Δ.collection ref).element.IsRegularThroughout Δ :=
  fun other hother => h other (.element hother)

/-- Whatever holds of a kind and of every kind in the declarations of a catalog holds of all that the
kind leads to. -/
theorem Kind.Reaches.induction {P : Kind → Prop} {kind other : Kind} (h : kind.Reaches Δ other)
    (hself : P kind) (hunknown : P .str)
    (hentities : ∀ d ∈ Δ.entities, ∀ f ∈ d.fields, P (d.bindingKind f))
    (hcollections : ∀ c ∈ Δ.collections, P c.element) : P other := by
  induction h with
  | self => exact hself
  | @field ref f _ declared _ ih =>
    apply ih
    unfold Catalog.entity at declared ⊢
    cases hd : Δ.entities[ref.key]? with
    | none =>
      rw [hd] at declared
      cases declared
    | some d =>
      rw [hd] at declared
      exact hentities d (List.mem_of_getElem? hd) f declared
  | @element ref _ _ ih =>
    apply ih
    unfold Catalog.collection
    cases hc : Δ.collections[ref.key]? with
    | none => exact hunknown
    | some c => exact hcollections c (List.mem_of_getElem? hc)

theorem Kind.IsRegular.throughout {kind : Kind} (h : kind.IsRegular Δ)
    (hentities : ∀ d ∈ Δ.entities, ∀ f ∈ d.fields, (d.bindingKind f).IsRegular Δ)
    (hcollections : ∀ c ∈ Δ.collections, c.element.IsRegular Δ) : kind.IsRegularThroughout Δ :=
  fun _ hother => hother.induction h trivial hentities hcollections

theorem FieldValue.HasPlainYears.part {v w : FieldValue} (h : v.HasPlainYears) (hw : w ∈ v.parts) :
    w.HasPlainYears :=
  fun t ht => h t (.inside hw ht)

theorem FieldValue.HasPlainYears.of_parts {v : FieldValue}
    (hself : ∀ t, v = .dateTime t → 0 ≤ t.date.year ∧ t.date.year ≤ 9999)
    (hparts : ∀ w ∈ v.parts, w.HasPlainYears) : v.HasPlainYears := by
  intro t ht
  cases ht with
  | self => exact hself t rfl
  | inside hpart hrest => exact hparts _ hpart t hrest

/-- Where no date-time is declared, there is none. -/
theorem Instance.hasPlainYears {kind : Kind} {v : FieldValue} (h : Instance Δ kind v)
    (htimeless : ¬kind.Reaches Δ .dateTime) : v.HasPlainYears := by
  induction h with
  | dateTime => exact absurd (.self _) htimeless
  | @entity ref slots length nulls parts ih =>
    refine .of_parts nofun fun w hw => ?_
    obtain ⟨i, hs⟩ := mem_parts_entity.1 hw
    obtain ⟨f, hf⟩ := exists_field_of_slot length hs
    by_cases hnull : w = .null
    · subst hnull
      exact .of_parts nofun nofun
    · exact ih i f w hf hs hnull fun h => htimeless (.field (List.mem_of_getElem? hf) h)
  | collection parts ih =>
    exact .of_parts nofun fun w hw => ih w hw fun h => htimeless (.element h)
  | _ => exact .of_parts nofun nofun

/-! ## Scalars -/

theorem isScalar_of_unwrap {schema : ValueSchema} {raw payload : Json}
    (h : NamedValue.unwrap schema raw = .ok payload) : payload.IsScalar := by
  have hscalar : ∀ {raw}, NamedValue.unwrap.scalar schema raw = .ok payload →
      payload.IsScalar := by
    intro raw h
    cases raw <;> cases h <;> trivial
  unfold NamedValue.unwrap at h
  split at h
  · cases h
    trivial
  · split at h
    · exact hscalar h
    · cases h
  · exact hscalar h

theorem unwrap_of_isScalar {schema : ValueSchema} {raw : Json} (h : raw.IsScalar) :
    NamedValue.unwrap schema raw = .ok raw := by
  cases raw <;> first | rfl | cases h

theorem NamedValue.exists_normalize_eq {schema : ValueSchema} {raw : Json} {v : NamedValue}
    (h : ofJson schema raw = .ok v) :
    ∃ scalar : Json, scalar.IsScalar ∧ schema.normalize scalar = .ok v.payload := by
  unfold ofJson prepare at h
  cases hunwrap : unwrap schema raw with
  | error e => simp [hunwrap, Except.map] at h
  | ok scalar =>
    cases hnormal : schema.normalize scalar with
    | error complaint => simp [hunwrap, hnormal, Except.map] at h
    | ok normal =>
      simp only [hunwrap, hnormal, Except.map, Except.ok.injEq] at h
      subst h
      exact ⟨scalar, isScalar_of_unwrap hunwrap, hnormal⟩

theorem NamedValue.isScalar_payload {schema : ValueSchema} {raw : Json} {v : NamedValue}
    (hregular : (Kind.value schema).IsRegular Δ) (h : ofJson schema raw = .ok v) :
    v.payload.IsScalar := by
  obtain ⟨scalar, hscalar, hnormal⟩ := exists_normalize_eq h
  exact (hregular scalar v.payload hscalar hnormal).1

/-- A payload in normal form is read as it is. -/
theorem NamedValue.ofJson_payload {schema : ValueSchema} {raw : Json} {v : NamedValue}
    (hregular : (Kind.value schema).IsRegular Δ) (h : ofJson schema raw = .ok v) :
    ofJson schema v.payload = .ok v := by
  obtain ⟨scalar, hscalar, hnormal⟩ := exists_normalize_eq h
  obtain ⟨hpayload, hsettled⟩ := hregular scalar v.payload hscalar hnormal
  obtain rfl : v.schema = schema := schema_of_named h
  simp [ofJson, prepare, unwrap_of_isScalar hpayload, hsettled, Except.map]

theorem Backing.eq_toJson_of_isBacking {b : Backing} {raw : Json} (h : b.isBacking raw = true) :
    raw = b.toJson := by
  unfold isBacking at h
  split at h
  · rw [beq_iff_eq] at h
    rw [h, toJson]
  · rename_i n
    rw [beq_iff_eq] at h
    unfold Json.int64? at h
    split at h
    · split at h
      · rename_i i hrange
        rw [Int64.toInt_minValue, Int64.toInt_maxValue] at hrange
        cases h
        rw [toJson, Int64.toInt_ofInt_of_le (by omega) (by omega)]
      · cases h
    · cases h
  · cases h

theorem ofBacking?_toJson {schema : EnumSchema} {raw : Json} {e : EnumValue}
    (h : schema.ofBacking? raw = some e) : schema.ofBacking? e.case.backing.toJson = some e := by
  have hbacking : e.case.backing.isBacking raw = true := by
    obtain ⟨c, hc, rfl⟩ := Option.map_eq_some_iff.1 h
    exact List.find?_some (p := fun c : EnumCase => c.backing.isBacking raw) hc
  rwa [← Backing.eq_toJson_of_isBacking hbacking]

/-! ## Entities -/

/-- Entries that bind to the values of slots fill these slots, if those that no entry is for are
right from the start. -/
theorem assign_eq {d : EntityDecl} {r : EntityRef}
    {bindField : FieldSpec → Json → Traced (Option FieldValue)} {final : Slots}
    {entries : List (String × Json)}
    (hbind : ∀ e ∈ entries, ∃ (i : Nat) (f : FieldSpec) (v : FieldValue),
      d.index? e.1 = some i ∧ d.fields[i]? = some f ∧ final[i]? = some (some v) ∧
        (bindField f e.2).outcome = .ok (some v))
    {slots : Slots} (hlength : slots.length = final.length)
    (hslots : ∀ i, slots[i]? = final[i]? ∨ ∃ e ∈ entries, d.index? e.1 = some i) :
    (Bind.assign bindField r d entries slots).slots = final ∧
      (Bind.assign bindField r d entries slots).report.outcome = .ok () := by
  induction entries generalizing slots with
  | nil =>
    have hsame : ∀ i, slots[i]? = final[i]? := fun i => (hslots i).resolve_right (by simp)
    exact ⟨List.ext_getElem? hsame, rfl⟩
  | cons e rest ih =>
    obtain ⟨i, f, v, hi, hf, hv, hbound⟩ := hbind e List.mem_cons_self
    obtain ⟨key, raw⟩ := e
    have hnext : ∀ j, (slots.set i (some v))[j]? = final[j]? ∨
        ∃ e ∈ rest, d.index? e.1 = some j := by
      intro j
      by_cases hij : i = j
      · subst hij
        obtain ⟨hlt, -⟩ := List.getElem?_eq_some_iff.1 hv
        exact .inl (by rw [List.getElem?_set_self (by omega), hv])
      · rw [List.getElem?_set_ne hij]
        refine (hslots j).imp_right fun ⟨e, he, hj⟩ => ?_
        rcases List.mem_cons.1 he with rfl | he
        · exact absurd (Option.some.inj (hi.symm.trans hj)) hij
        · exact ⟨e, he, hj⟩
    have hrest := ih (fun e he => hbind e (List.mem_cons_of_mem _ he))
      (by rw [List.length_set, hlength]) hnext
    rw [Bind.assign]
    simpa only [hi, hf, hbound] using hrest

theorem unset_or_exists_entry {d : EntityDecl} (hnames : (d.fields.map FieldSpec.name).Nodup)
    {slots : Slots} (hlength : slots.length = d.fields.length) (i : Nat) :
    (Bind.unset d)[i]? = (compactSlots Δ d.fields slots)[i]? ∨
      ∃ e ∈ Json.sortEntries (slotEntries Δ d.fields slots), d.index? e.1 = some i := by
  cases hf : d.fields[i]? with
  | none =>
    have hi : d.fields.length ≤ i := List.getElem?_eq_none_iff.1 hf
    left
    rw [List.getElem?_eq_none (by rw [Bind.unset, List.length_replicate]; exact hi),
      List.getElem?_eq_none (by rw [length_compactSlots, hlength]; exact hi)]
  | some f =>
    obtain ⟨hi, -⟩ := List.getElem?_eq_some_iff.1 hf
    have hs : slots[i]? = some slots[i] := List.getElem?_eq_getElem (hlength ▸ hi)
    cases hslot : slots[i] with
    | none =>
      rw [hslot] at hs
      left
      rw [getElem?_compactSlots hf hs, Bind.unset, List.getElem?_replicate_of_lt hi]
      rfl
    | some v =>
      rw [hslot] at hs
      cases hkept : isOmitted f (some v) with
      | true =>
        left
        rw [getElem?_compactSlots hf hs, Bind.unset, List.getElem?_replicate_of_lt hi, hkept]
        rfl
      | false =>
        right
        have hkey : f.name ∈ (slotEntries Δ d.fields slots).map Prod.fst :=
          List.mem_map.2 ⟨_, mem_slotEntries_iff.2 ⟨i, f, v, hf, hs, hkept, rfl⟩, rfl⟩
        obtain ⟨e, he, hname⟩ := List.mem_map.1 (Json.mem_keys_sortEntries.2 hkey)
        exact ⟨e, he, by rw [hname, index?_of_nodup hnames hf]⟩

theorem entity_toJson {ref : EntityRef} {slots : Slots}
    {bindField : EntityDecl → FieldSpec → Json → Traced (Option FieldValue)}
    (hnames : ((Δ.entity ref).fields.map FieldSpec.name).Nodup)
    (hlength : slots.length = (Δ.entity ref).fields.length)
    (hbind : ∀ (i : Nat) (f : FieldSpec) (v : FieldValue), (Δ.entity ref).fields[i]? = some f →
      slots[i]? = some (some v) → isOmitted f (some v) = false →
        (v.toJson Δ).depth < ((FieldValue.entity ref slots).toJson Δ).depth →
          (bindField (Δ.entity ref) f (v.toJson Δ)).outcome = .ok (some (v.compact Δ))) :
    (Bind.entity Δ bindField ref ((FieldValue.entity ref slots).toJson Δ)).outcome =
      .ok ⟨ref, compactSlots Δ (Δ.entity ref).fields slots⟩ := by
  have hentries : ∀ e ∈ Json.sortEntries (slotEntries Δ (Δ.entity ref).fields slots),
      ∃ (i : Nat) (f : FieldSpec) (v : FieldValue), (Δ.entity ref).index? e.1 = some i ∧
        (Δ.entity ref).fields[i]? = some f ∧
        (compactSlots Δ (Δ.entity ref).fields slots)[i]? = some (some v) ∧
        (bindField (Δ.entity ref) f e.2).outcome = .ok (some v) := by
    intro e he
    obtain ⟨i, f, v, hf, hs, hkept, rfl⟩ := mem_slotEntries_iff.1 (Json.mem_of_mem_sortEntries he)
    refine ⟨i, f, v.compact Δ, index?_of_nodup hnames hf, hf, ?_, hbind i f v hf hs hkept ?_⟩
    · rw [getElem?_compactSlots hf hs, hkept]
      rfl
    · rw [toJson, Json.ofEntries_eq, Json.depth]
      exact Nat.lt_succ_of_le (Json.depth_le_depthEntries he)
  obtain ⟨hslots, houtcome⟩ := assign_eq (r := ref) hentries
    (by rw [Bind.unset, List.length_replicate, length_compactSlots, hlength])
    (unset_or_exists_entry hnames hlength)
  rw [toJson, Json.ofEntries_eq, Bind.entity,
    if_neg (show ¬(Json.obj _).isNull = true from Bool.false_ne_true)]
  simp only [Bind.update, Traced.outcome_bind, houtcome, hslots, Except.bind, Traced.outcome_pure]

/-! ## Collections -/

theorem items_eq {bindElement : Nat → Json → Traced FieldValue} {items : List FieldValue}
    (hbind : ∀ v ∈ items, ∀ i,
      (bindElement i (v.toJson Δ)).outcome = .ok (v.compact Δ)) (i : Nat) :
    (Bind.items bindElement i (itemsJson Δ items)).outcome = .ok (compactItems Δ items) := by
  induction items generalizing i with
  | nil => rfl
  | cons v items ih =>
    have hfirst := hbind v List.mem_cons_self i
    have hrest := ih (fun w hw => hbind w (List.mem_cons_of_mem v hw)) (i + 1)
    rw [itemsJson, compactItems, Bind.items]
    simp only [Traced.outcome_bind, hfirst, hrest, Except.bind, Traced.outcome_pure]

theorem element_toJson {kind : Kind} {v : FieldValue} {i : Nat}
    {bindElement : Step → Json → Traced (Option FieldValue)} (hinst : Instance Δ kind v)
    (hbind : (bindElement (.index i) (v.toJson Δ)).outcome = .ok (some (v.compact Δ))) :
    (Bind.element Δ bindElement kind i (v.toJson Δ)).outcome = .ok (v.compact Δ) := by
  unfold Bind.element
  split
  · rename_i hnull
    cases hinst
    rw [toJson, Json.ofEntries_eq] at hnull
    cases hnull
  · simp only [Traced.outcome_bind, hbind, Except.bind, Traced.outcome_pure]

theorem collection_toJson {ref : CollectionRef} {items : List FieldValue}
    {bindElement : Kind → Step → Json → Traced (Option FieldValue)}
    (hinst : ∀ v ∈ items, Instance Δ (Δ.collection ref).element v)
    (hbind : ∀ v ∈ items, ∀ i,
      (v.toJson Δ).depth < ((FieldValue.collection ref items).toJson Δ).depth →
        (bindElement (Δ.collection ref).element (.index i) (v.toJson Δ)).outcome =
          .ok (some (v.compact Δ))) :
    (Bind.collection Δ bindElement ref ((FieldValue.collection ref items).toJson Δ)).outcome =
      .ok ⟨ref, compactItems Δ items⟩ := by
  have hdepth : ∀ v ∈ items,
      (v.toJson Δ).depth < ((FieldValue.collection ref items).toJson Δ).depth := by
    intro v hv
    have hmem : v.toJson Δ ∈ itemsJson Δ items := by
      rw [itemsJson_eq_map]
      exact List.mem_map_of_mem hv
    rw [toJson, Json.depth]
    exact Nat.lt_succ_of_le (Json.depth_le_depthItems hmem)
  have hitems : (Bind.items (Bind.element Δ (bindElement (Δ.collection ref).element)
      (Δ.collection ref).element) 0 (itemsJson Δ items)).outcome = .ok (compactItems Δ items) :=
    items_eq (fun v hv i => element_toJson (hinst v hv) (hbind v hv i (hdepth v hv))) 0
  rw [toJson, Bind.collection]
  simp only [Bind.elements, Traced.outcome_bind, hitems, Except.bind, Traced.outcome_pure]

/-! ## Values of every kind -/

theorem dateTime_text {t : DateTime} (hread : DateTime.read? t.text = some t) (depth : Nat)
    (place : Step) (nullable : Bool) :
    (Bind.kindWithin Δ (depth + 1) place .dateTime nullable (.str t.text)).outcome =
      .ok (some (.dateTime t)) := by
  generalize t.text = s at hread
  show (Bind.dateTime place (.str s)).outcome = _
  rw [Bind.dateTime, Json.str?, Option.bind_some, hread]
  rfl

theorem enumeration_toJson {schema : EnumSchema} {raw : Json} {e : EnumValue}
    (found : schema.ofBacking? raw = some e) (place : Step) (nullable : Bool) :
    (Bind.enumeration schema place nullable e.case.backing.toJson).outcome =
      .ok (some (.enumCase e)) := by
  have hnull : e.case.backing.toJson.isNull = false := by
    cases e.case.backing <;> rfl
  rw [Bind.enumeration, hnull, Bool.false_and, if_neg Bool.false_ne_true]
  simp only [ofBacking?_toJson found, Traced.outcome_ok]

private theorem outcome_named {schema : ValueSchema} {raw : Json} {v : NamedValue}
    (h : NamedValue.ofJson schema raw = .ok v) :
    (do return some (.named (← Bind.lift (NamedValue.ofJson schema raw))) :
      Traced (Option FieldValue)).outcome = .ok (some (.named v)) := by
  rw [h]
  rfl

theorem named_toJson {schema : ValueSchema} {raw : Json} {v : NamedValue} {depth : Nat}
    {place : Step} {nullable : Bool} (hregular : (Kind.value schema).IsRegular Δ)
    (bound : NamedValue.ofJson schema raw = .ok v)
    (hdata : nullable = true → v.payload.isNull = false) :
    (Bind.kindWithin Δ (depth + 1) place (.value schema) nullable v.payload).outcome =
      .ok (some (.named v)) := by
  have hread : NamedValue.ofJson schema v.payload = .ok v :=
    NamedValue.ofJson_payload hregular bound
  cases hpayload : v.payload with
  | null =>
    have hrequired : nullable = false := by
      cases nullable with
      | false => rfl
      | true => simp [hpayload, Json.isNull] at hdata
    subst hrequired
    exact outcome_named (hpayload ▸ hread)
  | _ => exact outcome_named (hpayload ▸ hread)

theorem kindWithin_of_entity {depth : Nat} {place : Step} {nullable : Bool} {ref : EntityRef}
    {raw : Json} {r : Record} (hraw : raw.isNull = false)
    (h : (Bind.entity Δ (fun d f => Bind.kindWithin Δ depth (.field f.name) (d.bindingKind f)
      f.nullable) ref raw).outcome = .ok r) :
    (Bind.kindWithin Δ (depth + 1) place (.entity ref) nullable raw).outcome =
      .ok (some (.ofRecord r)) := by
  simp only [Bind.kindWithin, hraw, Bool.false_eq_true, if_false]
  exact Traced.outcome_bind_of_ok (Traced.outcome_mapError_eq_ok_iff.2 h)

theorem kindWithin_of_collection {depth : Nat} {place : Step} {nullable : Bool}
    {ref : CollectionRef} {raw : Json} {c : Collection} (hraw : raw.isNull = false)
    (h : (Bind.collection Δ (fun kind place => Bind.kindWithin Δ depth place kind false) ref
      raw).outcome = .ok c) :
    (Bind.kindWithin Δ (depth + 1) place (.collection ref) nullable raw).outcome =
      .ok (some (.ofCollection c)) := by
  simp only [Bind.kindWithin, hraw, Bool.false_eq_true, if_false]
  exact Traced.outcome_bind_of_ok (Traced.outcome_mapError_eq_ok_iff.2 h)

theorem Instance.kindWithin_toJson {kind : Kind} {v : FieldValue} (h : Instance Δ kind v)
    (hregular : kind.IsRegularThroughout Δ) (hyears : v.HasPlainYears) {depth : Nat} {place : Step}
    {nullable : Bool} (hdata : nullable = true → v.carriesNoData = false)
    (hdepth : (v.toJson Δ).depth ≤ depth) :
    (Bind.kindWithin Δ (depth + 1) place kind nullable (v.toJson Δ)).outcome =
      .ok (some (v.compact Δ)) := by
  -- The JSON of a part is less deep than that of the whole, so that the depth left is enough for it.
  induction h generalizing depth place nullable with
  | bool | str | float => rfl
  | int i =>
    have hread : Coerce.int? (.int i.toInt) = some i := by
      rw [Coerce.int?, Json.int64?_int, Option.some_or]
      all_goals
        intros
        contradiction
    show (Bind.number .int place nullable (.int i.toInt)
      ((Coerce.int? (.int i.toInt)).map .int)).outcome = _
    rw [hread]
    rfl
  | @dateTime s t read =>
    have hread : DateTime.read? t.text = some t :=
      DateTime.read?_text (DateTime.inRange_of_read? read) (hyears t (.self _))
    exact dateTime_text hread depth place nullable
  | enumCase found => exact enumeration_toJson found place nullable
  | named bound => exact named_toJson hregular.self bound hdata
  | @entity ref slots length nulls parts ih =>
    have hbound : (Bind.entity Δ (fun d f => Bind.kindWithin Δ depth (.field f.name)
        (d.bindingKind f) f.nullable) ref ((FieldValue.entity ref slots).toJson Δ)).outcome =
          .ok ⟨ref, compactSlots Δ (Δ.entity ref).fields slots⟩ := by
      refine entity_toJson hregular.self length fun i f v hf hs hkept hlt => ?_
      have hpart : v ∈ (FieldValue.entity ref slots).parts := mem_parts_entity.2 ⟨i, hs⟩
      obtain ⟨left, rfl⟩ : ∃ left, depth = left + 1 := ⟨depth - 1, by omega⟩
      exact ih i f v hf hs (ne_null_of_kept hkept) (hregular.field hf) (hyears.part hpart)
        (carriesNoData_of_kept hkept) (by omega)
    exact kindWithin_of_entity rfl hbound
  | @collection ref items parts ih =>
    have hbound : (Bind.collection Δ (fun kind place => Bind.kindWithin Δ depth place kind false)
        ref ((FieldValue.collection ref items).toJson Δ)).outcome =
          .ok ⟨ref, compactItems Δ items⟩ := by
      refine collection_toJson parts fun v hv i hlt => ?_
      obtain ⟨left, rfl⟩ : ∃ left, depth = left + 1 := ⟨depth - 1, by omega⟩
      have hrequired : false = true → v.carriesNoData = false := by
        intro h
        cases h
      exact ih v hv hregular.element (hyears.part hv) hrequired (by omega)
    exact kindWithin_of_collection rfl hbound

/-! ## Entities made from data -/

/-- The entities that are made from data or stand for none, and are then changed by further data,
whether these are bound or fail on the way, and by unsetting fields. -/
inductive Record.Loaded (Δ : Catalog) : Record → Prop where
  | bound {ref : EntityRef} {raw : Json} {r : Record}
    (made : (Record.ofJson Δ ref raw).outcome = .ok r) : Loaded Δ r
  | read {ref : EntityRef} {text : String} {r : Record}
    (made : (Record.ofText Δ ref text).outcome = .ok r) : Loaded Δ r
  | initial {ref : EntityRef} {r : Record} (made : (Record.initial Δ ref).outcome = .ok r) :
    Loaded Δ r
  | updated {r : Record} (before : Loaded Δ r) (raw : Json) : Loaded Δ (r.update Δ raw).1
  | unset {r : Record} (before : Loaded Δ r) (name : String) : Loaded Δ (r.unset Δ name)

theorem FillsSlots.of_unset {r : Record} (h : FillsSlots Δ (Δ.entity r.ref) r.slots)
    (name : String) : FillsSlots Δ (Δ.entity (r.unset Δ name).ref) (r.unset Δ name).slots := by
  unfold Record.unset
  split
  · rename_i i hi
    obtain ⟨hlt, -⟩ := List.findIdx?_eq_some_iff_getElem.1 hi
    exact h.set (List.getElem?_eq_getElem hlt) nofun
  · exact h

theorem Record.Loaded.fillsSlots {r : Record} (h : r.Loaded Δ) :
    FillsSlots Δ (Δ.entity r.ref) r.slots := by
  induction h with
  | bound made => exact FillsSlots.of_ref_eq (FillsSlots.of_ofJson made)
  | read made => exact FillsSlots.of_ref_eq (FillsSlots.of_ofText made)
  | initial made => exact FillsSlots.of_ref_eq (FillsSlots.of_initial made)
  | updated _ raw ih => exact ih.update (fun f raw v hv => .of_kindWithin hv) raw
  | unset _ name ih => exact ih.of_unset name

theorem exists_depthFor_eq (raw : Json) :
    ∃ left, Bind.depthFor Δ raw = left + 1 ∧ raw.depth ≤ left := by
  have hbound : raw.depth + 1 ≤ (raw.depth + 1) * (Δ.collections.length + 2) :=
    Nat.le_mul_of_pos_right _ (by omega)
  refine ⟨Bind.depthFor Δ raw - 1, ?_, ?_⟩ <;> rw [Bind.depthFor] <;> omega

theorem FillsSlots.ofJson_toJson {r : Record} (h : FillsSlots Δ (Δ.entity r.ref) r.slots)
    (hregular : (Kind.entity r.ref).IsRegularThroughout Δ) (hyears : (ofRecord r).HasPlainYears) :
    (Record.ofJson Δ r.ref (r.toJson Δ)).outcome =
      .ok ⟨r.ref, compactSlots Δ (Δ.entity r.ref).fields r.slots⟩ := by
  refine entity_toJson hregular.self h.length fun i f v hf hs hkept _ => ?_
  have hinst : Instance Δ ((Δ.entity r.ref).bindingKind f) v :=
    (h.parts i f v hf hs).resolve_left fun hnull => ne_null_of_kept hkept hnull.1
  have hpart : v ∈ (ofRecord r).parts := mem_parts_entity.2 ⟨i, hs⟩
  obtain ⟨left, hleft, hdepth⟩ := exists_depthFor_eq (Δ := Δ) (v.toJson Δ)
  rw [Bind.asField, Bind.asKind, hleft]
  exact hinst.kindWithin_toJson (hregular.field hf) (hyears.part hpart)
    (carriesNoData_of_kept hkept) hdepth

/-- What was bound is equal to its compact record. -/
theorem FillsSlots.same_compact {r : Record} (h : FillsSlots Δ (Δ.entity r.ref) r.slots) :
    (Record.mk r.ref (compactSlots Δ (Δ.entity r.ref).fields r.slots)).same r = true := by
  have hinst : Instance Δ (.entity r.ref) (ofRecord r) := .of_fillsSlots h
  exact hinst.equal_compact

/-- The JSON of an entity made from data binds to an entity that is equal to it and is stored as the
same JSON. -/
theorem ofJson_toJson_of_loaded {r : Record} (h : r.Loaded Δ)
    (hregular : (Kind.entity r.ref).IsRegularThroughout Δ) (hyears : (ofRecord r).HasPlainYears) :
    ∃ r', (Record.ofJson Δ r.ref (r.toJson Δ)).outcome = .ok r' ∧ r'.same r = true ∧
      r'.toJson Δ = r.toJson Δ :=
  ⟨_, h.fillsSlots.ofJson_toJson hregular hyears, h.fillsSlots.same_compact,
    toJson_compact (ofRecord r)⟩

namespace Sample

def task : EntityRef := ⟨"Task", 0⟩

def label : ValueSchema where
  name := "Label"
  normalize
    | .bool _ => .ok .null
    | raw => .ok raw

def tasks : Catalog where
  entities :=
    [⟨[{ name := "title", kind := .str }, { name := "label", kind := .value label, nullable := true },
      { name := "due", kind := .dateTime }, { name := "parts", kind := .collection ⟨"Tasks", 0⟩ }],
      none⟩]
  collections := [⟨.entity task, false⟩]

def leapDay : DateTime := ⟨⟨2024, 2, 29⟩, 12, 30, 0, 0, 0⟩

def planned : Record :=
  ⟨task, [some (.str "1"), some (.named ⟨label, .null⟩), some (.dateTime leapDay),
    some (.collection ⟨"Tasks", 0⟩ [.entity task [some (.str "a"), none, none, none]])]⟩

/-- The task after its label was unset, and after further data that failed behind its parts. -/
def revised : Record :=
  ((planned.unset tasks "label").update tasks (.obj [("parts", .arr []), ("title", .arr [])])).1

end Sample

open Sample in
theorem ofJson_toJson_revised :
    (Record.ofJson tasks task (.obj [("due", .str "2024-02-29T12:30:00Z"), ("label", .bool true),
      ("parts", .obj [("title", .str "a")]), ("title", .int 1)])).outcome = .ok planned ∧
    ∃ r', (Record.ofJson tasks task (revised.toJson tasks)).outcome = .ok r' ∧
      r'.same revised = true ∧ r'.toJson tasks = revised.toJson tasks := by
  have hbound : (Record.ofJson tasks task (.obj [("due", .str "2024-02-29T12:30:00Z"),
      ("label", .bool true), ("parts", .obj [("title", .str "a")]),
      ("title", .int 1)])).outcome = .ok planned := rfl
  have hrevised : ofRecord revised = .entity task [some (.str "1"), none, some (.dateTime leapDay),
      some (.collection ⟨"Tasks", 0⟩ [])] := rfl
  have hlabel : (Kind.value label).IsRegular tasks := by
    intro raw payload hraw h
    cases raw <;> cases h <;> exact ⟨by trivial, rfl⟩
  have htask : (Kind.entity task).IsRegular tasks := by
    show ["title", "label", "due", "parts"].Nodup
    decide
  refine ⟨hbound, ofJson_toJson_of_loaded (.updated (.unset (.bound hbound) "label") _) ?_ ?_⟩
  · refine htask.throughout ?_ ?_
    · simp only [tasks, List.forall_mem_cons]
      exact ⟨⟨trivial, hlabel, trivial, trivial, List.forall_mem_nil _⟩, List.forall_mem_nil _⟩
    · simp only [tasks, List.forall_mem_cons]
      exact ⟨htask, List.forall_mem_nil _⟩
  · show (ofRecord revised).HasPlainYears
    rw [hrevised]
    refine .of_parts (by simp) fun w hw => ?_
    simp only [parts, List.filterMap_cons, id_eq, List.filterMap_nil, List.mem_cons,
      List.not_mem_nil, or_false] at hw
    rcases hw with rfl | rfl | rfl
    · exact .of_parts (by simp) (by simp [parts])
    · refine .of_parts ?_ (by simp [parts])
      intro t ht
      cases ht
      decide
    · exact .of_parts (by simp) (by simp [parts])

end RestRecords
