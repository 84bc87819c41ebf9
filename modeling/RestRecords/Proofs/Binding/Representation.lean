import RestRecords.Proofs.Binding.Instances
/-!
# The representation of values

Every operation leaves an entity with one slot for each declared field, whose value fits the kind
the field is bound as, and with null only where the field allows it; the items of a collection fit
its element kind. This holds for the value itself and for everything inside it.
-/

namespace RestRecords

namespace FieldValue

def parts : FieldValue → List FieldValue
  | .entity _ slots => slots.filterMap id
  | .collection _ items => items
  | _ => []

/-- A value and everything inside it, at every depth. -/
inductive Contains : FieldValue → FieldValue → Prop where
  | self (v : FieldValue) : Contains v v
  | inside {v part w : FieldValue} (direct : part ∈ v.parts) (rest : Contains part w) :
    Contains v w

end FieldValue

/-- One slot for each field, each value of the kind its field is bound as, and null only where the
field allows it. -/
structure FitsSlots (d : EntityDecl) (slots : Slots) : Prop where
  length : slots.length = d.fields.length
  fits : ∀ (i : Nat) (f : FieldSpec) (v : FieldValue), d.fields[i]? = some f →
    slots[i]? = some (some v) → v.fits (d.bindingKind f) = true
  nulls : ∀ (i : Nat) (f : FieldSpec), d.fields[i]? = some f →
    slots[i]? = some (some .null) → f.nullable = true

/-- Whether the values directly inside an entity or a collection are as its declaration says. -/
def FieldValue.IsDeclared (Δ : Catalog) : FieldValue → Prop
  | .entity ref slots => FitsSlots (Δ.entity ref) slots
  | .collection ref items => ∀ v ∈ items, v.fits (Δ.collection ref).element = true
  | _ => True

def FieldValue.WellFormed (Δ : Catalog) (v : FieldValue) : Prop :=
  ∀ w, v.Contains w → w.IsDeclared Δ

variable {Δ : Catalog}

namespace FieldValue

theorem wellFormed_iff {v : FieldValue} :
    v.WellFormed Δ ↔ v.IsDeclared Δ ∧ ∀ part ∈ v.parts, part.WellFormed Δ := by
  constructor
  · intro h
    exact ⟨h v (.self v), fun part hpart w hw => h w (.inside hpart hw)⟩
  · rintro ⟨hself, hparts⟩ w hw
    cases hw with
    | self => exact hself
    | inside hpart hw => exact hparts _ hpart w hw

theorem mem_parts_entity {ref : EntityRef} {slots : Slots} {v : FieldValue} :
    v ∈ (entity ref slots).parts ↔ ∃ i : Nat, slots[i]? = some (some v) := by
  rw [parts, List.mem_filterMap]
  simp only [id_eq, exists_eq_right, List.mem_iff_getElem?]

theorem wellFormed_entity_iff {ref : EntityRef} {slots : Slots} :
    (entity ref slots).WellFormed Δ ↔ FitsSlots (Δ.entity ref) slots ∧
      ∀ (i : Nat) (v : FieldValue), slots[i]? = some (some v) → v.WellFormed Δ := by
  rw [wellFormed_iff]
  refine and_congr_right fun _ => ⟨fun h i v hs => h v (mem_parts_entity.2 ⟨i, hs⟩), ?_⟩
  intro h v hv
  obtain ⟨i, hs⟩ := mem_parts_entity.1 hv
  exact h i v hs

theorem wellFormed_collection_iff {ref : CollectionRef} {items : List FieldValue} :
    (collection ref items).WellFormed Δ ↔
      (∀ v ∈ items, v.fits (Δ.collection ref).element = true) ∧ ∀ v ∈ items, v.WellFormed Δ :=
  wellFormed_iff

theorem WellFormed.of_scalar {v : FieldValue} (hrecord : v.record? = none)
    (hcollection : v.collection? = none) : v.WellFormed Δ := by
  rw [wellFormed_iff]
  cases v with
  | entity => cases hrecord
  | collection => cases hcollection
  | _ => exact ⟨trivial, nofun⟩

theorem WellFormed.part {v w : FieldValue} (h : v.WellFormed Δ) (hw : w ∈ v.parts) :
    w.WellFormed Δ :=
  (wellFormed_iff.1 h).2 w hw

end FieldValue

open FieldValue

/-! ## Values that were bound -/

theorem schema_of_ofBacking? {schema : EnumSchema} {raw : Json} {e : EnumValue}
    (h : schema.ofBacking? raw = some e) : e.schema = schema := by
  obtain ⟨c, -, rfl⟩ := Option.map_eq_some_iff.1 h
  rfl

theorem schema_of_named {schema : ValueSchema} {raw : Json} {v : NamedValue}
    (h : NamedValue.ofJson schema raw = .ok v) : v.schema = schema := by
  unfold NamedValue.ofJson at h
  cases hp : NamedValue.prepare schema raw with
  | error e =>
    rw [hp] at h
    cases h
  | ok payload =>
    rw [hp] at h
    cases h
    rfl

theorem Instance.fits {kind : Kind} {v : FieldValue} (h : Instance Δ kind v) :
    v.fits kind = true := by
  cases h with
  | enumCase found => simp [FieldValue.fits, schema_of_ofBacking? found]
  | named bound => simp [FieldValue.fits, schema_of_named bound]
  | entity => simp [FieldValue.fits]
  | collection => simp [FieldValue.fits]
  | _ => rfl

theorem Fills.fits {kind : Kind} {nullable : Bool} {v : FieldValue}
    (h : Fills Δ kind nullable v) : v.fits kind = true := by
  rcases h with ⟨rfl, -⟩ | h
  · rfl
  · exact h.fits

theorem FillsSlots.fitsSlots {d : EntityDecl} {slots : Slots} (h : FillsSlots Δ d slots) :
    FitsSlots d slots := by
  refine ⟨h.length, fun i f v hf hs => (h.parts i f v hf hs).fits, fun i f hf hs => ?_⟩
  exact (h.parts i f .null hf hs).nullable_of_null

theorem exists_field_of_slot {d : EntityDecl} {slots : Slots} {i : Nat} {v : FieldValue}
    (hlength : slots.length = d.fields.length) (hs : slots[i]? = some (some v)) :
    ∃ f, d.fields[i]? = some f := by
  obtain ⟨hi, -⟩ := List.getElem?_eq_some_iff.1 hs
  exact ⟨_, List.getElem?_eq_getElem (hlength ▸ hi)⟩

theorem Instance.wellFormed {kind : Kind} {v : FieldValue} (h : Instance Δ kind v) :
    v.WellFormed Δ := by
  induction h with
  | @entity ref slots length nulls parts ih =>
    have hfills : FillsSlots Δ (Δ.entity ref) slots :=
      (Instance.entity length nulls parts).fillsSlots
    refine wellFormed_entity_iff.2 ⟨hfills.fitsSlots, fun i v hs => ?_⟩
    obtain ⟨f, hf⟩ := exists_field_of_slot length hs
    by_cases hv : v = .null
    · subst hv
      exact .of_scalar rfl rfl
    · exact ih i f v hf hs hv
  | collection parts ih =>
    exact wellFormed_collection_iff.2 ⟨fun v hv => (parts v hv).fits, ih⟩
  | _ => exact .of_scalar rfl rfl

theorem Fills.wellFormed {kind : Kind} {nullable : Bool} {v : FieldValue}
    (h : Fills Δ kind nullable v) : v.WellFormed Δ := by
  rcases h with ⟨rfl, -⟩ | h
  · exact .of_scalar rfl rfl
  · exact h.wellFormed

theorem FillsSlots.wellFormed {ref : EntityRef} {slots : Slots}
    (h : FillsSlots Δ (Δ.entity ref) slots) : (FieldValue.entity ref slots).WellFormed Δ := by
  refine wellFormed_entity_iff.2 ⟨h.fitsSlots, fun i v hs => ?_⟩
  obtain ⟨f, hf⟩ := exists_field_of_slot h.length hs
  exact (h.parts i f v hf hs).wellFormed

/-! ## Slots that change -/

theorem FitsSlots.set {d : EntityDecl} {slots : Slots} (h : FitsSlots d slots) {i : Nat}
    {f : FieldSpec} (hf : d.fields[i]? = some f) {slot : Option FieldValue}
    (hfits : ∀ v, slot = some v → v.fits (d.bindingKind f) = true)
    (hnull : slot = some .null → f.nullable = true) : FitsSlots d (slots.set i slot) := by
  refine ⟨by rw [List.length_set, h.length], fun j g v hg hs => ?_, fun j g hg hs => ?_⟩
  all_goals
    rw [List.getElem?_set] at hs
    split at hs
  · obtain rfl : f = g := by simp_all
    exact hfits v (by simp_all)
  · exact h.fits j g v hg hs
  · obtain rfl : f = g := by simp_all
    exact hnull (by simp_all)
  · exact h.nulls j g hg hs

theorem FieldValue.WellFormed.setSlot {ref : EntityRef} {slots : Slots}
    (h : (FieldValue.entity ref slots).WellFormed Δ) {i : Nat} {f : FieldSpec}
    (hf : (Δ.entity ref).fields[i]? = some f) {slot : Option FieldValue}
    (hfits : ∀ v, slot = some v → v.fits ((Δ.entity ref).bindingKind f) = true)
    (hnull : slot = some .null → f.nullable = true) (hslot : ∀ v, slot = some v → v.WellFormed Δ) :
    (FieldValue.entity ref (slots.set i slot)).WellFormed Δ := by
  obtain ⟨hself, hparts⟩ := wellFormed_entity_iff.1 h
  refine wellFormed_entity_iff.2 ⟨hself.set hf hfits hnull, fun j v hs => ?_⟩
  rw [List.getElem?_set] at hs
  split at hs
  · exact hslot v (by simp_all)
  · exact hparts j v hs

theorem FieldValue.WellFormed.update {r : Record} (h : (ofRecord r).WellFormed Δ) (raw : Json) :
    (ofRecord (r.update Δ raw).1).WellFormed Δ := by
  refine Bind.update_induction (P := fun slots => (entity r.ref slots).WellFormed Δ)
    (fun {slots i f raw v} hslots hf hv => ?_) h raw
  have hfills : Fills Δ ((Δ.entity r.ref).bindingKind f) f.nullable v := .of_kindWithin hv
  refine hslots.setSlot hf ?_ ?_ ?_
  · rintro w ⟨⟩
    exact hfills.fits
  · rintro ⟨⟩
    exact hfills.nullable_of_null
  · rintro w ⟨⟩
    exact hfills.wellFormed

theorem getElem?_index? {d : EntityDecl} {name : String} {i : Nat} {f : FieldSpec}
    (hi : d.index? name = some i) (hf : d.field? name = some f) : d.fields[i]? = some f := by
  rw [EntityDecl.field?, List.find?_eq_bind_findIdx?_getElem?] at hf
  rw [EntityDecl.index?] at hi
  rwa [hi] at hf

theorem index?_of_nodup {d : EntityDecl} (hnames : (d.fields.map FieldSpec.name).Nodup) {i : Nat}
    {f : FieldSpec} (hf : d.fields[i]? = some f) : d.index? f.name = some i := by
  obtain ⟨hi, rfl⟩ := List.getElem?_eq_some_iff.1 hf
  rw [EntityDecl.index?, List.findIdx?_eq_some_iff_getElem]
  refine ⟨hi, beq_self_eq_true _, fun j hj hname => ?_⟩
  have hne := List.pairwise_iff_getElem.1 hnames j i (by simp; omega) (by simpa using hi) hj
  simp only [List.getElem_map] at hne
  exact hne (beq_iff_eq.1 hname)

theorem FieldValue.WellFormed.set {r r' : Record} {name : String} {v : FieldValue}
    (h : (ofRecord r).WellFormed Δ) (hv : v.WellFormed Δ) (hset : r.set Δ name v = .ok r') :
    (ofRecord r').WellFormed Δ := by
  simp only [Record.set] at hset
  split at hset
  · rename_i i f hi hf
    split at hset
    · cases hset
    split at hset
    · cases hset
    rename_i hnull hfits
    cases hset
    refine FieldValue.WellFormed.setSlot h (getElem?_index? hi hf) ?_ ?_ ?_
    · rintro w ⟨⟩
      simpa using hfits
    · rintro ⟨⟩
      simpa [isNull] using hnull
    · rintro w ⟨⟩
      exact hv
  · cases hset

theorem FieldValue.WellFormed.unset {r : Record} (h : (ofRecord r).WellFormed Δ) (name : String) :
    (ofRecord (r.unset Δ name)).WellFormed Δ := by
  unfold Record.unset
  split
  · rename_i i hi
    obtain ⟨hlt, -⟩ := List.findIdx?_eq_some_iff_getElem.1 hi
    exact FieldValue.WellFormed.setSlot h (List.getElem?_eq_getElem hlt) nofun nofun nofun
  · exact h

/-! ## Collections that change -/

theorem fits_of_ofItems {ref : CollectionRef} {items : List FieldValue} {c : Collection}
    (h : Collection.ofItems Δ ref items = .ok c) :
    c = ⟨ref, items⟩ ∧ ∀ v ∈ items, v.fits (Δ.collection ref).element = true := by
  simp only [Collection.ofItems] at h
  split at h
  · cases h
  · rename_i hnone
    cases h
    refine ⟨rfl, fun v hv => ?_⟩
    simpa using List.findIdx?_eq_none_iff.1 hnone v hv

theorem fits_of_push {c c' : Collection} {v : FieldValue} (h : c.push Δ v = .ok c') :
    c' = ⟨c.ref, c.items ++ [v]⟩ ∧ v.fits (Δ.collection c.ref).element = true := by
  simp only [Collection.push] at h
  split at h
  · cases h
  split at h
  · cases h
  rename_i hfits
  cases h
  exact ⟨rfl, by simpa using hfits⟩

theorem ofJson_of_update {c c' : Collection} {raw : Json}
    (h : (c.update Δ raw).outcome = .ok c') : (Collection.ofJson Δ c.ref raw).outcome = .ok c' := by
  unfold Collection.update at h
  split at h
  · cases h
  · exact h

theorem ofJson_of_ofText {ref : CollectionRef} {text : String} {c : Collection}
    (h : (Collection.ofText Δ ref text).outcome = .ok c) :
    ∃ raw, (Collection.ofJson Δ ref raw).outcome = .ok c := by
  unfold Collection.ofText at h
  split at h
  · exact ⟨_, h⟩
  · cases h

theorem FieldValue.WellFormed.ofItems {ref : CollectionRef} {items : List FieldValue}
    {c : Collection} (hitems : ∀ v ∈ items, v.WellFormed Δ)
    (h : Collection.ofItems Δ ref items = .ok c) : (ofCollection c).WellFormed Δ := by
  obtain ⟨rfl, hfits⟩ := fits_of_ofItems h
  exact wellFormed_collection_iff.2 ⟨hfits, hitems⟩

theorem FieldValue.WellFormed.push {c c' : Collection} {v : FieldValue}
    (h : (ofCollection c).WellFormed Δ) (hv : v.WellFormed Δ) (hpush : c.push Δ v = .ok c') :
    (ofCollection c').WellFormed Δ := by
  obtain ⟨rfl, hfits⟩ := fits_of_push hpush
  obtain ⟨hself, hparts⟩ := wellFormed_collection_iff.1 h
  refine wellFormed_collection_iff.2 ⟨fun w hw => ?_, fun w hw => ?_⟩
  all_goals rcases List.mem_append.1 hw with hw | hw
  · exact hself w hw
  · obtain rfl := List.mem_singleton.1 hw
    exact hfits
  · exact hparts w hw
  · obtain rfl := List.mem_singleton.1 hw
    exact hv

theorem FieldValue.WellFormed.filter {c : Collection} (h : (ofCollection c).WellFormed Δ)
    (p : FieldValue → Bool) : (ofCollection (c.filter p)).WellFormed Δ := by
  obtain ⟨hself, hparts⟩ := wellFormed_collection_iff.1 h
  refine wellFormed_collection_iff.2 ⟨fun v hv => ?_, fun v hv => ?_⟩
  · exact hself v (List.mem_filter.1 hv).1
  · exact hparts v (List.mem_filter.1 hv).1

theorem FieldValue.WellFormed.of_collectionOfJson {ref : CollectionRef} {raw : Json}
    {c : Collection} (h : (Collection.ofJson Δ ref raw).outcome = .ok c) :
    (ofCollection c).WellFormed Δ := by
  obtain ⟨rfl, hitems⟩ := Instance.of_collectionOfJson h
  exact (Instance.collection hitems).wellFormed

/-! ## Whatever the operations yield -/

/-- The values that the operations yield, in any order and however often they are applied. Updates
count whether they succeed or fail on the way. -/
inductive Obtainable (Δ : Catalog) : FieldValue → Prop where
  | scalar {v : FieldValue} (notRecord : v.record? = none) (notCollection : v.collection? = none) :
    Obtainable Δ v
  | emptyRecord (ref : EntityRef) : Obtainable Δ (ofRecord (Record.empty Δ ref))
  | initialRecord {ref : EntityRef} {r : Record}
    (made : (Record.initial Δ ref).outcome = .ok r) : Obtainable Δ (ofRecord r)
  | boundRecord {ref : EntityRef} {raw : Json} {r : Record}
    (bound : (Record.ofJson Δ ref raw).outcome = .ok r) : Obtainable Δ (ofRecord r)
  | readRecord {ref : EntityRef} {text : String} {r : Record}
    (read : (Record.ofText Δ ref text).outcome = .ok r) : Obtainable Δ (ofRecord r)
  | updatedRecord {r : Record} (before : Obtainable Δ (ofRecord r)) (raw : Json) :
    Obtainable Δ (ofRecord (r.update Δ raw).1)
  | setRecord {r r' : Record} {name : String} {v : FieldValue}
    (before : Obtainable Δ (ofRecord r)) (value : Obtainable Δ v)
    (done : r.set Δ name v = .ok r') : Obtainable Δ (ofRecord r')
  | unsetRecord {r : Record} (before : Obtainable Δ (ofRecord r)) (name : String) :
    Obtainable Δ (ofRecord (r.unset Δ name))
  | emptyCollection (ref : CollectionRef) : Obtainable Δ (ofCollection (Collection.empty ref))
  | boundCollection {ref : CollectionRef} {raw : Json} {c : Collection}
    (bound : (Collection.ofJson Δ ref raw).outcome = .ok c) : Obtainable Δ (ofCollection c)
  | readCollection {ref : CollectionRef} {text : String} {c : Collection}
    (read : (Collection.ofText Δ ref text).outcome = .ok c) : Obtainable Δ (ofCollection c)
  | collected {ref : CollectionRef} {items : List FieldValue} {c : Collection}
    (values : ∀ v ∈ items, Obtainable Δ v) (done : Collection.ofItems Δ ref items = .ok c) :
    Obtainable Δ (ofCollection c)
  | updatedCollection {c c' : Collection} {raw : Json} (before : Obtainable Δ (ofCollection c))
    (done : (c.update Δ raw).outcome = .ok c') : Obtainable Δ (ofCollection c')
  | pushed {c c' : Collection} {v : FieldValue} (before : Obtainable Δ (ofCollection c))
    (value : Obtainable Δ v) (done : c.push Δ v = .ok c') : Obtainable Δ (ofCollection c')
  | filtered {c : Collection} (before : Obtainable Δ (ofCollection c)) (p : FieldValue → Bool) :
    Obtainable Δ (ofCollection (c.filter p))
  | part {v w : FieldValue} (whole : Obtainable Δ v) (inside : w ∈ v.parts) : Obtainable Δ w

theorem Obtainable.wellFormed {v : FieldValue} (h : Obtainable Δ v) : v.WellFormed Δ := by
  induction h with
  | scalar notRecord notCollection => exact .of_scalar notRecord notCollection
  | emptyRecord ref => exact (FillsSlots.unset (Δ.entity ref)).wellFormed
  | initialRecord made => exact (FillsSlots.of_ref_eq (FillsSlots.of_initial made)).wellFormed
  | boundRecord bound => exact (FillsSlots.of_ref_eq (FillsSlots.of_ofJson bound)).wellFormed
  | readRecord read => exact (FillsSlots.of_ref_eq (FillsSlots.of_ofText read)).wellFormed
  | updatedRecord _ raw ih => exact ih.update raw
  | setRecord _ _ done ih ihv => exact ih.set ihv done
  | unsetRecord _ name ih => exact ih.unset name
  | emptyCollection ref => exact wellFormed_collection_iff.2 ⟨nofun, nofun⟩
  | boundCollection bound => exact .of_collectionOfJson bound
  | readCollection read =>
    obtain ⟨raw, bound⟩ := ofJson_of_ofText read
    exact .of_collectionOfJson bound
  | collected _ done ih => exact .ofItems ih done
  | updatedCollection _ done _ => exact .of_collectionOfJson (ofJson_of_update done)
  | pushed _ _ done ih ihv => exact ih.push ihv done
  | filtered _ p ih => exact ih.filter p
  | part _ inside ih => exact ih.part inside

/-- Whatever the operations yield, it and everything inside it, at every depth, is as its own
declaration says. -/
theorem isDeclared_of_obtainable {v w : FieldValue} (h : Obtainable Δ v) (hw : v.Contains w) :
    w.IsDeclared Δ :=
  h.wellFormed w hw

namespace Sample

def line : EntityRef := ⟨"Line", 0⟩

def order : EntityRef := ⟨"Order", 1⟩

/-- An order of one line, which is bound in the place of its content. -/
def shop : Catalog where
  entities :=
    [⟨[{ name := "sku", kind := .str }, { name := "note", kind := .str, nullable := true }], none⟩,
      ⟨[{ name := "number", kind := .int }, { name := "content", kind := .collection ⟨"Lines", 0⟩ }],
        some (.entity line)⟩]
  collections := [⟨.entity line, false⟩]

def placed : Record := ⟨order, [some (.int 7), some (.entity line [some (.str "a"), none])]⟩

/-- Further data for an order, which fail at the second entry. -/
def amendment : Json :=
  .obj [("content", .obj [("note", .null), ("sku", .int 5)]), ("number", .arr [])]

end Sample

open Sample in
/-- An order whose update failed behind the new line. -/
theorem isDeclared_line_of_failed_update :
    (Record.ofJson shop order
      (.obj [("content", .obj [("sku", .str "a")]), ("number", .str "7")])).outcome = .ok placed ∧
    (placed.update shop amendment).2.outcome ≠ .ok () ∧
    (FieldValue.entity line [some (.str "5"), some .null]).IsDeclared shop := by
  have hbound : (Record.ofJson shop order
      (.obj [("content", .obj [("sku", .str "a")]), ("number", .str "7")])).outcome = .ok placed :=
    rfl
  have hupdated : (placed.update shop amendment).1 =
      ⟨order, [some (.int 7), some (.entity line [some (.str "5"), some .null])]⟩ := rfl
  have hfailed : (placed.update shop amendment).2.outcome ≠ .ok () := nofun
  refine ⟨hbound, hfailed, isDeclared_of_obtainable (.updatedRecord (.boundRecord hbound) amendment)
    ?_⟩
  rw [hupdated]
  exact .inside (by simp [ofRecord, parts]) (.self _)

end RestRecords
