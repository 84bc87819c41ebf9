import RestRecords.Proofs.Binding.RoundTrip
/-!
# Collections and what they are stored as

Items come into a collection bound from raw data, or as values that are already there. Raw data only
bind to instances of the element kind; of the values, null is let in as well. The JSON of a collection
binds to a collection that is equal to it exactly if there is no null among its items.
-/

namespace RestRecords

def Kind.Alike : Kind → Kind → Prop
  | .bool, .bool | .int, .int | .float, .float | .str, .str | .dateTime, .dateTime => True
  | .enumeration a, .enumeration b => a.name = b.name
  | .value a, .value b => a.name = b.name
  | .entity a, .entity b => a.name = b.name
  | .collection a, .collection b => a.name = b.name
  | _, _ => False

/-- The collections of a declaration that are made from raw data or from given values and changed by
further ones, in any order. -/
inductive Collection.Gathered (Δ : Catalog) (ref : CollectionRef) (Given : FieldValue → Prop) :
    Collection → Prop where
  | empty : Gathered Δ ref Given (Collection.empty ref)
  | bound {raw : Json} {c : Collection} (made : (Collection.ofJson Δ ref raw).outcome = .ok c) :
    Gathered Δ ref Given c
  | read {text : String} {c : Collection}
    (made : (Collection.ofText Δ ref text).outcome = .ok c) : Gathered Δ ref Given c
  | given {items : List FieldValue} {c : Collection} (values : ∀ v ∈ items, Given v)
    (made : Collection.ofItems Δ ref items = .ok c) : Gathered Δ ref Given c
  | pushed {c c' : Collection} {v : FieldValue} (before : Gathered Δ ref Given c)
    (value : Given v) (done : c.push Δ v = .ok c') : Gathered Δ ref Given c'
  | updated {c c' : Collection} {raw : Json} (before : Gathered Δ ref Given c)
    (done : (c.update Δ raw).outcome = .ok c') : Gathered Δ ref Given c'
  | filtered {c : Collection} (before : Gathered Δ ref Given c) (p : FieldValue → Bool) :
    Gathered Δ ref Given (c.filter p)

open FieldValue

variable {Δ : Catalog}

/-! ## Values that are let in -/

/-- A value that may be stored for a kind is an instance of a kind of that name. -/
theorem Instance.alike_of_fits {kind other : Kind} {v : FieldValue} (h : Instance Δ kind v)
    (hfits : v.fits other = true) : kind.Alike other := by
  cases h with
  | enumCase found =>
    cases other with
    | enumeration => simpa [FieldValue.fits, Kind.Alike, schema_of_ofBacking? found] using hfits
    | _ => cases hfits
  | named bound =>
    cases other with
    | value => simpa [FieldValue.fits, Kind.Alike, schema_of_named bound] using hfits
    | _ => cases hfits
  | entity =>
    cases other with
    | entity => simpa [FieldValue.fits, Kind.Alike] using hfits
    | _ => cases hfits
  | collection =>
    cases other with
    | collection => simpa [FieldValue.fits, Kind.Alike] using hfits
    | _ => cases hfits
  | _ => cases other <;> first | exact True.intro | cases hfits

/-- Whatever holds of the instances of the element kind, and of the given values that fit it, holds
of every item. -/
theorem Collection.Gathered.forall_items {ref : CollectionRef} {Given P : FieldValue → Prop}
    {c : Collection} (h : c.Gathered Δ ref Given)
    (hinstance : ∀ v, Instance Δ (Δ.collection ref).element v → P v)
    (hgiven : ∀ v, Given v → v.fits (Δ.collection ref).element = true → P v) :
    c.ref = ref ∧ ∀ v ∈ c.items, P v := by
  have hbound : ∀ {raw c}, (Collection.ofJson Δ ref raw).outcome = .ok c →
      c.ref = ref ∧ ∀ v ∈ c.items, P v := by
    intro raw c made
    obtain ⟨href, hitems⟩ := Instance.of_collectionOfJson made
    exact ⟨href, fun v hv => hinstance v (hitems v hv)⟩
  induction h with
  | empty => exact ⟨rfl, nofun⟩
  | bound made => exact hbound made
  | read made =>
    obtain ⟨raw, made⟩ := ofJson_of_ofText made
    exact hbound made
  | given values made =>
    obtain ⟨rfl, hfits⟩ := fits_of_ofItems made
    exact ⟨rfl, fun v hv => hgiven v (values v hv) (hfits v hv)⟩
  | @pushed c c' v before value done ih =>
    obtain ⟨href, hitems⟩ := ih
    obtain ⟨rfl, hfits⟩ := fits_of_push done
    rw [href] at hfits
    refine ⟨href, fun w hw => ?_⟩
    rcases List.mem_append.1 hw with hw | hw
    · exact hitems w hw
    · obtain rfl := List.mem_singleton.1 hw
      exact hgiven w value hfits
  | updated before done ih => exact hbound (ih.1 ▸ ofJson_of_update done)
  | filtered before p ih => exact ⟨ih.1, fun v hv => ih.2 v (List.mem_filter.1 hv).1⟩

/-! ## Collections that are read back -/

theorem eq_null_of_equal {v : FieldValue} (h : v.equal .null = true) : v = .null := by
  cases v with
  | null => rfl
  | _ => cases h

theorem null_mem_of_equalItems {items items' : List FieldValue}
    (h : equalItems items items' = true) (hnull : .null ∈ items') : .null ∈ items := by
  induction items' generalizing items with
  | nil => cases hnull
  | cons w rest ih =>
    cases items with
    | nil => cases h
    | cons v items =>
      obtain ⟨hfirst, hrest⟩ := Bool.and_eq_true_iff.1 h
      rcases List.mem_cons.1 hnull with rfl | hnull
      · obtain rfl := eq_null_of_equal hfirst
        exact List.mem_cons_self
      · exact List.mem_cons_of_mem v (ih hrest hnull)

theorem Collection.ofJson_toJson_of_instances {c : Collection}
    (h : ∀ v ∈ c.items, Instance Δ (Δ.collection c.ref).element v)
    (hregular : (Δ.collection c.ref).element.IsRegularThroughout Δ)
    (hyears : (ofCollection c).HasPlainYears) :
    (Collection.ofJson Δ c.ref (c.toJson Δ)).outcome = .ok ⟨c.ref, compactItems Δ c.items⟩ := by
  refine collection_toJson h fun v hv i _ => ?_
  have hrequired : false = true → v.carriesNoData = false := by
    intro h
    cases h
  obtain ⟨left, hleft, hdepth⟩ := exists_depthFor_eq (Δ := Δ) (v.toJson Δ)
  rw [Bind.asElement, Bind.asKind, hleft]
  exact (h v hv).kindWithin_toJson hregular (hyears.part hv) hrequired hdepth

theorem Collection.null_notMem_of_same {ref : CollectionRef} {raw : Json} {c c' : Collection}
    (made : (Collection.ofJson Δ ref raw).outcome = .ok c') (h : c'.same c = true) :
    .null ∉ c.items := by
  obtain ⟨-, hinstances⟩ := Instance.of_collectionOfJson made
  obtain ⟨-, hitems⟩ := Bool.and_eq_true_iff.1 h
  intro hnull
  exact (hinstances .null (null_mem_of_equalItems hitems hnull)).ne_null rfl

/-- The items of a collection are instances of its element kind, apart from null where null was
given; its JSON binds to a collection that is equal to it exactly if no item is null. The values that
were given are null or instances of kinds, of which none but the element kind goes by its name. -/
theorem Collection.ofJson_toJson_iff_of_gathered {ref : CollectionRef} {Given : FieldValue → Prop}
    {c : Collection} (h : c.Gathered Δ ref Given)
    (hgiven : ∀ v, Given v → v = .null ∨ ∃ kind, Instance Δ kind v ∧
      (kind.Alike (Δ.collection ref).element → kind = (Δ.collection ref).element))
    (hregular : (Δ.collection ref).element.IsRegularThroughout Δ)
    (hyears : (ofCollection c).HasPlainYears) :
    (∀ v ∈ c.items, Instance Δ (Δ.collection ref).element v ∨ v = .null ∧ Given .null) ∧
      ((∃ c', (Collection.ofJson Δ ref (c.toJson Δ)).outcome = .ok c' ∧ c'.same c = true) ↔
        .null ∉ c.items) := by
  obtain ⟨rfl, hitems⟩ := h.forall_items
    (P := fun v => Instance Δ (Δ.collection ref).element v ∨ v = .null ∧ Given .null)
    (fun v hv => .inl hv) fun v hv hfits => by
      rcases hgiven v hv with rfl | ⟨kind, hinst, hname⟩
      · exact .inr ⟨rfl, hv⟩
      · exact .inl (hname (hinst.alike_of_fits hfits) ▸ hinst)
  refine ⟨hitems, fun ⟨c', made, hsame⟩ => null_notMem_of_same made hsame, fun hnull => ?_⟩
  have hinstances : ∀ v ∈ c.items, Instance Δ (Δ.collection c.ref).element v := by
    intro v hv
    refine (hitems v hv).resolve_right fun hgiven => hnull ?_
    rw [← hgiven.1]
    exact hv
  exact ⟨_, ofJson_toJson_of_instances hinstances hregular hyears,
    (Instance.collection hinstances).equal_compact⟩

namespace Sample

def lines : CollectionRef := ⟨"Lines", 0⟩

/-- A line without a note, as the only item. -/
def basket : Collection := ⟨lines, [.entity line [some (.str "a"), none]]⟩

def noted : FieldValue := .entity line [some (.str "b"), some .null]

def filled : Collection := ⟨lines, [.entity line [some (.str "a"), none], noted]⟩

def tallies : Catalog := ⟨[], [⟨.int, false⟩]⟩

def tally : CollectionRef := ⟨"Tally", 0⟩

theorem instance_noted : Instance shop (.entity line) noted := by
  have hbound : (Record.ofJson shop line (.obj [("note", .null), ("sku", .str "b")])).outcome =
      .ok ⟨line, [some (.str "b"), some .null]⟩ := rfl
  exact .of_fillsSlots (FillsSlots.of_ofJson hbound).2

theorem isRegular_line : (Kind.entity line).IsRegular shop := by
  show ["sku", "note"].Nodup
  decide

/-- What holds of the kinds in a shop holds of all that lines lead to. -/
theorem reaches_line {P : Kind → Prop} {other : Kind} (h : (Kind.entity line).Reaches shop other)
    (hline : P (.entity line)) (hstr : P .str) (hint : P .int) : P other := by
  refine h.induction hline hstr ?_ ?_
  · simp only [shop, List.forall_mem_cons, List.not_mem_nil, false_imp_iff, implies_true, and_true]
    exact ⟨⟨hstr, hstr⟩, hint, hline⟩
  · simp only [shop, List.forall_mem_cons, List.not_mem_nil, false_imp_iff, implies_true, and_true]
    exact hline

end Sample

open Sample in
/-- A line that was given alone, and another one behind it. -/
theorem Collection.ofJson_toJson_filled :
    (Collection.ofJson shop lines (.obj [("sku", .str "a")])).outcome = .ok basket ∧
    basket.push shop noted = .ok filled ∧
    ∃ c', (Collection.ofJson shop lines (filled.toJson shop)).outcome = .ok c' ∧
      c'.same filled = true := by
  have hbound : (Collection.ofJson shop lines (.obj [("sku", .str "a")])).outcome = .ok basket :=
    rfl
  have hpush : basket.push shop noted = .ok filled := rfl
  have hregular : (Kind.entity line).IsRegularThroughout shop :=
    fun other h => reaches_line h isRegular_line trivial trivial
  have hitems : ∀ v ∈ filled.items, Instance shop (.entity line) v := by
    obtain ⟨-, hbasket⟩ := Instance.of_collectionOfJson hbound
    exact List.forall_mem_append.2 ⟨hbasket, List.forall_mem_singleton.2 instance_noted⟩
  have hyears : (ofCollection filled).HasPlainYears := by
    refine .of_parts nofun fun w hw => (hitems w hw).hasPlainYears fun h => ?_
    exact reaches_line (P := (· ≠ .dateTime)) h nofun nofun nofun rfl
  have hgathered : filled.Gathered shop lines (· = noted) := .pushed (.bound hbound) rfl hpush
  obtain ⟨-, hread⟩ := ofJson_toJson_iff_of_gathered hgathered
    (by rintro v rfl; exact .inr ⟨_, instance_noted, fun _ => rfl⟩) hregular hyears
  have hnull : FieldValue.null ∉ filled.items := by simp [filled, noted]
  exact ⟨hbound, hpush, hread.2 hnull⟩

open Sample in
/-- Null is let in by a collection of whole numbers, which cannot be read back then. -/
theorem Collection.not_ofJson_toJson_of_pushed_null :
    ∃ c, (Collection.empty tally).push tallies .null = .ok c ∧ .null ∈ c.items ∧
      (Collection.ofJson tallies tally (c.toJson tallies)).outcome =
        Outcome.fail (.binding ⟨[.index 0], "int", .nullRefused⟩) :=
  ⟨⟨tally, [.null]⟩, rfl, List.mem_cons_self, rfl⟩

end RestRecords
