import RestRecords.Proofs.Binding.Faults
import RestRecords.Proofs.Binding.StoredForm
import RestRecords.Proofs.Binding.Update
/-!
# What an update means

An update gives each field that it mentions the value that the entry of this field binds to by itself,
whatever the other entries are and whatever the entity held before. So an update that is repeated
changes nothing, updates of different fields can be swapped or made as one, and where an update fails
it has done what the update with the entries up to the failure does.
-/

namespace RestRecords

/-- The entries of a map that are for declared fields. -/
def EntityDecl.declared (d : EntityDecl) (m : List (String × Json)) : List (String × Json) :=
  m.filter fun e => (d.index? e.1).isSome

/-- The entries of a map whose keys come before `key`. -/
def Json.before (m : List (String × Json)) (key : String) : List (String × Json) :=
  m.filter (·.1 < key)

def EntityDecl.BindsAll (Δ : Catalog) (d : EntityDecl) (m : List (String × Json)) : Prop :=
  ∀ f ∈ d.fields, ∀ raw, (f.name, raw) ∈ m → ∃ v, (Bind.asField Δ d f raw).outcome = .ok v

/-- Whether raw data for a field are the backing value of an enumeration that has no such case. -/
def EntityDecl.IsUnknownCase (d : EntityDecl) (f : FieldSpec) (raw : Json) : Prop :=
  ∃ schema, d.bindingKind f = .enumeration schema ∧ schema.ofBacking? raw = none ∧
    (raw.isNull && f.nullable) = false

namespace Record

/-- The entity after an update with the entries of a map. -/
def after (Δ : Catalog) (r : Record) (m : List (String × Json)) : Record :=
  (r.update Δ (.obj m)).1

/-- How an update with the entries of a map ends. -/
def ending (Δ : Catalog) (r : Record) (m : List (String × Json)) : Outcome Unit :=
  (r.update Δ (.obj m)).2.outcome

/-- Whether `r'` is `r` with all entries of a map put into it: each field for which there is an entry
has the value that this entry binds to by itself, unless the entry is for an unknown case, and each
other field has the value it had. -/
structure Merges (Δ : Catalog) (r : Record) (m : List (String × Json)) (r' : Record) : Prop where
  ref : r'.ref = r.ref
  length : r'.slots.length = r.slots.length
  bound : ∀ f ∈ (Δ.entity r.ref).fields, ∀ raw, (f.name, raw) ∈ m →
    ∃ v, (Bind.asField Δ (Δ.entity r.ref) f raw).outcome = .ok v ∧
      r'.get? Δ f.name = v.or (r.get? Δ f.name) ∧
      (v = none ↔ (Δ.entity r.ref).IsUnknownCase f raw)
  kept : ∀ f ∈ (Δ.entity r.ref).fields, f.name ∉ m.map Prod.fst →
    r'.get? Δ f.name = r.get? Δ f.name

end Record

namespace Bind

variable {bindField : FieldSpec → Json → Traced (Option FieldValue)} {d : EntityDecl}
  {a b m done : List (String × Json)} {i : Nat} {f : FieldSpec} {key : String} {raw : Json}

theorem name_of_index? (hi : d.index? key = some i) (hf : d.fields[i]? = some f) :
    f.name = key := by
  obtain ⟨hlt, hname, -⟩ := List.findIdx?_eq_some_iff_getElem.1 hi
  obtain ⟨-, rfl⟩ := List.getElem?_eq_some_iff.1 hf
  exact beq_iff_eq.1 hname

theorem index?_of_boundAt? {e : String × Json} {v : FieldValue}
    (h : boundAt? bindField d i e = some v) : d.index? e.1 = some i := by
  unfold boundAt? at h
  split at h
  · assumption
  · cases h

/-! ## One entry for each field -/

def Unambiguous (d : EntityDecl) (m : List (String × Json)) : Prop :=
  ∀ e ∈ m, ∀ e' ∈ m, e.1 = e'.1 → (d.index? e.1).isSome → e = e'

theorem Unambiguous.of_ascends (d : EntityDecl) (h : Json.Ascends m) : Unambiguous d m := by
  intro e he e' he' hkey _
  obtain ⟨i, hi, rfl⟩ := List.getElem_of_mem he
  obtain ⟨j, hj, rfl⟩ := List.getElem_of_mem he'
  rcases Nat.lt_trichotomy i j with hlt | rfl | hlt
  · have hless := List.pairwise_iff_getElem.1 h i j hi hj hlt
    rw [hkey] at hless
    exact absurd hless (String.lt_irrefl _)
  · rfl
  · have hless := List.pairwise_iff_getElem.1 h j i hj hi hlt
    rw [hkey] at hless
    exact absurd hless (String.lt_irrefl _)

theorem Unambiguous.append (ha : Unambiguous d a) (hb : Unambiguous d b)
    (hdisjoint : ∀ e ∈ a, ∀ e' ∈ b, e.1 = e'.1 → (d.index? e.1).isSome → e = e') :
    Unambiguous d (a ++ b) := by
  intro e he e' he' hkey hdeclared
  rcases List.mem_append.1 he with he | he <;> rcases List.mem_append.1 he' with he' | he'
  · exact ha e he e' he' hkey hdeclared
  · exact hdisjoint e he e' he' hkey hdeclared
  · exact (hdisjoint e' he' e he hkey.symm (hkey ▸ hdeclared)).symm
  · exact hb e he e' he' hkey hdeclared

theorem Unambiguous.mem_sortEntries_iff (h : Unambiguous d m) {e : String × Json}
    (hdeclared : (d.index? e.1).isSome) : e ∈ Json.sortEntries m ↔ e ∈ m := by
  refine ⟨Json.mem_of_mem_sortEntries, fun he => ?_⟩
  have hkey := Json.mem_keys_sortEntries.2 (List.mem_map_of_mem he)
  obtain ⟨e', he', heq⟩ := List.mem_map.1 hkey
  obtain rfl := h e he e' (Json.mem_of_mem_sortEntries he') heq.symm hdeclared
  exact he'

theorem lastBoundAt?_eq_some_iff (h : Unambiguous d m) {v : FieldValue} :
    lastBoundAt? bindField d i m = some v ↔ ∃ e ∈ m, boundAt? bindField d i e = some v := by
  constructor
  · exact fun hlast => List.mem_filterMap.1 (List.mem_of_getLast? hlast)
  · rintro ⟨e, he, hv⟩
    have hmem : v ∈ m.filterMap (boundAt? bindField d i) := List.mem_filterMap.2 ⟨e, he, hv⟩
    obtain ⟨w, hlast⟩ : ∃ w, lastBoundAt? bindField d i m = some w :=
      ⟨_, List.getLast?_eq_some_getLast (List.ne_nil_of_mem hmem)⟩
    obtain ⟨e', he', hw⟩ := List.mem_filterMap.1 (List.mem_of_getLast? hlast)
    have hindex := index?_of_boundAt? hv
    have hindex' := index?_of_boundAt? hw
    obtain ⟨g, hg⟩ := exists_field_of_index? hindex
    have hkey : e.1 = e'.1 := (name_of_index? hindex hg).symm.trans (name_of_index? hindex' hg)
    obtain rfl := h e he e' he' hkey (by rw [hindex]; rfl)
    rw [hlast, ← hw, hv]

theorem lastBoundAt?_of_mem (h : Unambiguous d m) (hi : d.index? key = some i)
    (hf : d.fields[i]? = some f) (hmem : (key, raw) ∈ m) {v : Option FieldValue}
    (hv : (bindField f raw).outcome = .ok v) : lastBoundAt? bindField d i m = v := by
  have hbound := boundAt?_of_declared hi hf hv i
  rw [if_pos rfl] at hbound
  apply Option.ext
  intro w
  rw [lastBoundAt?_eq_some_iff h]
  constructor
  · rintro ⟨e, he, hw⟩
    have hkey : e.1 = key :=
      (name_of_index? (index?_of_boundAt? hw) hf).symm.trans (name_of_index? hi hf)
    obtain rfl := h e he (key, raw) hmem hkey (by rw [index?_of_boundAt? hw]; rfl)
    exact hbound.symm.trans hw
  · rintro rfl
    exact ⟨(key, raw), hmem, hbound⟩

theorem lastBoundAt?_of_not_mem (hi : d.index? key = some i) (hkey : key ∉ m.map Prod.fst) :
    lastBoundAt? bindField d i m = none := by
  rw [Option.eq_none_iff_forall_ne_some]
  intro v hlast
  obtain ⟨e, he, hv⟩ := List.mem_filterMap.1 (List.mem_of_getLast? hlast)
  obtain ⟨f, hf⟩ := exists_field_of_index? hi
  have hname : e.1 = key :=
    (name_of_index? (index?_of_boundAt? hv) hf).symm.trans (name_of_index? hi hf)
  exact hkey (hname ▸ List.mem_map_of_mem he)

theorem settled_congr (ha : Unambiguous d a) (hb : Unambiguous d b)
    (hmem : ∀ e, (d.index? e.1).isSome → (e ∈ a ↔ e ∈ b)) (slots : Slots) :
    settled bindField d a slots = settled bindField d b slots := by
  have hlast (i : Nat) : lastBoundAt? bindField d i a = lastBoundAt? bindField d i b := by
    apply Option.ext
    intro v
    rw [lastBoundAt?_eq_some_iff ha, lastBoundAt?_eq_some_iff hb]
    refine exists_congr fun e => and_congr_left fun hv => hmem e ?_
    rw [index?_of_boundAt? hv]
    rfl
  simp only [settled, hlast]

theorem settled_settled (a b : List (String × Json)) (slots : Slots) :
    settled bindField d b (settled bindField d a slots) = settled bindField d (a ++ b) slots := by
  have hlast (i : Nat) : lastBoundAt? bindField d i (a ++ b) =
      (lastBoundAt? bindField d i b).or (lastBoundAt? bindField d i a) := by
    rw [lastBoundAt?, List.filterMap_append, List.getLast?_append]
    rfl
  apply List.ext_getElem?
  intro i
  rw [getElem?_settled, getElem?_settled, getElem?_settled, Option.map_map, hlast]
  congr 1
  funext old
  rw [Function.comp_apply, Option.or_assoc]

/-! ## Passing -/

theorem passes_of_mem_declared (h : ∀ e ∈ m, Passes bindField d e) :
    ∀ e ∈ d.declared m, Passes bindField d e :=
  fun e he => h e (List.mem_filter.1 he).1

theorem StopsAfter.declared {x : Failure} (h : StopsAfter bindField d x m done) :
    StopsAfter bindField d x (d.declared m) (d.declared done) := by
  cases h with
  | @stop _ rest entry i f passed index field fails =>
    have hentry : (d.index? entry.1).isSome := by
      rw [index]
      rfl
    have hsplit : d.declared (done ++ entry :: rest) =
        d.declared done ++ entry :: d.declared rest := by
      simp only [EntityDecl.declared, List.filter_append, List.filter_cons, hentry, if_true]
    rw [hsplit]
    exact .stop (passes_of_mem_declared passed) index field fails

theorem StopsAfter.exists_eq_before {x : Failure} (h : StopsAfter bindField d x m done)
    (hm : Json.Ascends m) : ∃ (i : Nat) (f : FieldSpec) (raw : Json), d.fields[i]? = some f ∧
      (f.name, raw) ∈ m ∧ (bindField f raw).outcome = .error x ∧ done = Json.before m f.name ∧
        ∀ e ∈ done, Passes bindField d e := by
  cases h with
  | @stop _ rest entry i f passed index field fails =>
    obtain ⟨key, raw⟩ := entry
    obtain rfl := name_of_index? index field
    obtain ⟨-, hlast, hfirst⟩ := List.pairwise_append.1 hm
    have hdone : done.filter (·.1 < f.name) = done :=
      List.filter_eq_self.2 fun e he =>
        decide_eq_true (hfirst e he (f.name, raw) List.mem_cons_self)
    have hrest : ((f.name, raw) :: rest).filter (·.1 < f.name) = [] := by
      refine List.filter_eq_nil_iff.2 fun e he hless => ?_
      have hless := of_decide_eq_true hless
      rcases List.mem_cons.1 he with rfl | he
      · exact String.lt_irrefl _ hless
      · exact String.lt_asymm hless ((List.pairwise_cons.1 hlast).1 e he)
    refine ⟨i, f, raw, field, List.mem_append_right _ List.mem_cons_self, fails, ?_, passed⟩
    rw [Json.before, List.filter_append, hdone, hrest, List.append_nil]

theorem StopsAfter.ascends {x : Failure} (h : StopsAfter bindField d x m done)
    (hm : Json.Ascends m) : Json.Ascends done := by
  cases h with
  | stop => exact (List.pairwise_append.1 hm).1

/-! ## Unknown cases -/

theorem outcome_enumeration_eq_ok_none_iff {schema : EnumSchema} {place : Step} {nullable : Bool} :
    (enumeration schema place nullable raw).outcome = .ok none ↔
      schema.ofBacking? raw = none ∧ (raw.isNull && nullable) = false := by
  unfold enumeration
  cases hnull : raw.isNull && nullable with
  | true => simp
  | false => cases schema.ofBacking? raw <;> simp [Except.bind]

/-- Only an unknown case binds to nothing. -/
theorem outcome_asField_eq_ok_none_iff {Δ : Catalog} :
    (asField Δ d f raw).outcome = .ok none ↔ d.IsUnknownCase f raw := by
  have henumeration {schema : EnumSchema} (h : d.bindingKind f = .enumeration schema) :
      asField Δ d f raw = enumeration schema (.field f.name) f.nullable raw := by
    rw [asField, h]
    rfl
  constructor
  · intro hnone
    obtain ⟨schema, hkind⟩ := kind_of_kindWithin_ok_none hnone
    rw [henumeration hkind, outcome_enumeration_eq_ok_none_iff] at hnone
    exact ⟨schema, hkind, hnone⟩
  · rintro ⟨schema, hkind, hunknown⟩
    rw [henumeration hkind, outcome_enumeration_eq_ok_none_iff]
    exact hunknown

theorem settled_declared (hm : Json.Ascends m) (slots : Slots) :
    settled bindField d (d.declared m) slots = settled bindField d m slots := by
  refine settled_congr (.of_ascends d (hm.filter _)) (.of_ascends d hm) (fun e hdeclared => ?_) slots
  exact List.mem_filter.trans (and_iff_left hdeclared)

theorem settled_again (hm : Json.Ascends m) (slots : Slots) :
    settled bindField d m (settled bindField d m slots) = settled bindField d m slots := by
  have hunique := Unambiguous.of_ascends d hm
  rw [settled_settled]
  refine settled_congr (hunique.append hunique hunique) hunique (fun e _ => ?_) slots
  rw [List.mem_append, or_self]

end Bind

variable {Δ : Catalog}

theorem EntityDecl.bindsAll_iff {d : EntityDecl} {m : List (String × Json)}
    (hnames : (d.fields.map FieldSpec.name).Nodup) :
    d.BindsAll Δ m ↔ ∀ e ∈ m, Bind.Passes (Bind.asField Δ d) d e := by
  constructor
  · rintro h ⟨key, raw⟩ he i f hi hf
    obtain rfl := Bind.name_of_index? hi hf
    exact h f (List.mem_of_getElem? hf) raw he
  · intro h f hf raw he
    obtain ⟨i, hi⟩ := List.getElem?_of_mem hf
    exact h (f.name, raw) he i f (index?_of_nodup hnames hi) hi

namespace Record

variable {r : Record} {m a b : List (String × Json)}

theorem after_of_passes (ref : EntityRef) (slots : Slots)
    (h : ∀ e ∈ m, Bind.Passes (Bind.asField Δ (Δ.entity ref)) (Δ.entity ref) e) :
    (Record.mk ref slots).ending Δ m = .ok () ∧ (Record.mk ref slots).after Δ m =
      ⟨ref, Bind.settled (Bind.asField Δ (Δ.entity ref)) (Δ.entity ref) m slots⟩ := by
  obtain ⟨houtcome, hslots⟩ := Bind.assign_of_passes ref h slots
  exact ⟨houtcome, congrArg (Record.mk ref) hslots⟩

theorem after_of_stopsAfter {ref : EntityRef} {x : Failure} {done : List (String × Json)}
    (h : Bind.StopsAfter (Bind.asField Δ (Δ.entity ref)) (Δ.entity ref) x m done) (slots : Slots) :
    (Record.mk ref slots).ending Δ m = .error x ∧ (Record.mk ref slots).after Δ m =
      ⟨ref, Bind.settled (Bind.asField Δ (Δ.entity ref)) (Δ.entity ref) done slots⟩ := by
  obtain ⟨houtcome, hslots⟩ := Bind.assign_of_stopsAfter ref h slots
  exact ⟨houtcome, congrArg (Record.mk ref) hslots⟩

theorem passes_of_ending (h : r.ending Δ m = .ok ()) :
    ∀ e ∈ m, Bind.Passes (Bind.asField Δ (Δ.entity r.ref)) (Δ.entity r.ref) e := by
  rcases Bind.forall_passes_or_stopsAfter (Bind.asField Δ (Δ.entity r.ref)) (Δ.entity r.ref) m with
    hall | ⟨x, done, hstop⟩
  · exact hall
  · rw [(after_of_stopsAfter hstop r.slots).1] at h
    cases h

theorem after_declared (hm : Json.Ascends m) :
    r.after Δ ((Δ.entity r.ref).declared m) = r.after Δ m ∧
      r.ending Δ ((Δ.entity r.ref).declared m) = r.ending Δ m := by
  obtain ⟨ref, slots⟩ := r
  rcases Bind.forall_passes_or_stopsAfter (Bind.asField Δ (Δ.entity ref)) (Δ.entity ref) m with
    hall | ⟨x, done, hstop⟩
  · obtain ⟨hending, hafter⟩ := after_of_passes ref slots hall
    obtain ⟨hending', hafter'⟩ := after_of_passes ref slots (Bind.passes_of_mem_declared hall)
    exact ⟨by rw [hafter', hafter, Bind.settled_declared hm], hending'.trans hending.symm⟩
  · obtain ⟨hending, hafter⟩ := after_of_stopsAfter hstop slots
    obtain ⟨hending', hafter'⟩ := after_of_stopsAfter hstop.declared slots
    have hdone := hstop.ascends hm
    exact ⟨by rw [hafter', hafter, Bind.settled_declared hdone], hending'.trans hending.symm⟩

/-- An update that is made again ends as before and changes nothing. -/
theorem after_after (hm : Json.Ascends m) :
    (r.after Δ m).after Δ m = r.after Δ m ∧ (r.after Δ m).ending Δ m = r.ending Δ m := by
  obtain ⟨ref, slots⟩ := r
  rcases Bind.forall_passes_or_stopsAfter (Bind.asField Δ (Δ.entity ref)) (Δ.entity ref) m with
    hall | ⟨x, done, hstop⟩
  · obtain ⟨hending, hafter⟩ := after_of_passes ref slots hall
    rw [hending, hafter]
    obtain ⟨hending', hafter'⟩ := after_of_passes ref _ hall
    exact ⟨by rw [hafter', Bind.settled_again hm], hending'⟩
  · obtain ⟨hending, hafter⟩ := after_of_stopsAfter hstop slots
    rw [hending, hafter]
    obtain ⟨hending', hafter'⟩ := after_of_stopsAfter hstop _
    exact ⟨by rw [hafter', Bind.settled_again (hstop.ascends hm)], hending'⟩

/-- Two updates come to one with the declared entries of both. -/
theorem after_both {u : List (String × Json)} (hfirst : r.ending Δ a = .ok ())
    (hsecond : r.ending Δ b = .ok ()) (hab : Bind.Unambiguous (Δ.entity r.ref) (a ++ b))
    (hu : Bind.Unambiguous (Δ.entity r.ref) u)
    (hmem : ∀ e : String × Json, ((Δ.entity r.ref).index? e.1).isSome →
      (e ∈ a ++ b ↔ e ∈ u)) :
    (r.after Δ a).ending Δ b = .ok () ∧ r.ending Δ u = .ok () ∧
      (r.after Δ a).after Δ b = r.after Δ u := by
  have hall := passes_of_ending hfirst
  have hrest := passes_of_ending hsecond
  obtain ⟨ref, slots⟩ := r
  have hunion : ∀ e ∈ u, Bind.Passes (Bind.asField Δ (Δ.entity ref)) (Δ.entity ref) e := by
    intro e he i f hi hf
    have hdeclared : ((Δ.entity ref).index? e.1).isSome := by
      rw [hi]
      rfl
    rcases List.mem_append.1 ((hmem e hdeclared).2 he) with he | he
    · exact hall e he i f hi hf
    · exact hrest e he i f hi hf
  obtain ⟨-, hafterFirst⟩ := after_of_passes ref slots hall
  obtain ⟨hending, hafterUnion⟩ := after_of_passes ref slots hunion
  rw [hafterFirst]
  obtain ⟨hendingSecond, hafterSecond⟩ := after_of_passes ref _ hrest
  refine ⟨hendingSecond, hending, ?_⟩
  rw [hafterSecond, hafterUnion, Bind.settled_settled, Bind.settled_congr hab hu hmem]

/-- Updates with maps that share no declared key come to the same in either order and as one. -/
theorem after_union (ha : Json.Ascends a) (hb : Json.Ascends b)
    (hdisjoint : ∀ e ∈ a, ∀ e' ∈ b, e.1 = e'.1 → (Δ.entity r.ref).index? e.1 = none)
    (hfirst : r.ending Δ a = .ok ()) (hsecond : r.ending Δ b = .ok ()) :
    ((r.after Δ a).ending Δ b = .ok () ∧ (r.after Δ b).ending Δ a = .ok () ∧
      r.ending Δ (Json.sortEntries (a ++ b)) = .ok ()) ∧
    (r.after Δ a).after Δ b = r.after Δ (Json.sortEntries (a ++ b)) ∧
    (r.after Δ b).after Δ a = r.after Δ (Json.sortEntries (a ++ b)) := by
  have hunique := Bind.Unambiguous.of_ascends (Δ.entity r.ref) ha
  have hunique' := Bind.Unambiguous.of_ascends (Δ.entity r.ref) hb
  have hshared : ∀ e ∈ a, ∀ e' ∈ b, e.1 = e'.1 → ¬((Δ.entity r.ref).index? e.1).isSome := by
    intro e he e' he' hkey
    rw [hdisjoint e he e' he' hkey]
    exact Bool.false_ne_true
  have hab : Bind.Unambiguous (Δ.entity r.ref) (a ++ b) :=
    hunique.append hunique' fun e he e' he' hkey hdeclared =>
      absurd hdeclared (hshared e he e' he' hkey)
  have hba : Bind.Unambiguous (Δ.entity r.ref) (b ++ a) :=
    hunique'.append hunique fun e he e' he' hkey hdeclared =>
      absurd (hkey ▸ hdeclared) (hshared e' he' e he hkey.symm)
  have hu := Bind.Unambiguous.of_ascends (Δ.entity r.ref) (Json.ascends_sortEntries (a ++ b))
  have hmem (e : String × Json) (hdeclared : ((Δ.entity r.ref).index? e.1).isSome) :
      e ∈ a ++ b ↔ e ∈ Json.sortEntries (a ++ b) := (hab.mem_sortEntries_iff hdeclared).symm
  obtain ⟨hthen, hunion, hafter⟩ := after_both hfirst hsecond hab hu hmem
  obtain ⟨hthen', -, hafter'⟩ := after_both hsecond hfirst hba hu fun e hdeclared => by
    rw [← hmem e hdeclared, List.mem_append, List.mem_append, or_comm]
  exact ⟨⟨hthen, hthen', hunion⟩, hafter, hafter'⟩

theorem get?_settled (hnames : ((Δ.entity r.ref).fields.map FieldSpec.name).Nodup)
    (hlength : r.slots.length = (Δ.entity r.ref).fields.length) {i : Nat} {f : FieldSpec}
    (hf : (Δ.entity r.ref).fields[i]? = some f) :
    (Record.mk r.ref (Bind.settled (Bind.asField Δ (Δ.entity r.ref)) (Δ.entity r.ref) m
        r.slots)).get? Δ f.name =
      (Bind.lastBoundAt? (Bind.asField Δ (Δ.entity r.ref)) (Δ.entity r.ref) i m).or
        (r.get? Δ f.name) := by
  have hi : i < r.slots.length := hlength ▸ (List.getElem?_eq_some_iff.1 hf).1
  simp only [get?, index?_of_nodup hnames hf, Option.bind_some, Bind.getElem?_settled,
    List.getElem?_eq_getElem hi, Option.map_some, Option.join_some]

theorem merges_of_passes (hnames : ((Δ.entity r.ref).fields.map FieldSpec.name).Nodup)
    (hlength : r.slots.length = (Δ.entity r.ref).fields.length) (hm : Json.Ascends m)
    (h : ∀ e ∈ m, Bind.Passes (Bind.asField Δ (Δ.entity r.ref)) (Δ.entity r.ref) e) :
    r.Merges Δ m ⟨r.ref, Bind.settled (Bind.asField Δ (Δ.entity r.ref)) (Δ.entity r.ref) m
      r.slots⟩ where
  ref := rfl
  length := List.length_mapIdx
  bound f hf raw hmem := by
    obtain ⟨i, hi⟩ := List.getElem?_of_mem hf
    have hindex := index?_of_nodup hnames hi
    obtain ⟨v, hv⟩ := h (f.name, raw) hmem i f hindex hi
    have hlast := Bind.lastBoundAt?_of_mem (.of_ascends _ hm) hindex hi hmem hv
    refine ⟨v, hv, by rw [get?_settled hnames hlength hi, hlast], ?_⟩
    rw [← Bind.outcome_asField_eq_ok_none_iff, hv, Except.ok.injEq]
  kept f hf hkey := by
    obtain ⟨i, hi⟩ := List.getElem?_of_mem hf
    have hindex := index?_of_nodup hnames hi
    rw [get?_settled hnames hlength hi, Bind.lastBoundAt?_of_not_mem hindex hkey, Option.none_or]

theorem exists_of_ending (hnames : ((Δ.entity r.ref).fields.map FieldSpec.name).Nodup)
    (hlength : r.slots.length = (Δ.entity r.ref).fields.length) (hm : Json.Ascends m) {x : Failure}
    (h : r.ending Δ m = .error x) :
    ∃ f ∈ (Δ.entity r.ref).fields, ∃ raw, (f.name, raw) ∈ m ∧
      (Bind.asField Δ (Δ.entity r.ref) f raw).outcome = .error x ∧
      (Δ.entity r.ref).BindsAll Δ (Json.before m f.name) ∧
      r.Merges Δ (Json.before m f.name) (r.after Δ m) := by
  obtain ⟨done, hstop, -⟩ := Bind.stopsAfter_of_assign h
  obtain ⟨-, hafter⟩ := after_of_stopsAfter hstop r.slots
  obtain ⟨i, f, raw, hf, hmem, hfails, rfl, hpassed⟩ := hstop.exists_eq_before hm
  refine ⟨f, List.mem_of_getElem? hf, raw, hmem, hfails,
    (EntityDecl.bindsAll_iff hnames).2 hpassed, ?_⟩
  rw [hafter]
  exact merges_of_passes hnames hlength (hstop.ascends hm) hpassed

end Record

/-- What an update with a map does to an entity whose fields have names of their own.

Undeclared entries have no influence. The update succeeds exactly if each declared entry binds by
itself, and then each of these is in its field and the other fields are as they were. Made again, it
ends in the same way and changes nothing. Updates with maps that share no declared key come to the same
in either order and as one update. An update that fails does so with the failure of its first declared
entry that cannot be bound, and the entries before that one, and no others, are in their fields. -/
theorem update_merges {r : Record} (hr : Obtainable Δ (.ofRecord r))
    (hnames : ((Δ.entity r.ref).fields.map FieldSpec.name).Nodup) {m : List (String × Json)}
    (hm : Json.Ascends m) :
    (r.after Δ ((Δ.entity r.ref).declared m) = r.after Δ m ∧
      r.ending Δ ((Δ.entity r.ref).declared m) = r.ending Δ m) ∧
    (r.ending Δ m = .ok () ↔ (Δ.entity r.ref).BindsAll Δ m) ∧
    (r.ending Δ m = .ok () → r.Merges Δ m (r.after Δ m)) ∧
    ((r.after Δ m).after Δ m = r.after Δ m ∧ (r.after Δ m).ending Δ m = r.ending Δ m) ∧
    (∀ b, Json.Ascends b →
      (∀ e ∈ m, ∀ e' ∈ b, e.1 = e'.1 → (Δ.entity r.ref).index? e.1 = none) →
      r.ending Δ m = .ok () → r.ending Δ b = .ok () →
        ((r.after Δ m).ending Δ b = .ok () ∧ (r.after Δ b).ending Δ m = .ok () ∧
          r.ending Δ (Json.sortEntries (m ++ b)) = .ok ()) ∧
        (r.after Δ m).after Δ b = r.after Δ (Json.sortEntries (m ++ b)) ∧
        (r.after Δ b).after Δ m = r.after Δ (Json.sortEntries (m ++ b))) ∧
    (∀ x, r.ending Δ m = .error x → ∃ f ∈ (Δ.entity r.ref).fields, ∃ raw, (f.name, raw) ∈ m ∧
      (Bind.asField Δ (Δ.entity r.ref) f raw).outcome = .error x ∧
      (Δ.entity r.ref).BindsAll Δ (Json.before m f.name) ∧
      r.Merges Δ (Json.before m f.name) (r.after Δ m)) := by
  have hlength : r.slots.length = (Δ.entity r.ref).fields.length :=
    (FieldValue.wellFormed_entity_iff.1 hr.wellFormed).1.length
  refine ⟨Record.after_declared hm, ⟨fun h => ?_, fun h => ?_⟩, fun h => ?_, Record.after_after hm,
    fun b hb hdisjoint hfirst hsecond => Record.after_union hm hb hdisjoint hfirst hsecond,
    fun x h => Record.exists_of_ending hnames hlength hm h⟩
  · exact (EntityDecl.bindsAll_iff hnames).2 (Record.passes_of_ending h)
  · exact (Record.after_of_passes r.ref r.slots ((EntityDecl.bindsAll_iff hnames).1 h)).1
  · have hpasses := Record.passes_of_ending h
    rw [show r.after Δ m = _ from (Record.after_of_passes r.ref r.slots hpasses).2]
    exact Record.merges_of_passes hnames hlength hm hpasses

namespace Sample

/-- Further data of an address, with a country that is unknown and a field that is undeclared. -/
def moved : List (String × Json) :=
  [("city", .str "Hamburg"), ("countryCode", .str "XX"), ("nickname", .null)]

def recoded : List (String × Json) :=
  [("nickname", .int 1), ("zip", .str "20095")]

theorem nodup_address : (Contact.addressDecl.fields.map FieldSpec.name).Nodup := by
  decide

end Sample

open Sample in
theorem update_merges_moved :
    home.Merges Contact.catalog moved (home.after Contact.catalog moved) ∧
    (home.after Contact.catalog moved).slots =
      [none, some (.str "Elbchaussee 1"), some (.str "22763"), some (.str "Hamburg"), none] ∧
    (home.after Contact.catalog recoded).after Contact.catalog moved =
      home.after Contact.catalog (Json.sortEntries (moved ++ recoded)) := by
  have hmoved : Json.Ascends moved := by
    unfold Json.Ascends
    decide
  have hrecoded : Json.Ascends recoded := by
    unfold Json.Ascends
    decide
  have hdisjoint : ∀ e ∈ moved, ∀ e' ∈ recoded, e.1 = e'.1 →
      Contact.addressDecl.index? e.1 = none := by
    decide
  obtain ⟨-, -, hmerges, -, hunion, -⟩ :=
    update_merges (.boundRecord bound_home) nodup_address hmoved
  exact ⟨hmerges rfl, rfl, (hunion recoded hrecoded hdisjoint rfl rfl).2.2⟩

end RestRecords
