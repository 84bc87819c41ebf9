import RestRecords.Proofs.Text.PathText
import RestRecords.Proofs.Validation.Breaches
import RestRecords.Proofs.Binding.Representation
/-!
# Places of failures

The place that validation names for a failure leads to the slot or item that breaks the rule, and to
no other one where the fields of an entity have different names.
-/

namespace RestRecords

/-! ## Where the paths lead -/

def FieldValue.HasPlainNames (Δ : Catalog) (v : FieldValue) : Prop :=
  ∀ ref slots, v.Contains (.entity ref slots) → ∀ f ∈ (Δ.entity ref).fields, IsPlainName f.name

/-- Whether the fields of every entity inside a value have names of their own. -/
def FieldValue.HasDistinctNames (Δ : Catalog) (v : FieldValue) : Prop :=
  ∀ ref slots, v.Contains (.entity ref slots) →
    ((Δ.entity ref).fields.map FieldSpec.name).Nodup

open FieldValue

variable {Δ : Catalog}

theorem FieldValue.HasPlainNames.part {v w : FieldValue} (h : v.HasPlainNames Δ)
    (hw : w ∈ v.parts) : w.HasPlainNames Δ :=
  fun ref slots hentity => h ref slots (.inside hw hentity)

theorem FieldValue.HasDistinctNames.part {v w : FieldValue} (h : v.HasDistinctNames Δ)
    (hw : w ∈ v.parts) : w.HasDistinctNames Δ :=
  fun ref slots hentity => h ref slots (.inside hw hentity)

theorem FieldValue.HasPlainNames.of_parts {v : FieldValue}
    (hself : ∀ ref slots, v = .entity ref slots → ∀ f ∈ (Δ.entity ref).fields, IsPlainName f.name)
    (hparts : ∀ w ∈ v.parts, w.HasPlainNames Δ) : v.HasPlainNames Δ := by
  intro ref slots hentity
  cases hentity with
  | self => exact hself ref slots rfl
  | inside hpart hrest => exact hparts _ hpart ref slots hrest

theorem Leads.isPlain {v : FieldValue} {position : List Nat} {path : Path} {spot : Spot}
    (h : Leads Δ v position path spot) (hnames : v.HasPlainNames Δ) : path.IsPlain := by
  induction h with
  | slot declared _ =>
    intro name hname
    cases List.mem_singleton.1 hname
    exact hnames _ _ (.self _) _ (List.mem_of_getElem? declared)
  | @inSlot ref slots k f v _ _ _ declared held _ ih =>
    intro name hname
    rcases List.mem_cons.1 hname with hname | hname
    · cases hname
      exact hnames _ _ (.self _) _ (List.mem_of_getElem? declared)
    · exact ih (hnames.part (mem_parts_entity.2 ⟨k, held⟩)) name hname
  | item _ =>
    intro name hname
    cases List.mem_singleton.1 hname
  | inItem held _ ih =>
    intro name hname
    rcases List.mem_cons.1 hname with hname | hname
    · cases hname
    · exact ih (hnames.part (List.mem_of_getElem? held)) name hname

theorem eq_of_name_eq {d : EntityDecl} (hnames : (d.fields.map FieldSpec.name).Nodup) {j k : Nat}
    {f g : FieldSpec} (hf : d.fields[j]? = some f) (hg : d.fields[k]? = some g)
    (hname : f.name = g.name) : j = k := by
  have hj := index?_of_nodup hnames hf
  have hk := index?_of_nodup hnames hg
  rw [hname, hk] at hj
  exact (Option.some.inj hj).symm

theorem Leads.path_ne_nil {v : FieldValue} {position : List Nat} {path : Path} {spot : Spot}
    (h : Leads Δ v position path spot) : path ≠ [] := by
  cases h <;> exact List.cons_ne_nil _ _

theorem leads_entity_cases {ref : EntityRef} {slots : Slots} {position : List Nat} {name : String}
    {path : Path} {spot : Spot}
    (h : Leads Δ (.entity ref slots) position (.field name :: path) spot) :
    ∃ (k : Nat) (f : FieldSpec) (slot : Option FieldValue), (Δ.entity ref).fields[k]? = some f ∧
      slots[k]? = some slot ∧ f.name = name ∧
      ((path = [] ∧ position = [k] ∧ spot = ⟨some f, slot⟩) ∨
        ∃ v rest, slot = some v ∧ position = k :: rest ∧ Leads Δ v rest path spot) := by
  generalize hwhole : Step.field name :: path = whole at h
  cases h with
  | slot declared held =>
    obtain ⟨hname, hpath⟩ := List.cons.inj hwhole
    exact ⟨_, _, _, declared, held, (Step.field.inj hname).symm, .inl ⟨hpath, rfl, rfl⟩⟩
  | inSlot declared held rest =>
    obtain ⟨hname, hpath⟩ := List.cons.inj hwhole
    subst hpath
    exact ⟨_, _, _, declared, held, (Step.field.inj hname).symm, .inr ⟨_, _, rfl, rfl, rest⟩⟩

theorem leads_collection_cases {ref : CollectionRef} {items : List FieldValue}
    {position : List Nat} {k : Nat} {path : Path} {spot : Spot}
    (h : Leads Δ (.collection ref items) position (.index k :: path) spot) :
    ∃ v, items[k]? = some v ∧ ((path = [] ∧ position = [k] ∧ spot = ⟨none, some v⟩) ∨
      ∃ rest, position = k :: rest ∧ Leads Δ v rest path spot) := by
  generalize hwhole : Step.index k :: path = whole at h
  cases h with
  | item held =>
    obtain ⟨hindex, hpath⟩ := List.cons.inj hwhole
    cases hindex
    exact ⟨_, held, .inl ⟨hpath, rfl, rfl⟩⟩
  | inItem held rest =>
    obtain ⟨hindex, hpath⟩ := List.cons.inj hwhole
    cases hindex
    subst hpath
    exact ⟨_, held, .inr ⟨_, rfl, rest⟩⟩

/-- Where names are distinct, a path leads to one place only. -/
theorem Leads.unique {v : FieldValue} {p q : List Nat} {path : Path} {s t : Spot}
    (hp : Leads Δ v p path s) (hq : Leads Δ v q path t) (hnames : v.HasDistinctNames Δ) :
    p = q ∧ s = t := by
  -- Both ways go on through the same slot, since no other has its name, or the same item.
  induction hp generalizing q t with
  | @slot ref slots k f slot declared held =>
    obtain ⟨j, g, other, hg, hother, hname, ⟨-, rfl, rfl⟩ | ⟨_, _, -, -, hrest⟩⟩ :=
      leads_entity_cases hq
    · obtain rfl := eq_of_name_eq (hnames ref slots (.self _)) hg declared hname
      rw [declared] at hg
      rw [held] at hother
      cases hg
      cases hother
      exact ⟨rfl, rfl⟩
    · exact absurd rfl hrest.path_ne_nil
  | @inSlot ref slots k f v _ _ _ declared held rest ih =>
    obtain ⟨j, g, other, hg, hother, hname, ⟨hpath, -, -⟩ | ⟨w, rest', rfl, rfl, hrest⟩⟩ :=
      leads_entity_cases hq
    · exact absurd hpath rest.path_ne_nil
    · obtain rfl := eq_of_name_eq (hnames ref slots (.self _)) hg declared hname
      rw [held] at hother
      cases hother
      obtain ⟨hposition, hspot⟩ := ih hrest (hnames.part (mem_parts_entity.2 ⟨j, held⟩))
      exact ⟨congrArg (j :: ·) hposition, hspot⟩
  | @item ref items k v held =>
    obtain ⟨w, hw, ⟨-, rfl, rfl⟩ | ⟨_, -, hrest⟩⟩ := leads_collection_cases hq
    · rw [held] at hw
      cases hw
      exact ⟨rfl, rfl⟩
    · exact absurd rfl hrest.path_ne_nil
  | @inItem ref items k v _ _ _ held rest ih =>
    obtain ⟨w, hw, ⟨hpath, -, -⟩ | ⟨rest', rfl, hrest⟩⟩ := leads_collection_cases hq
    · exact absurd hpath rest.path_ne_nil
    · rw [held] at hw
      cases hw
      obtain ⟨hposition, hspot⟩ := ih hrest (hnames.part (List.mem_of_getElem? held))
      exact ⟨congrArg (k :: ·) hposition, hspot⟩

/-! ## Validation -/

/-- What the errors of a value have to be: none exactly if the value is valid; otherwise all that is
broken in it, in order, each told by a text that reads as the path to its place, which is the only
place there where names are distinct. -/
structure IsReport (Δ : Catalog) (v : FieldValue) (errors : List FieldError) : Prop where
  nil_iff : errors = [] ↔ Valid Δ v
  breaches : ∃ xs : List Breach, xs.map Breach.error = errors ∧ xs.Pairwise Breach.Before ∧
    ∀ x, x ∈ xs ↔ x.Inside Δ v
  places : ∀ e ∈ errors, Path.read e.place = e.path ∧ ∃ position rule spot,
    Leads Δ v position e.path spot ∧ spot.Breaks rule e.message
  unique : v.HasDistinctNames Δ → ∀ e ∈ errors, ∀ p s q t, Leads Δ v p e.path s →
    Leads Δ v q e.path t → p = q ∧ s = t

theorem isReport_innerErrors {v : FieldValue} (hnamed : v.named? = none)
    (hnames : v.HasPlainNames Δ) : IsReport Δ v (innerErrors Δ v) := by
  obtain ⟨xs, hmap, hmem, hsorted⟩ := exists_listsInner (Δ := Δ) v
  have hinside : ∀ x, x ∈ xs ↔ x.Inside Δ v := by
    intro x
    rw [hmem, or_iff_right (not_at_of_notNamed hnamed x)]
  refine ⟨innerErrors_eq_nil_iff v, ⟨xs, hmap, hsorted, hinside⟩, fun e he => ?_, ?_⟩
  · rw [← hmap] at he
    obtain ⟨x, hx, rfl⟩ := List.mem_map.1 he
    obtain ⟨spot, hleads, hbreaks⟩ := (hinside x).1 hx
    exact ⟨Path.read_textOmittingEmpty (hleads.isPlain hnames), x.position, x.rule, spot, hleads, hbreaks⟩
  · intro hdistinct e _ p s q t hp hq
    exact hp.unique hq hdistinct

theorem verdict_ok_true_iff (errors : List FieldError) :
    (Validation.verdict errors).outcome = .ok true ↔ errors = [] := by
  rw [Validation.verdict, Except.ok.injEq, List.isEmpty_iff]

theorem require_ok_iff (errors : List FieldError) :
    Validation.require errors = .ok () ↔ errors = [] := by
  unfold Validation.require
  split
  · rename_i h
    exact iff_of_true rfl (List.isEmpty_iff.1 h)
  · rename_i h
    refine iff_of_false nofun fun hnil => h (List.isEmpty_iff.2 hnil)

/-- The errors of entities and collections are what they have to be, and the two other questions
agree with them. -/
theorem isReport_validationErrors (Δ : Catalog) :
    (∀ r : Record, (ofRecord r).HasPlainNames Δ →
      IsReport Δ (ofRecord r) (r.validationErrors Δ) ∧
        ((r.isValid Δ).outcome = .ok true ↔ Valid Δ (ofRecord r)) ∧
        (r.requireValid Δ = .ok () ↔ Valid Δ (ofRecord r))) ∧
    ∀ c : Collection, (ofCollection c).HasPlainNames Δ →
      IsReport Δ (ofCollection c) (c.validationErrors Δ) ∧
        ((c.isValid Δ).outcome = .ok true ↔ Valid Δ (ofCollection c)) ∧
        (c.requireValid Δ = .ok () ↔ Valid Δ (ofCollection c)) := by
  refine ⟨fun r hnames => ?_, fun c hnames => ?_⟩
  · have hreport : IsReport Δ (ofRecord r) (r.validationErrors Δ) := isReport_innerErrors rfl hnames
    exact ⟨hreport, (verdict_ok_true_iff _).trans hreport.nil_iff,
      (require_ok_iff _).trans hreport.nil_iff⟩
  · have hreport : IsReport Δ (ofCollection c) (c.validationErrors Δ) :=
      isReport_innerErrors rfl hnames
    exact ⟨hreport, (verdict_ok_true_iff _).trans hreport.nil_iff,
      (require_ok_iff _).trans hreport.nil_iff⟩

namespace Sample

def code : ValueSchema where
  name := "code"
  check
    | .str s => s.length == 2
    | _ => false

def optionalPart : FieldSpec where
  name := "part"
  kind := .str
  nullable := true

def requiredPart : FieldSpec where
  name := "part"
  kind := .str

def parcels : Catalog where
  entities :=
    [⟨[{ name := "code", kind := .value code, nullable := true }], none⟩,
      ⟨[optionalPart, requiredPart], none⟩]
  collections := []

def parcel (payload : Json) : Record :=
  ⟨⟨"Parcel", 0⟩, [some (.named ⟨code, payload⟩)]⟩

def unsetPair : Record :=
  Record.empty parcels ⟨"Pair", 1⟩

end Sample

open Sample in
theorem isReport_validationErrors_parcel :
    (parcel (.str "abc")).validationErrors parcels =
      [⟨[.field "code"], "is not a valid code"⟩] ∧
    ¬Valid parcels (ofRecord (parcel (.str "abc"))) := by
  have herrors : (parcel (.str "abc")).validationErrors parcels =
      [⟨[.field "code"], "is not a valid code"⟩] := rfl
  have hnames : (ofRecord (parcel (.str "abc"))).HasPlainNames parcels := by
    refine .of_parts ?_ ?_
    · rintro ref slots ⟨⟩ f hf
      obtain rfl := List.mem_singleton.1 hf
      exact ⟨by decide, by decide, by decide⟩
    · intro w hw
      obtain rfl := List.mem_singleton.1 hw
      exact .of_parts nofun nofun
  refine ⟨herrors, fun hvalid => ?_⟩
  have hnil := (((isReport_validationErrors parcels).1 _ hnames).1.nil_iff).2 hvalid
  rw [herrors] at hnil
  cases hnil

open Sample in
/-- A code without payload, in a field that may be null, is not checked; and where two fields have
one name, a path leads to both. -/
theorem validationErrors_omit_code :
    ((Record.ofJson parcels ⟨"Parcel", 0⟩ (.obj [("code", .obj [])])).outcome =
        .ok (parcel .null) ∧
      (ofRecord (parcel .null)).Contains (.named ⟨code, .null⟩) ∧
      NamedValue.isValid ⟨code, .null⟩ = false ∧ (parcel .null).validationErrors parcels = []) ∧
    ∃ e ∈ unsetPair.validationErrors parcels, ∃ s t,
      Leads parcels (ofRecord unsetPair) [0] e.path s ∧
        Leads parcels (ofRecord unsetPair) [1] e.path t := by
  refine ⟨⟨rfl, .inside (List.mem_singleton.2 rfl) (.self _), rfl, rfl⟩, ?_⟩
  have hfirst : Leads parcels (ofRecord unsetPair) [0] [.field optionalPart.name]
      ⟨some optionalPart, none⟩ := .slot rfl rfl
  have hsecond : Leads parcels (ofRecord unsetPair) [1] [.field requiredPart.name]
      ⟨some requiredPart, none⟩ := .slot rfl rfl
  exact ⟨_, List.mem_singleton.2 rfl, _, _, hfirst, hsecond⟩

end RestRecords
