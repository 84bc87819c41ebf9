import RestRecords.Proofs.Validation.Validity
/-!
# Breaches

Which rules are broken inside a value, at which places, and in which order validation lists them: by
places, a place before what is inside it, and at one place the check of a field before that of a
type.
-/

namespace RestRecords

inductive Rule where
  | required
  | check
  | type
  deriving DecidableEq, Repr

/-- A place inside a value: the field it is the slot of, unless it is an item, and what it holds. -/
structure Spot where
  field : Option FieldSpec
  held : Option FieldValue

/-- Which rule is broken at a place, and the words for it. -/
inductive Spot.Breaks : Spot → Rule → String → Prop where
  | required {f : FieldSpec} (notNullable : f.nullable = false) :
    Breaks ⟨some f, none⟩ .required "is required but not initialized"
  | check {f : FieldSpec} {v : FieldValue} {check : FieldValue → Option String} {complaint : String}
    (counts : f.Counts v) (declared : f.check = some check) (fails : check v = some complaint) :
    Breaks ⟨some f, some v⟩ .check complaint
  | type {field : Option FieldSpec} {v : NamedValue}
    (counts : ∀ f, field = some f → f.Counts (.named v)) (fails : v.schema.check v.payload = false) :
    Breaks ⟨field, some (.named v)⟩ .type ("is not a valid " ++ v.schema.name)

/-- Whether a path leads from a value to a place inside it. The position counts the fields and items
where the path names them. -/
inductive Leads (Δ : Catalog) : FieldValue → List Nat → Path → Spot → Prop where
  | slot {ref : EntityRef} {slots : Slots} {k : Nat} {f : FieldSpec} {slot : Option FieldValue}
    (declared : (Δ.entity ref).fields[k]? = some f) (held : slots[k]? = some slot) :
    Leads Δ (.entity ref slots) [k] [.field f.name] ⟨some f, slot⟩
  | inSlot {ref : EntityRef} {slots : Slots} {k : Nat} {f : FieldSpec} {v : FieldValue}
    {position : List Nat} {path : Path} {spot : Spot}
    (declared : (Δ.entity ref).fields[k]? = some f) (held : slots[k]? = some (some v))
    (rest : Leads Δ v position path spot) :
    Leads Δ (.entity ref slots) (k :: position) (.field f.name :: path) spot
  | item {ref : CollectionRef} {items : List FieldValue} {k : Nat} {v : FieldValue}
    (held : items[k]? = some v) : Leads Δ (.collection ref items) [k] [.index k] ⟨none, some v⟩
  | inItem {ref : CollectionRef} {items : List FieldValue} {k : Nat} {v : FieldValue}
    {position : List Nat} {path : Path} {spot : Spot} (held : items[k]? = some v)
    (rest : Leads Δ v position path spot) :
    Leads Δ (.collection ref items) (k :: position) (.index k :: path) spot

/-- A broken rule, the position of its place, and how it is told. -/
structure Breach where
  position : List Nat
  rule : Rule
  error : FieldError

namespace Breach

def Before (x y : Breach) : Prop :=
  x.position < y.position ∨ x.position = y.position ∧ x.rule = .check ∧ y.rule = .type

def under (k : Nat) (s : Step) (x : Breach) : Breach :=
  ⟨k :: x.position, x.rule, x.error.under s⟩

def Inside (Δ : Catalog) (v : FieldValue) (x : Breach) : Prop :=
  ∃ spot, Leads Δ v x.position x.error.path spot ∧ spot.Breaks x.rule x.error.message

def At (position : List Nat) (path : Path) (spot : Spot) (x : Breach) : Prop :=
  x.position = position ∧ x.error.path = path ∧ spot.Breaks x.rule x.error.message

theorem At.exists_eq {position : List Nat} {path : Path} {spot : Spot} {x : Breach}
    (h : x.At position path spot) :
    ∃ rule message, spot.Breaks rule message ∧ x = ⟨position, rule, ⟨path, message⟩⟩ := by
  obtain ⟨hposition, hpath, hbreaks⟩ := h
  exact ⟨x.rule, x.error.message, hbreaks, by rw [← hposition, ← hpath]⟩

theorem Before.under {x y : Breach} (h : x.Before y) (k : Nat) (s t : Step) :
    (x.under k s).Before (y.under k t) := by
  rcases h with h | ⟨h, hrules⟩
  · exact .inl (List.cons_lt_cons_iff.2 (.inr ⟨rfl, h⟩))
  · exact .inr ⟨congrArg (k :: ·) h, hrules⟩

end Breach

/-- Whether a list consists of the breaches with a property, in order. -/
structure Lists (P : Breach → Prop) (xs : List Breach) : Prop where
  mem_iff : ∀ x, x ∈ xs ↔ P x
  sorted : xs.Pairwise Breach.Before

namespace Lists

theorem nil {P : Breach → Prop} (h : ∀ x, ¬P x) : Lists P [] :=
  ⟨fun x => ⟨nofun, fun hx => absurd hx (h x)⟩, .nil⟩

theorem single {P : Breach → Prop} {x : Breach} (h : ∀ y, P y ↔ y = x) : Lists P [x] :=
  ⟨fun y => List.mem_singleton.trans (h y).symm, List.pairwise_singleton _ _⟩

theorem congr {P Q : Breach → Prop} {xs : List Breach} (hxs : Lists P xs)
    (h : ∀ x, P x ↔ Q x) : Lists Q xs :=
  ⟨fun x => (hxs.mem_iff x).trans (h x), hxs.sorted⟩

theorem append {P Q : Breach → Prop} {xs ys : List Breach} (hxs : Lists P xs) (hys : Lists Q ys)
    (h : ∀ x y, P x → Q y → x.Before y) : Lists (fun x => P x ∨ Q x) (xs ++ ys) := by
  refine ⟨fun x => ?_, List.pairwise_append.2 ⟨hxs.sorted, hys.sorted, fun x hx y hy => ?_⟩⟩
  · rw [List.mem_append, hxs.mem_iff, hys.mem_iff]
  · exact h x y ((hxs.mem_iff x).1 hx) ((hys.mem_iff y).1 hy)

theorem under {P : Breach → Prop} {xs : List Breach} (hxs : Lists P xs) (k : Nat) (s : Step) :
    Lists (fun y => ∃ x, P x ∧ y = x.under k s) (xs.map (Breach.under k s)) := by
  refine ⟨fun y => ?_, List.pairwise_map.2 (hxs.sorted.imp fun h => h.under k s s)⟩
  rw [List.mem_map]
  constructor
  · rintro ⟨x, hx, rfl⟩
    exact ⟨x, (hxs.mem_iff x).1 hx, rfl⟩
  · rintro ⟨x, hx, rfl⟩
    exact ⟨x, (hxs.mem_iff x).2 hx, rfl⟩

end Lists

variable {Δ : Catalog}

/-! ## The places inside a value -/

theorem Leads.position_ne_nil {v : FieldValue} {position : List Nat} {path : Path} {spot : Spot}
    (h : Leads Δ v position path spot) : position ≠ [] := by
  cases h <;> exact List.cons_ne_nil _ _

def Breach.InSlot (Δ : Catalog) (k : Nat) (f : FieldSpec) (slot : Option FieldValue)
    (x : Breach) : Prop :=
  x.At [k] [.field f.name] ⟨some f, slot⟩ ∨
    ∃ (v : FieldValue) (y : Breach), slot = some v ∧ y.Inside Δ v ∧ x = y.under k (.field f.name)

def Breach.InItem (Δ : Catalog) (k : Nat) (v : FieldValue) (x : Breach) : Prop :=
  x.At [k] [.index k] ⟨none, some v⟩ ∨ ∃ y : Breach, y.Inside Δ v ∧ x = y.under k (.index k)

namespace Breach

theorem inside_entity_iff {ref : EntityRef} {slots : Slots} {x : Breach} :
    x.Inside Δ (.entity ref slots) ↔ ∃ (k : Nat) (f : FieldSpec) (slot : Option FieldValue),
      (Δ.entity ref).fields[k]? = some f ∧ slots[k]? = some slot ∧ x.InSlot Δ k f slot := by
  constructor
  · rintro ⟨spot, hleads, hbreaks⟩
    obtain ⟨position, rule, path, message⟩ := x
    dsimp only at hleads hbreaks
    cases hleads with
    | slot declared held => exact ⟨_, _, _, declared, held, Or.inl ⟨rfl, rfl, hbreaks⟩⟩
    | @inSlot _ _ k f v position path _ declared held rest =>
      refine ⟨k, f, some v, declared, held, Or.inr ⟨v, ⟨position, rule, path, message⟩, rfl, ?_, rfl⟩⟩
      exact ⟨spot, rest, hbreaks⟩
  · rintro ⟨k, f, slot, declared, held, hat | ⟨v, y, rfl, ⟨spot, hleads, hbreaks⟩, rfl⟩⟩
    · obtain ⟨rule, message, hbreaks, rfl⟩ := hat.exists_eq
      exact ⟨_, .slot declared held, hbreaks⟩
    · exact ⟨spot, .inSlot declared held hleads, hbreaks⟩

theorem inside_collection_iff {ref : CollectionRef} {items : List FieldValue} {x : Breach} :
    x.Inside Δ (.collection ref items) ↔
      ∃ (k : Nat) (v : FieldValue), items[k]? = some v ∧ x.InItem Δ k v := by
  constructor
  · rintro ⟨spot, hleads, hbreaks⟩
    obtain ⟨position, rule, path, message⟩ := x
    dsimp only at hleads hbreaks
    cases hleads with
    | item held => exact ⟨_, _, held, Or.inl ⟨rfl, rfl, hbreaks⟩⟩
    | @inItem _ _ k v position path _ held rest =>
      refine ⟨k, v, held, Or.inr ⟨⟨position, rule, path, message⟩, ?_, rfl⟩⟩
      exact ⟨spot, rest, hbreaks⟩
  · rintro ⟨k, v, held, hat | ⟨y, ⟨spot, hleads, hbreaks⟩, rfl⟩⟩
    · obtain ⟨rule, message, hbreaks, rfl⟩ := hat.exists_eq
      exact ⟨_, .item held, hbreaks⟩
    · exact ⟨spot, .inItem held hleads, hbreaks⟩

theorem not_inside_of_plain {v : FieldValue} (hrecord : v.record? = none)
    (hcollection : v.collection? = none) (x : Breach) : ¬x.Inside Δ v := by
  obtain ⟨position, rule, path, message⟩ := x
  rintro ⟨spot, hleads, -⟩
  dsimp only at hleads
  cases hleads with
  | slot | inSlot => cases hrecord
  | item | inItem => cases hcollection

theorem InSlot.head {k : Nat} {f : FieldSpec} {slot : Option FieldValue} {x : Breach}
    (h : x.InSlot Δ k f slot) : ∃ rest, x.position = k :: rest := by
  rcases h with ⟨hposition, -⟩ | ⟨v, y, -, -, rfl⟩
  · exact ⟨_, hposition⟩
  · exact ⟨_, rfl⟩

theorem InItem.head {k : Nat} {v : FieldValue} {x : Breach} (h : x.InItem Δ k v) :
    ∃ rest, x.position = k :: rest := by
  rcases h with ⟨hposition, -⟩ | ⟨y, -, rfl⟩
  · exact ⟨_, hposition⟩
  · exact ⟨_, rfl⟩

theorem before_of_heads {x y : Breach} {j k : Nat} (hx : ∃ rest, x.position = j :: rest)
    (hy : ∃ rest, y.position = k :: rest) (h : j < k) : x.Before y := by
  obtain ⟨xs, hxs⟩ := hx
  obtain ⟨ys, hys⟩ := hy
  left
  rw [hxs, hys]
  exact List.cons_lt_cons_iff.2 (.inl h)

end Breach

/-! ## The order of the list -/

open FieldValue Breach

theorem lists_check {k : Nat} {f : FieldSpec} {v : FieldValue} (hcounts : f.Counts v) :
    ∃ xs, xs.map Breach.error = ruleErrors f v ∧
      Lists (fun x => x.rule = .check ∧ x.At [k] [.field f.name] ⟨some f, some v⟩) xs := by
  unfold ruleErrors
  cases hfails : f.check.bind (· v) with
  | none =>
    refine ⟨[], rfl, .nil ?_⟩
    rintro x ⟨hrule, -, -, hbreaks⟩
    rw [hrule] at hbreaks
    cases hbreaks with
    | check _ declared fails =>
      rw [declared, Option.bind_some, fails] at hfails
      cases hfails
  | some complaint =>
    obtain ⟨check, hdeclared, hcomplaint⟩ := Option.bind_eq_some_iff.1 hfails
    refine ⟨[⟨[k], .check, ⟨[.field f.name], complaint⟩⟩], rfl, .single fun x => ?_⟩
    constructor
    · rintro ⟨hrule, hat⟩
      obtain ⟨rule, message, hbreaks, rfl⟩ := hat.exists_eq
      cases hrule
      cases hbreaks with
      | check _ declared fails =>
        rw [hdeclared] at declared
        cases declared
        rw [hcomplaint] at fails
        cases fails
        rfl
    · rintro rfl
      exact ⟨rfl, rfl, rfl, .check hcounts hdeclared hcomplaint⟩

theorem lists_unset {k : Nat} {f : FieldSpec} :
    ∃ xs, xs.map Breach.error = (if f.nullable then [] else
        [⟨[.field f.name], "is required but not initialized"⟩]) ∧
      Lists (InSlot Δ k f none) xs := by
  cases hnullable : f.nullable with
  | true =>
    refine ⟨[], rfl, .nil ?_⟩
    rintro x (hat | ⟨v, y, hv, -⟩)
    · obtain ⟨rule, message, hbreaks, rfl⟩ := hat.exists_eq
      cases hbreaks with
      | required notNullable =>
        rw [hnullable] at notNullable
        cases notNullable
    · cases hv
  | false =>
    refine ⟨[⟨[k], .required, ⟨[.field f.name], "is required but not initialized"⟩⟩], rfl,
      .single fun x => ?_⟩
    constructor
    · rintro (hat | ⟨v, y, hv, -⟩)
      · obtain ⟨rule, message, hbreaks, rfl⟩ := hat.exists_eq
        cases hbreaks
        rfl
      · cases hv
    · rintro rfl
      exact Or.inl ⟨rfl, rfl, .required hnullable⟩

theorem Spot.Breaks.counts {f : FieldSpec} {v : FieldValue} {rule : Rule} {message : String}
    (h : Breaks ⟨some f, some v⟩ rule message) : f.Counts v := by
  cases h with
  | check counts => exact counts
  | type counts => exact counts f rfl

theorem Spot.Breaks.rule_eq {v : FieldValue} {rule : Rule} {message : String}
    (h : Breaks ⟨none, some v⟩ rule message) : rule = .type := by
  cases h
  rfl

/-- Failures of a type are found in the value and told at the slot, if the value counts there. -/
theorem Spot.breaks_type_iff {f : FieldSpec} {v : FieldValue} {message : String}
    (hcounts : f.Counts v) :
    Breaks ⟨some f, some v⟩ .type message ↔ Breaks ⟨none, some v⟩ .type message := by
  constructor
  · intro h
    cases h with
    | type _ fails => exact .type nofun fails
  · intro h
    cases h with
    | type _ fails =>
      refine .type ?_ fails
      rintro g ⟨⟩
      exact hcounts

theorem record?_of_exempt {f : FieldSpec} {v : FieldValue} (h : ¬f.Counts v) :
    v.record? = none ∧ v.collection? = none := by
  rw [FieldSpec.counts_iff, Bool.not_eq_false] at h
  cases v <;> simp [FieldValue.isNull, FieldValue.carriesNoData, record?, collection?] at h ⊢

theorem not_inSlot_of_exempt {k : Nat} {f : FieldSpec} {v : FieldValue} (h : ¬f.Counts v)
    (x : Breach) : ¬x.InSlot Δ k f (some v) := by
  rintro (⟨-, -, hbreaks⟩ | ⟨w, y, hw, hinside, -⟩)
  · exact h hbreaks.counts
  · cases hw
    obtain ⟨hrecord, hcollection⟩ := record?_of_exempt h
    exact not_inside_of_plain hrecord hcollection y hinside

def ListsInner (Δ : Catalog) (v : FieldValue) (xs : List Breach) : Prop :=
  xs.map Breach.error = innerErrors Δ v ∧
    Lists (fun x => x.At [] [] ⟨none, some v⟩ ∨ x.Inside Δ v) xs

theorem inSlot_some_iff {k : Nat} {f : FieldSpec} {v : FieldValue} (hcounts : f.Counts v)
    (x : Breach) : ((x.rule = .check ∧ x.At [k] [.field f.name] ⟨some f, some v⟩) ∨
      ∃ y : Breach, (y.At [] [] ⟨none, some v⟩ ∨ y.Inside Δ v) ∧ x = y.under k (.field f.name)) ↔
        x.InSlot Δ k f (some v) := by
  constructor
  · rintro (⟨-, hat⟩ | ⟨y, hat | hinside, rfl⟩)
    · exact .inl hat
    · obtain ⟨rule, message, hbreaks, rfl⟩ := hat.exists_eq
      obtain rfl := hbreaks.rule_eq
      exact .inl ⟨rfl, rfl, (Spot.breaks_type_iff hcounts).2 hbreaks⟩
    · exact .inr ⟨v, y, rfl, hinside, rfl⟩
  · rintro (hat | ⟨w, y, hw, hinside, rfl⟩)
    · obtain ⟨rule, message, hbreaks, rfl⟩ := hat.exists_eq
      cases rule with
      | required => cases hbreaks
      | check => exact .inl ⟨rfl, rfl, rfl, hbreaks⟩
      | type =>
        refine .inr ⟨⟨[], .type, ⟨[], message⟩⟩, .inl ⟨rfl, rfl, ?_⟩, rfl⟩
        exact (Spot.breaks_type_iff hcounts).1 hbreaks
    · cases hw
      exact .inr ⟨y, .inr hinside, rfl⟩

theorem lists_held {k : Nat} {f : FieldSpec} {v : FieldValue} (hinner : ∃ xs, ListsInner Δ v xs) :
    ∃ xs, xs.map Breach.error = (if v.isNull || (f.nullable && v.carriesNoData) then [] else
        ruleErrors f v ++ (innerErrors Δ v).map (FieldError.under (.field f.name))) ∧
      Lists (InSlot Δ k f (some v)) xs := by
  split
  · rename_i hexempt
    refine ⟨[], rfl, .nil (not_inSlot_of_exempt ?_)⟩
    rw [FieldSpec.counts_iff, hexempt]
    exact Bool.noConfusion
  · rename_i hcounts
    rw [Bool.not_eq_true, ← FieldSpec.counts_iff] at hcounts
    obtain ⟨own, hown, hlistsOwn⟩ := lists_check (k := k) hcounts
    obtain ⟨inner, hmap, hlists⟩ := hinner
    refine ⟨own ++ inner.map (Breach.under k (.field f.name)), ?_, ?_⟩
    · rw [List.map_append, hown, ← hmap, List.map_map, List.map_map]
      rfl
    · refine (hlistsOwn.append (hlists.under k (.field f.name)) ?_).congr (inSlot_some_iff hcounts)
      -- The field's own check comes first: what its value breaks in itself has the same position
      -- and breaks a type, and what is inside the value has a longer one.
      rintro x y ⟨hcheck, hposition, -⟩ ⟨z, ⟨hz, -, hbreaks⟩ | ⟨spot, hleads, -⟩, rfl⟩
      · exact .inr ⟨hposition.trans (congrArg (k :: ·) hz.symm), hcheck, hbreaks.rule_eq⟩
      · left
        rw [hposition]
        obtain ⟨j, rest, hrest⟩ := List.exists_cons_of_ne_nil hleads.position_ne_nil
        exact List.cons_lt_cons_iff.2 (.inr ⟨rfl, hrest ▸ List.nil_lt_cons j rest⟩)

theorem lists_item {k : Nat} {v : FieldValue} (hinner : ∃ xs, ListsInner Δ v xs) :
    ∃ xs, xs.map Breach.error = (innerErrors Δ v).map (FieldError.under (.index k)) ∧
      Lists (InItem Δ k v) xs := by
  obtain ⟨inner, hmap, hlists⟩ := hinner
  refine ⟨inner.map (Breach.under k (.index k)), ?_, (hlists.under k (.index k)).congr fun x => ?_⟩
  · rw [← hmap, List.map_map, List.map_map]
    rfl
  · constructor
    · rintro ⟨y, ⟨hposition, hpath, hbreaks⟩ | hinside, rfl⟩
      · exact .inl ⟨congrArg (k :: ·) hposition, congrArg (List.cons (Step.index k)) hpath, hbreaks⟩
      · exact .inr ⟨y, hinside, rfl⟩
    · rintro (hat | ⟨y, hinside, hx⟩)
      · obtain ⟨rule, message, hbreaks, rfl⟩ := hat.exists_eq
        exact ⟨⟨[], rule, ⟨[], message⟩⟩, .inl ⟨rfl, rfl, hbreaks⟩, rfl⟩
      · exact ⟨y, .inr hinside, hx⟩

/-- The breaches of the slots of a list of fields, the first of which is at `k`. -/
def Breach.InSlots (Δ : Catalog) (k : Nat) (fields : List FieldSpec) (slots : Slots)
    (x : Breach) : Prop :=
  ∃ (j : Nat) (f : FieldSpec) (slot : Option FieldValue), fields[j]? = some f ∧
    slots[j]? = some slot ∧ x.InSlot Δ (k + j) f slot

def Breach.InItems (Δ : Catalog) (k : Nat) (items : List FieldValue) (x : Breach) : Prop :=
  ∃ (j : Nat) (v : FieldValue), items[j]? = some v ∧ x.InItem Δ (k + j) v

theorem inSlots_cons_iff {k : Nat} {f : FieldSpec} {fields : List FieldSpec}
    {slot : Option FieldValue} {slots : Slots} (x : Breach) :
    (x.InSlot Δ k f slot ∨ x.InSlots Δ (k + 1) fields slots) ↔
      x.InSlots Δ k (f :: fields) (slot :: slots) := by
  constructor
  · rintro (h | ⟨j, g, other, hf, hs, h⟩)
    · exact ⟨0, f, slot, rfl, rfl, h⟩
    · exact ⟨j + 1, g, other, hf, hs, by rwa [← Nat.add_assoc, Nat.add_right_comm]⟩
  · rintro ⟨j, g, other, hf, hs, h⟩
    cases j with
    | zero =>
      cases hf
      cases hs
      exact .inl h
    | succ j => exact .inr ⟨j, g, other, hf, hs, by rwa [Nat.add_right_comm, Nat.add_assoc]⟩

theorem inItems_cons_iff {k : Nat} {v : FieldValue} {items : List FieldValue} (x : Breach) :
    (x.InItem Δ k v ∨ x.InItems Δ (k + 1) items) ↔ x.InItems Δ k (v :: items) := by
  constructor
  · rintro (h | ⟨j, w, hw, h⟩)
    · exact ⟨0, v, rfl, h⟩
    · exact ⟨j + 1, w, hw, by rwa [← Nat.add_assoc, Nat.add_right_comm]⟩
  · rintro ⟨j, w, hw, h⟩
    cases j with
    | zero =>
      cases hw
      exact .inl h
    | succ j => exact .inr ⟨j, w, hw, by rwa [Nat.add_right_comm, Nat.add_assoc]⟩

theorem Lists.consSlot {k : Nat} {f : FieldSpec} {fields : List FieldSpec}
    {slot : Option FieldValue} {slots : Slots} {xs ys : List Breach}
    (hxs : Lists (InSlot Δ k f slot) xs) (hys : Lists (InSlots Δ (k + 1) fields slots) ys) :
    Lists (InSlots Δ k (f :: fields) (slot :: slots)) (xs ++ ys) := by
  refine (hxs.append hys ?_).congr inSlots_cons_iff
  rintro x y hx ⟨j, g, other, -, -, hy⟩
  exact before_of_heads hx.head hy.head (by omega)

theorem Lists.consItem {k : Nat} {v : FieldValue} {items : List FieldValue} {xs ys : List Breach}
    (hxs : Lists (InItem Δ k v) xs) (hys : Lists (InItems Δ (k + 1) items) ys) :
    Lists (InItems Δ k (v :: items)) (xs ++ ys) := by
  refine (hxs.append hys ?_).congr inItems_cons_iff
  rintro x y hx ⟨j, w, -, hy⟩
  exact before_of_heads hx.head hy.head (by omega)

theorem not_at_of_notNamed {v : FieldValue} (h : v.named? = none) (x : Breach) :
    ¬x.At [] [] ⟨none, some v⟩ := by
  intro hat
  obtain ⟨rule, message, hbreaks, rfl⟩ := hat.exists_eq
  cases hbreaks
  cases h

theorem listsInner_of_plain {v : FieldValue} (hnamed : v.named? = none) (hrecord : v.record? = none)
    (hcollection : v.collection? = none) (herrors : innerErrors Δ v = []) : ListsInner Δ v [] := by
  refine ⟨herrors.symm, .nil fun x hx => ?_⟩
  rcases hx with hat | hinside
  · exact not_at_of_notNamed hnamed x hat
  · exact not_inside_of_plain hrecord hcollection x hinside

theorem exists_listsInner_named (v : NamedValue) : ∃ xs, ListsInner Δ (.named v) xs := by
  have hinside : ∀ x : Breach, ¬x.Inside Δ (.named v) := not_inside_of_plain rfl rfl
  cases hvalid : v.isValid with
  | true =>
    refine ⟨[], by simp [innerErrors, hvalid], .nil fun x hx => ?_⟩
    obtain ⟨rule, message, hbreaks, rfl⟩ := (hx.resolve_right (hinside x)).exists_eq
    cases hbreaks with
    | type _ fails => simp [NamedValue.isValid, fails] at hvalid
  | false =>
    refine ⟨[⟨[], .type, ⟨[], "is not a valid " ++ v.schema.name⟩⟩], by simp [innerErrors, hvalid],
      .single fun x => ?_⟩
    rw [or_iff_left (hinside x)]
    constructor
    · intro hat
      obtain ⟨rule, message, hbreaks, rfl⟩ := hat.exists_eq
      cases hbreaks
      rfl
    · rintro rfl
      exact ⟨rfl, rfl, .type nofun hvalid⟩

mutual

/-- Validation lists all that is broken, in order. -/
theorem exists_listsInner (v : FieldValue) : ∃ xs, ListsInner Δ v xs := by
  cases v with
  | entity ref slots =>
    obtain ⟨xs, hmap, hlists⟩ := exists_lists_slots 0 (Δ.entity ref).fields slots
    refine ⟨xs, by rw [hmap, innerErrors], hlists.congr fun x => ?_⟩
    rw [or_iff_right (not_at_of_notNamed rfl x), inside_entity_iff]
    simp only [InSlots, Nat.zero_add]
  | collection ref items =>
    obtain ⟨xs, hmap, hlists⟩ := exists_lists_items 0 items
    refine ⟨xs, by rw [hmap, innerErrors], hlists.congr fun x => ?_⟩
    rw [or_iff_right (not_at_of_notNamed rfl x), inside_collection_iff]
    simp only [InItems, Nat.zero_add]
  | named v => exact exists_listsInner_named v
  | _ => exact ⟨[], listsInner_of_plain rfl rfl rfl rfl⟩

theorem exists_lists_slots (k : Nat) (fields : List FieldSpec) (slots : Slots) :
    ∃ xs, xs.map Breach.error = slotErrors Δ fields slots ∧
      Lists (InSlots Δ k fields slots) xs := by
  cases slots with
  | nil => exact ⟨[], rfl, .nil fun x ⟨j, f, slot, _, hs, _⟩ => nomatch hs⟩
  | cons slot slots =>
    cases fields with
    | nil =>
      refine ⟨[], ?_, .nil fun x ⟨j, f, slot, hf, _⟩ => nomatch hf⟩
      cases slot <;> rw [slotErrors] <;> rfl
    | cons f fields =>
      obtain ⟨ys, hys, hlistsRest⟩ := exists_lists_slots (k + 1) fields slots
      cases slot with
      | none =>
        obtain ⟨xs, hxs, hlists⟩ := lists_unset (Δ := Δ) (k := k) (f := f)
        refine ⟨xs ++ ys, ?_, hlists.consSlot hlistsRest⟩
        rw [List.map_append, hxs, hys, slotErrors]
        split <;> rfl
      | some v =>
        obtain ⟨xs, hxs, hlists⟩ := lists_held (k := k) (f := f) (exists_listsInner v)
        refine ⟨xs ++ ys, ?_, hlists.consSlot hlistsRest⟩
        rw [List.map_append, hxs, hys, slotErrors]
        split <;> rfl

theorem exists_lists_items (k : Nat) (items : List FieldValue) :
    ∃ xs, xs.map Breach.error = itemErrors Δ k items ∧ Lists (InItems Δ k items) xs := by
  cases items with
  | nil => exact ⟨[], rfl, .nil fun x ⟨j, v, hv, _⟩ => nomatch hv⟩
  | cons v items =>
    obtain ⟨xs, hxs, hlists⟩ := lists_item (k := k) (exists_listsInner v)
    obtain ⟨ys, hys, hlistsRest⟩ := exists_lists_items (k + 1) items
    refine ⟨xs ++ ys, ?_, hlists.consItem hlistsRest⟩
    rw [List.map_append, hxs, hys, itemErrors]

end

end RestRecords
