import RestRecords.Proofs.Binding.RoundTrip
import RestRecords.Proofs.Json.ReadBack
/-!
# Binding the text that was stored

The text of an entity that was read from a text binds to an entity that is equal to it, as long as
its lists and objects nest no deeper than the reader goes. They may nest deeper than in the text it
was read from: a collection may be given as its only element, and is stored as a list.
-/

namespace RestRecords

/-- Whether a value is another one or inside it, at any depth. -/
inductive Json.Contains : Json → Json → Prop where
  | self (j : Json) : Contains j j
  | item {items : List Json} {a b : Json} (member : a ∈ items) (rest : Contains a b) :
    Contains (.arr items) b
  | entry {entries : List (String × Json)} {e : String × Json} {b : Json} (member : e ∈ entries)
    (rest : Contains e.2 b) : Contains (.obj entries) b

/-- Whether the numbers of a value come back from their texts: its integers are words of 64 bits, as
all integers of the format are, and its doubles are among those that the reader gives back. -/
structure Json.HasPlainNumbers (j : Json) : Prop where
  words : ∀ i, j.Contains (.int i) → Json.IsWord i
  doubles : ∀ x, j.Contains (.float x) → x.IsReadBack

open FieldValue

variable {Δ : Catalog}

namespace Json

theorem hasPlainNumbers_arr_iff {items : List Json} :
    (Json.arr items).HasPlainNumbers ↔ ∀ a ∈ items, a.HasPlainNumbers := by
  constructor
  · intro h a ha
    exact ⟨fun i hi => h.words i (.item ha hi), fun x hx => h.doubles x (.item ha hx)⟩
  · intro h
    constructor
    · intro i hi
      cases hi with
      | item ha hi => exact (h _ ha).words i hi
    · intro x hx
      cases hx with
      | item ha hx => exact (h _ ha).doubles x hx

theorem hasPlainNumbers_obj_iff {entries : List (String × Json)} :
    (Json.obj entries).HasPlainNumbers ↔ ∀ e ∈ entries, e.2.HasPlainNumbers := by
  constructor
  · intro h e he
    exact ⟨fun i hi => h.words i (.entry he hi), fun x hx => h.doubles x (.entry he hx)⟩
  · intro h
    constructor
    · intro i hi
      cases hi with
      | entry he hi => exact (h _ he).words i hi
    · intro x hx
      cases hx with
      | entry he hx => exact (h _ he).doubles x hx

theorem Legible.of_isScalar {j : Json} (hscalar : j.IsScalar) (hnumbers : j.HasPlainNumbers) :
    j.Legible := by
  cases j with
  | null => exact .null
  | bool b => exact .bool b
  | int i => exact .int (hnumbers.words i (.self _))
  | float x => exact .float (hnumbers.doubles x (.self _))
  | str s => exact .str s
  | arr => cases hscalar
  | obj => cases hscalar

end Json

/-- The JSON of an instance can be read from its text, if its numbers can. -/
theorem Instance.legible {kind : Kind} {v : FieldValue} (h : Instance Δ kind v)
    (hregular : kind.IsRegularThroughout Δ) (hnumbers : (v.toJson Δ).HasPlainNumbers) :
    (v.toJson Δ).Legible := by
  induction h with
  | bool | int | float | str | dateTime => exact .of_isScalar trivial hnumbers
  | @enumCase _ _ e found =>
    have hscalar : e.case.backing.toJson.IsScalar := by
      cases e.case.backing <;> trivial
    exact .of_isScalar hscalar hnumbers
  | named bound => exact .of_isScalar (NamedValue.isScalar_payload hregular.self bound) hnumbers
  | @entity ref slots length nulls parts ih =>
    rw [toJson, Json.ofEntries_eq] at hnumbers ⊢
    refine .obj (Json.ascends_sortEntries _) fun e he => ?_
    obtain ⟨i, f, v, hf, hs, hkept, rfl⟩ := mem_slotEntries_iff.1 (Json.mem_of_mem_sortEntries he)
    exact ih i f v hf hs (ne_null_of_kept hkept) (hregular.field hf)
      (Json.hasPlainNumbers_obj_iff.1 hnumbers _ he)
  | @collection ref items parts ih =>
    rw [toJson, itemsJson_eq_map] at hnumbers ⊢
    refine .arr fun a ha => ?_
    obtain ⟨v, hv, rfl⟩ := List.mem_map.1 ha
    exact ih v hv hregular.element (Json.hasPlainNumbers_arr_iff.1 hnumbers _ ha)

theorem FillsSlots.ofText_toText {r : Record} (h : FillsSlots Δ (Δ.entity r.ref) r.slots)
    (hregular : (Kind.entity r.ref).IsRegularThroughout Δ)
    (htimeless : ¬(Kind.entity r.ref).Reaches Δ .dateTime)
    (hnumbers : (r.toJson Δ).HasPlainNumbers) :
    (Record.ofText Δ r.ref (r.toText Δ)).outcome =
      if (r.toJson Δ).depth ≤ Json.maxDepth then
        .ok ⟨r.ref, compactSlots Δ (Δ.entity r.ref).fields r.slots⟩
      else Outcome.fail .json := by
  have hinst : Instance Δ (.entity r.ref) (ofRecord r) := .of_fillsSlots h
  have hread : Json.read? (r.toText Δ) =
      if (r.toJson Δ).depth ≤ Json.maxDepth then some (r.toJson Δ) else none :=
    (hinst.legible hregular hnumbers).read?_text
  by_cases hdepth : (r.toJson Δ).depth ≤ Json.maxDepth
  · rw [if_pos hdepth] at hread ⊢
    rw [Record.ofText, hread]
    exact h.ofJson_toJson hregular (hinst.hasPlainYears htimeless)
  · rw [if_neg hdepth] at hread ⊢
    rw [Record.ofText, hread]
    rfl

/-- The text of an entity that was read from a text binds to an entity that is equal to it exactly if
its lists and objects nest no deeper than the reader goes; otherwise it is refused as no JSON. -/
theorem ofText_toText_iff_depth_le {ref : EntityRef} {text : String} {r : Record}
    (h : (Record.ofText Δ ref text).outcome = .ok r)
    (hregular : (Kind.entity ref).IsRegularThroughout Δ)
    (htimeless : ¬(Kind.entity ref).Reaches Δ .dateTime)
    (hnumbers : (r.toJson Δ).HasPlainNumbers) :
    ((∃ r', (Record.ofText Δ ref (r.toText Δ)).outcome = .ok r' ∧ r'.same r = true) ↔
      (r.toJson Δ).depth ≤ Json.maxDepth) ∧
    (Json.maxDepth < (r.toJson Δ).depth →
      (Record.ofText Δ ref (r.toText Δ)).outcome = Outcome.fail .json) := by
  obtain ⟨rfl, hslots⟩ := FillsSlots.of_ofText h
  have houtcome := hslots.ofText_toText hregular htimeless hnumbers
  by_cases hdepth : (r.toJson Δ).depth ≤ Json.maxDepth
  · rw [if_pos hdepth] at houtcome
    refine ⟨iff_of_true ⟨_, houtcome, hslots.same_compact⟩ hdepth, fun hdeep => ?_⟩
    omega
  · rw [if_neg hdepth] at houtcome
    refine ⟨iff_of_false ?_ hdepth, fun _ => houtcome⟩
    rintro ⟨r', hr', -⟩
    cases houtcome.symm.trans hr'

namespace Sample

def tree : EntityRef := ⟨"Tree", 0⟩

def trees : CollectionRef := ⟨"Trees", 0⟩

def forest : Catalog where
  entities :=
    [⟨[{ name := "weight", kind := .float, nullable := true },
      { name := "children", kind := .collection trees, nullable := true }], none⟩]
  collections := [⟨.entity tree, false⟩]

theorem reaches_tree {P : Kind → Prop} {other : Kind} (h : (Kind.entity tree).Reaches forest other)
    (htree : P (.entity tree)) (hstr : P .str) (hfloat : P .float) (htrees : P (.collection trees)) :
    P other := by
  refine h.induction htree hstr ?_ ?_
  · simp only [forest, List.forall_mem_cons, List.not_mem_nil, false_imp_iff, implies_true, and_true]
    exact ⟨hfloat, htrees⟩
  · simp only [forest, List.forall_mem_cons, List.not_mem_nil, false_imp_iff, implies_true, and_true]
    exact htree

theorem isRegular_tree : (Kind.entity tree).IsRegularThroughout forest := by
  have htree : (Kind.entity tree).IsRegular forest := by
    show ["weight", "children"].Nodup
    decide
  exact fun other h => reaches_tree h htree trivial trivial trivial

theorem timeless_tree : ¬(Kind.entity tree).Reaches forest .dateTime :=
  fun h => reaches_tree (P := (· ≠ .dateTime)) h nofun nofun nofun nofun rfl

def half : FiniteDouble := ⟨false, Nat.pow 2 1073, by decide +kernel⟩

theorem isReadBack_half : half.IsReadBack := by
  decide +kernel

/-- Data of trees, each of which is the only child of the one around it and stands there alone. -/
def nested : Nat → Json
  | 0 => .obj [("weight", .float half)]
  | n + 1 => .obj [("children", nested n)]

def grown : Nat → Slots
  | 0 => [some (.float (.finite half)), none]
  | n + 1 => [none, some (.collection trees [.entity tree (grown n)])]

theorem legible_nested (n : Nat) : (nested n).Legible := by
  induction n with
  | zero =>
    exact .obj (List.pairwise_singleton _ _) (List.forall_mem_singleton.2 (.float isReadBack_half))
  | succ n ih => exact .obj (List.pairwise_singleton _ _) (List.forall_mem_singleton.2 ih)

theorem depth_nested (n : Nat) : (nested n).depth = n + 1 := by
  induction n with
  | zero => rfl
  | succ n ih =>
    calc (nested (n + 1)).depth
      _ = max (nested n).depth 0 + 1 := rfl
      _ = n + 1 + 1 := by rw [ih, Nat.max_zero]

theorem hasPlainNumbers_grown (n : Nat) :
    ((Record.mk tree (grown n)).toJson forest).HasPlainNumbers := by
  induction n with
  | zero =>
    refine Json.hasPlainNumbers_obj_iff.2 (List.forall_mem_singleton.2 ?_)
    constructor <;> intro x hx <;> cases hx
    exact isReadBack_half
  | succ n ih =>
    refine Json.hasPlainNumbers_obj_iff.2 (List.forall_mem_singleton.2 ?_)
    exact Json.hasPlainNumbers_arr_iff.2 (List.forall_mem_singleton.2 ih)

theorem depth_grown (n : Nat) : ((Record.mk tree (grown n)).toJson forest).depth = 2 * n + 1 := by
  induction n with
  | zero => rfl
  | succ n ih =>
    calc ((Record.mk tree (grown (n + 1))).toJson forest).depth
      _ = max (max ((Record.mk tree (grown n)).toJson forest).depth 0 + 1) 0 + 1 := rfl
      _ = 2 * (n + 1) + 1 := by rw [ih]; omega

theorem entity_nested {n : Nat}
    {bindField : EntityDecl → FieldSpec → Json → Traced (Option FieldValue)}
    (h : (bindField (forest.entity tree) ⟨"children", .collection trees, true, none⟩
      (nested n)).outcome = .ok (some (.collection trees [.entity tree (grown n)]))) :
    (Bind.entity forest bindField tree (nested (n + 1))).outcome = .ok ⟨tree, grown (n + 1)⟩ := by
  have hindex : (forest.entity tree).index? "children" = some 1 := by decide
  have hfield : (forest.entity tree).fields[1]? =
      some ⟨"children", .collection trees, true, none⟩ := rfl
  rw [nested, Bind.entity, if_neg (show ¬(Json.obj _).isNull = true from Bool.false_ne_true)]
  simp only [Bind.update, Bind.assign, hindex, hfield, h, Traced.outcome_bind, Except.bind]
  rfl

theorem collection_nested {n : Nat}
    {bindElement : Kind → Step → Json → Traced (Option FieldValue)}
    (h : (bindElement (.entity tree) (.index 0) (nested n)).outcome =
      .ok (some (.entity tree (grown n)))) :
    (Bind.collection forest bindElement trees (nested n)).outcome =
      .ok ⟨trees, [.entity tree (grown n)]⟩ := by
  have helements : Bind.elements trees.name (nested n) = [nested n] := by
    cases n <;> rfl
  have helement : (Bind.element forest (bindElement (.entity tree)) (.entity tree) 0
      (nested n)).outcome = .ok (.entity tree (grown n)) := by
    unfold Bind.element
    split
    · cases n <;> contradiction
    · rw [Traced.outcome_bind_of_ok h]
      rfl
  have hitems : (Bind.items (Bind.element forest (bindElement (.entity tree)) (.entity tree)) 0
      [nested n]).outcome = .ok [.entity tree (grown n)] := by
    rw [Bind.items, Traced.outcome_bind_of_ok helement]
    rfl
  rw [Bind.collection, helements]
  exact Traced.outcome_bind_of_ok hitems

theorem children_nested (n : Nat) {left : Nat} (h : 2 * n + 2 < left) (place : Step)
    (nullable : Bool) :
    (Bind.kindWithin forest left place (.collection trees) nullable (nested n)).outcome =
      .ok (some (.collection trees [.entity tree (grown n)])) := by
  induction n generalizing left place nullable with
  | zero =>
    obtain ⟨left, rfl⟩ : ∃ k, left = k + 3 := ⟨left - 3, by omega⟩
    rfl
  | succ n ih =>
    obtain ⟨left, rfl⟩ : ∃ k, left = k + 2 := ⟨left - 2, by omega⟩
    have hchild := ih (show 2 * n + 2 < left by omega) (.field "children") true
    have htree : (Bind.kindWithin forest (left + 1) (.index 0) (.entity tree) false
        (nested (n + 1))).outcome = .ok (some (.entity tree (grown (n + 1)))) :=
      kindWithin_of_entity rfl (entity_nested hchild)
    exact kindWithin_of_collection rfl (collection_nested htree)

theorem ofText_nested {n : Nat} (h : n < 126) :
    (Record.ofText forest tree (nested (n + 1)).text).outcome = .ok ⟨tree, grown (n + 1)⟩ := by
  have hread : Json.read? (nested (n + 1)).text = some (nested (n + 1)) := by
    have hdepth : (nested (n + 1)).depth ≤ Json.maxDepth := by
      rw [depth_nested, Json.maxDepth]
      omega
    rw [(legible_nested (n + 1)).read?_text, if_pos hdepth]
  rw [Record.ofText, hread]
  refine entity_nested (children_nested n ?_ (.field "children") true)
  have hleft : Bind.depthFor forest (nested n) = (n + 1 + 1) * 3 + 1 := by
    rw [Bind.depthFor, depth_nested]
    rfl
  omega

end Sample

open Sample in
/-- Of trees that stand alone, 64 one inside the other are stored 127 deep and come back. -/
theorem ofText_toText_nested :
    (Record.ofText forest tree (nested 63).text).outcome = .ok ⟨tree, grown 63⟩ ∧
    ∃ r', (Record.ofText forest tree ((Record.mk tree (grown 63)).toText forest)).outcome = .ok r' ∧
      r'.same ⟨tree, grown 63⟩ = true := by
  have hread : (Record.ofText forest tree (nested 63).text).outcome = .ok ⟨tree, grown 63⟩ :=
    ofText_nested (by decide)
  have hdepth : ((Record.mk tree (grown 63)).toJson forest).depth ≤ Json.maxDepth := by
    rw [depth_grown]
    decide
  exact ⟨hread, (ofText_toText_iff_depth_le hread isRegular_tree timeless_tree
    (hasPlainNumbers_grown 63)).1.2 hdepth⟩

open Sample in
/-- One tree more is read all the same, but is stored 129 deep, and that cannot be read. -/
theorem not_ofText_toText_nested :
    (Kind.entity tree).IsRegularThroughout forest ∧ ¬(Kind.entity tree).Reaches forest .dateTime ∧
    (Record.ofText forest tree (nested 64).text).outcome = .ok ⟨tree, grown 64⟩ ∧
    (Record.ofText forest tree ((Record.mk tree (grown 64)).toText forest)).outcome =
      Outcome.fail .json := by
  have hread : (Record.ofText forest tree (nested 64).text).outcome = .ok ⟨tree, grown 64⟩ :=
    ofText_nested (by decide)
  have hslots : FillsSlots forest (forest.entity tree) (grown 64) := (FillsSlots.of_ofText hread).2
  have hdeep : ¬((Record.mk tree (grown 64)).toJson forest).depth ≤ Json.maxDepth := by
    rw [depth_grown]
    decide
  refine ⟨isRegular_tree, timeless_tree, hread, ?_⟩
  rw [FillsSlots.ofText_toText (r := ⟨tree, grown 64⟩) hslots isRegular_tree timeless_tree
    (hasPlainNumbers_grown 64), if_neg hdeep]

end RestRecords
