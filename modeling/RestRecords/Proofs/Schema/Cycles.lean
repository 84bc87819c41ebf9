import Mathlib.Data.Finset.Card
import Mathlib.Logic.Relation
import RestRecords.Schema.Catalog
/-!
# Cycles of declarations

Declarations may refer to each other in cycles. Steps through declarations that lie on no cycle come
to an end, and after no more of them than there are declarations.
-/

namespace RestRecords

open Relation

section Chains

variable {α : Type} {R : α → α → Prop}

/-- Whether `n` steps can be taken from `a` on. -/
def HasChain (R : α → α → Prop) : Nat → α → Prop
  | 0, _ => True
  | n + 1, a => ∃ b, R a b ∧ HasChain R n b

theorem HasChain.exists_path {n : Nat} {a : α} (h : HasChain R n a) :
    ∃ path : Nat → α, path 0 = a ∧ ∀ i < n, R (path i) (path (i + 1)) := by
  induction n generalizing a with
  | zero => exact ⟨fun _ => a, rfl, fun i hi => absurd hi (Nat.not_lt_zero i)⟩
  | succ n ih =>
    obtain ⟨b, hstep, hrest⟩ := h
    obtain ⟨path, rfl, hpath⟩ := ih hrest
    refine ⟨fun i => i.casesOn a path, rfl, fun i hi => ?_⟩
    cases i with
    | zero => exact hstep
    | succ i => exact hpath i (by omega)

/-- From where a cycle is reached, steps can be taken without end. -/
theorem hasChain_of_cycle {a b : α} (hreach : ReflTransGen R a b) (hcycle : TransGen R b b)
    (n : Nat) : HasChain R n a := by
  induction n generalizing a with
  | zero => trivial
  | succ n ih =>
    rcases hreach.cases_head with rfl | ⟨c, hstep, hrest⟩
    · obtain ⟨c, hstep, hrest⟩ := TransGen.head'_iff.1 hcycle
      exact ⟨c, hstep, ih hrest⟩
    · exact ⟨c, hstep, ih hrest⟩

variable {key : α → Nat} {m : Nat}

/-- If only a few keys are in use, two of the steps along a path leave from one key. -/
theorem exists_same_key (path : Nat → α) (hkeys : ∀ i ≤ m, key (path i) < m) :
    ∃ i j, i < j ∧ j ≤ m ∧ key (path i) = key (path j) := by
  have hcard : (Finset.range m).card < (Finset.range (m + 1)).card := by
    simp only [Finset.card_range]
    omega
  have hmaps : Set.MapsTo (fun i => key (path i)) (Finset.range (m + 1)) (Finset.range m) := by
    intro i hi
    have hle : i < m + 1 := by simpa using hi
    simpa using hkeys i (by omega)
  obtain ⟨i, hi, j, hj, hne, heq⟩ := Finset.exists_ne_map_eq_of_card_lt_of_maps_to hcard hmaps
  rw [Finset.mem_range] at hi hj
  rcases Nat.lt_or_gt_of_ne hne with hlt | hgt
  · exact ⟨i, j, hlt, by omega, heq⟩
  · exact ⟨j, i, hgt, by omega, heq.symm⟩

/-- Where the steps from an element depend on its key alone, a path that comes back to a key goes
round. -/
theorem exists_cycle (hkey : ∀ a b c, key a = key b → R a c → R b c) (path : Nat → α) {n : Nat}
    (hpath : ∀ i < n, R (path i) (path (i + 1))) (hmn : m ≤ n) (hkeys : ∀ i ≤ m, key (path i) < m) :
    ∃ a, TransGen R a a := by
  obtain ⟨i, j, hij, hjm, heq⟩ := exists_same_key path hkeys
  have hreach : ∀ k, i + 1 + k ≤ n → ReflTransGen R (path (i + 1)) (path (i + 1 + k)) := by
    intro k
    induction k with
    | zero => exact fun _ => .refl
    | succ k ih => exact fun hk => (ih (by omega)).tail (hpath _ (by omega))
  have hback := hreach (j - (i + 1)) (by omega)
  rw [Nat.add_sub_cancel' hij] at hback
  exact ⟨path j, .head' (hkey _ _ _ heq (hpath i (by omega))) hback⟩

variable (R) (key : α → Nat) (hkey : ∀ a b c, key a = key b → R a c → R b c)
  (hacyclic : ∀ a, ¬TransGen R a a)

include hkey hacyclic

/-- If every step leaves from one of `m` keys, there are at most `m` of them. -/
theorem not_hasChain_succ (hsource : ∀ a b, R a b → key a < m) (a : α) : ¬HasChain R (m + 1) a := by
  intro h
  obtain ⟨path, -, hpath⟩ := h.exists_path
  obtain ⟨b, hcycle⟩ := exists_cycle hkey path hpath (Nat.le_succ m)
    fun i hi => hsource _ _ (hpath i (by omega))
  exact hacyclic b hcycle

/-- If every step leads to one of `m` keys, too, there are fewer from each of these. -/
theorem not_hasChain_of_closed (hclosed : ∀ a b, R a b → key b < m) {a : α} (ha : key a < m) :
    ¬HasChain R m a := by
  intro h
  obtain ⟨path, rfl, hpath⟩ := h.exists_path
  have hkeys : ∀ i ≤ m, key (path i) < m := by
    intro i hi
    cases i with
    | zero => exact ha
    | succ i => exact hclosed _ _ (hpath i (by omega))
  obtain ⟨b, hcycle⟩ := exists_cycle hkey path hpath (Nat.le_refl m) hkeys
  exact hacyclic b hcycle

end Chains

/-! ## What a kind forces to be made -/

/-- What has to be made where a kind is made out of nothing, or out of one value that is no list:
the entities of required fields, and the element of a collection. The kind of a field is the one it
is bound as. -/
inductive Kind.Forces (Δ : Catalog) : Kind → Kind → Prop where
  | field {ref other : EntityRef} {f : FieldSpec} (declared : f ∈ (Δ.entity ref).fields)
    (required : f.nullable = false) (bound : (Δ.entity ref).bindingKind f = .entity other) :
    Forces Δ (.entity ref) (.entity other)
  | element (ref : CollectionRef) : Forces Δ (.collection ref) (Δ.collection ref).element

def EntityRef.Requires (Δ : Catalog) (ref other : EntityRef) : Prop :=
  Kind.Forces Δ (.entity ref) (.entity other)

def CollectionRef.Holds (Δ : Catalog) (ref other : CollectionRef) : Prop :=
  Kind.Forces Δ (.collection ref) (.collection other)

/-- Whether the entities that are required are declared. -/
def Catalog.IsClosed (Δ : Catalog) : Prop :=
  ∀ ref other : EntityRef, ref.Requires Δ other → other.key < Δ.entities.length

variable {Δ : Catalog}

namespace EntityRef.Requires

variable {ref other again : EntityRef}

theorem of_key_eq (hkey : ref.key = again.key) (h : ref.Requires Δ other) :
    again.Requires Δ other := by
  have hentity : Δ.entity again = Δ.entity ref := by rw [Catalog.entity, Catalog.entity, hkey]
  cases h with
  | field declared required bound =>
    rw [← hentity] at declared bound
    exact .field declared required bound

theorem key_lt (h : ref.Requires Δ other) : ref.key < Δ.entities.length := by
  rcases Nat.lt_or_ge ref.key Δ.entities.length with hlt | hge
  · exact hlt
  · cases h with
    | field declared required bound =>
      rw [Catalog.entity, List.getElem?_eq_none hge] at declared
      cases declared

end EntityRef.Requires

namespace CollectionRef.Holds

variable {ref other again : CollectionRef}

theorem element_eq (h : ref.Holds Δ other) : (Δ.collection ref).element = .collection other := by
  unfold CollectionRef.Holds at h
  generalize hkind : Kind.collection other = kind at h
  cases h with
  | element => rfl

theorem of_element_eq (h : (Δ.collection ref).element = .collection other) : ref.Holds Δ other := by
  rw [CollectionRef.Holds, ← h]
  exact .element ref

theorem of_key_eq (hkey : ref.key = again.key) (h : ref.Holds Δ other) : again.Holds Δ other := by
  refine of_element_eq ?_
  rw [← h.element_eq, Catalog.collection, Catalog.collection, hkey]

theorem key_lt (h : ref.Holds Δ other) : ref.key < Δ.collections.length := by
  rcases Nat.lt_or_ge ref.key Δ.collections.length with hlt | hge
  · exact hlt
  · have helement := h.element_eq
    rw [Catalog.collection, List.getElem?_eq_none hge] at helement
    cases helement

end CollectionRef.Holds

namespace Kind.Forces

theorem hasChain_requires {n : Nat} {ref : EntityRef} (h : HasChain (Forces Δ) n (.entity ref)) :
    HasChain (EntityRef.Requires Δ) n ref := by
  induction n generalizing ref with
  | zero => trivial
  | succ n ih =>
    obtain ⟨kind, hstep, hrest⟩ := h
    cases hstep with
    | @field _ other f declared required bound =>
      exact ⟨other, .field declared required bound, ih hrest⟩

theorem reflTransGen_holds {kind : Kind} {other : CollectionRef}
    (h : ReflTransGen (Forces Δ) kind (.collection other)) :
    ∃ ref, kind = .collection ref ∧ ReflTransGen (CollectionRef.Holds Δ) ref other := by
  induction h using ReflTransGen.head_induction_on with
  | refl => exact ⟨other, rfl, .refl⟩
  | head hstep _ ih =>
    obtain ⟨next, rfl, hrest⟩ := ih
    generalize hkind : Kind.collection next = kind at hstep
    cases hstep with
    | field => cases hkind
    | element ref => exact ⟨ref, rfl, .head (.of_element_eq hkind.symm) hrest⟩

theorem transGen_holds {ref : CollectionRef}
    (h : TransGen (Forces Δ) (.collection ref) (.collection ref)) :
    TransGen (CollectionRef.Holds Δ) ref ref := by
  obtain ⟨kind, hstep, hrest⟩ := TransGen.head'_iff.1 h
  obtain ⟨next, rfl, hholds⟩ := reflTransGen_holds hrest
  exact .head' hstep hholds

section

variable (hacyclic : ∀ ref, ¬TransGen (Forces Δ) (.entity ref) (.entity ref))

include hacyclic

theorem not_transGen_requires (ref : EntityRef) : ¬TransGen (EntityRef.Requires Δ) ref ref :=
  fun hcycle => hacyclic ref (hcycle.lift Kind.entity fun _ _ => id)

theorem not_hasChain_entity (ref : EntityRef) :
    ¬HasChain (Forces Δ) (Δ.entities.length + 1) (.entity ref) := by
  intro h
  have hshort : ¬HasChain (EntityRef.Requires Δ) (Δ.entities.length + 1) ref :=
    not_hasChain_succ (EntityRef.Requires Δ) EntityRef.key
      (fun _ _ _ => EntityRef.Requires.of_key_eq) (not_transGen_requires hacyclic)
      (fun _ _ => EntityRef.Requires.key_lt) ref
  exact hshort (hasChain_requires h)

theorem not_hasChain_of_isClosed (hclosed : Δ.IsClosed) {ref : EntityRef}
    (hdeclared : ref.key < Δ.entities.length) :
    ¬HasChain (Forces Δ) Δ.entities.length (.entity ref) := by
  intro h
  have hshort : ¬HasChain (EntityRef.Requires Δ) Δ.entities.length ref :=
    not_hasChain_of_closed (EntityRef.Requires Δ) EntityRef.key
      (fun _ _ _ => EntityRef.Requires.of_key_eq) (not_transGen_requires hacyclic) hclosed hdeclared
  exact hshort (hasChain_requires h)

end

theorem not_hasChain_collection
    (hacyclic : ∀ ref, ¬TransGen (Forces Δ) (.collection ref) (.collection ref))
    (ref : CollectionRef) :
    ¬HasChain (CollectionRef.Holds Δ) (Δ.collections.length + 1) ref :=
  not_hasChain_succ (CollectionRef.Holds Δ) CollectionRef.key
    (fun _ _ _ => CollectionRef.Holds.of_key_eq)
    (fun ref hcycle => hacyclic ref (hcycle.lift Kind.collection fun _ _ => id))
    (fun _ _ => CollectionRef.Holds.key_lt) ref

theorem not_transGen_of_rank {rank : Kind → Nat}
    (hrank : ∀ kind other, Forces Δ kind other → rank other < rank kind) (kind : Kind) :
    ¬TransGen (Forces Δ) kind kind := by
  have hfalls : ∀ other, TransGen (Forces Δ) kind other → rank other < rank kind := by
    intro other h
    induction h with
    | single hstep => exact hrank _ _ hstep
    | tail _ hstep ih => exact Nat.lt_trans (hrank _ _ hstep) ih
  exact fun hcycle => Nat.lt_irrefl _ (hfalls kind hcycle)

end Kind.Forces

end RestRecords
