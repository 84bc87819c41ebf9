import RestRecords.Proofs.Binding.Representation
import RestRecords.Proofs.Collection.Comparisons
/-!
# Searching by an integer

Integers are compared with an integer as the doubles nearest to them. The order of doubles is that of
the integers, so an item is missed, or found in vain, exactly if its integer is another one than the
needle and is rounded to the same double. Below `2 ^ 53` no two integers are.
-/

namespace RestRecords

/-- Whether two integers are rounded to the same double. -/
def ShareDouble (a b : Int) : Prop :=
  FiniteDouble.ofInt? a = FiniteDouble.ofInt? b

instance (a b : Int) : Decidable (ShareDouble a b) :=
  inferInstanceAs (Decidable (FiniteDouble.ofInt? a = FiniteDouble.ofInt? b))

/-- The integer in a field of an item that is an entity, where the field is set and not null. -/
def FieldValue.intAt? (Δ : Catalog) (field : String) (v : FieldValue) : Option Int64 :=
  v.record?.bind fun r => r.int? Δ field

namespace Collection

/-- The items whose field is set to an integer that satisfies `p`, in their order. -/
def selectInt (Δ : Catalog) (c : Collection) (field : String) (p : Int → Prop) [DecidablePred p] :
    List FieldValue :=
  c.items.filter fun v => (v.intAt? Δ field).any fun i => p i.toInt

/-- Whether the items of a collection are as declared, and those that are entities have a field of
integers of that name. -/
structure HasIntField (Δ : Catalog) (c : Collection) (field : String) : Prop where
  wellFormed : (FieldValue.ofCollection c).WellFormed Δ
  declared : ∀ v ∈ c.items, ∀ r, v.record? = some r →
    ∃ f, (Δ.entity r.ref).field? field = some f ∧ (Δ.entity r.ref).bindingKind f = .int

end Collection

open FieldValue

variable {Δ : Catalog} {c : Collection} {field : String}

/-! ## Integers as doubles -/

theorem exists_ofInt?_of_int64 (i : Int64) : ∃ x, FiniteDouble.ofInt? i.toInt = some x := by
  have hlow : -(9223372036854775808 : Int) ≤ i.toInt := Int64.minValue_le_toInt i
  have hhigh : i.toInt ≤ 9223372036854775807 := Int64.toInt_le i
  have hbound : i.toInt.natAbs ≤ Nat.pow 2 64 := by
    have hpow : Nat.pow 2 64 = 18446744073709551616 := rfl
    omega
  exact FiniteDouble.exists_ofInt? hbound

theorem shareDouble_iff {a b : Int} {x y : FiniteDouble} (ha : FiniteDouble.ofInt? a = some x)
    (hb : FiniteDouble.ofInt? b = some y) : ShareDouble a b ↔ x = y := by
  rw [ShareDouble, ha, hb, Option.some.injEq]

theorem shareDouble_comm {a b : Int} : ShareDouble a b ↔ ShareDouble b a :=
  eq_comm

/-- Doubles nearest to integers are in the order of these, unless they are the same. -/
theorem lt_iff_of_ofInt? {a b : Int} {x y : FiniteDouble} (ha : FiniteDouble.ofInt? a = some x)
    (hb : FiniteDouble.ofInt? b = some y) : x < y ↔ a < b ∧ ¬ShareDouble a b := by
  rw [FiniteDouble.lt_iff, shareDouble_iff ha hb]
  constructor
  · intro hlt
    refine ⟨?_, ?_⟩
    · apply Int.not_le.1
      intro hle
      have hge := FiniteDouble.toInt_le_toInt hb ha hle
      omega
    · rintro rfl
      omega
  · rintro ⟨hlt, hne⟩
    have hle := FiniteDouble.toInt_le_toInt ha hb (Int.le_of_lt hlt)
    have hdiffer : x.toInt ≠ y.toInt := fun heq => hne (FiniteDouble.eq_of_toInt_eq ha hb heq)
    omega

namespace Comparison

theorem inUnits?_int {i : Int} {x : FiniteDouble} (h : FiniteDouble.ofInt? i = some x) :
    inUnits? (.int i) = some x.toInt :=
  congrArg (Option.map FiniteDouble.toInt) h

variable (i n : Int64)

theorem holds_equals_int_iff :
    Test.holds (.int i.toInt) (.equals (.int n.toInt)) = true ↔ ShareDouble i.toInt n.toInt := by
  obtain ⟨x, hx⟩ := exists_ofInt?_of_int64 i
  obtain ⟨y, hy⟩ := exists_ofInt?_of_int64 n
  rw [holds_equals_iff_eq (inUnits?_int hx) (inUnits?_int hy) rfl, shareDouble_iff hx hy]
  exact ⟨FiniteDouble.eq_of_toInt_eq hx hy, congrArg FiniteDouble.toInt⟩

theorem holds_greaterThan_int_iff :
    Test.holds (.int i.toInt) (.greaterThan (.int n.toInt)) = true ↔
      n.toInt < i.toInt ∧ ¬ShareDouble i.toInt n.toInt := by
  obtain ⟨x, hx⟩ := exists_ofInt?_of_int64 i
  obtain ⟨y, hy⟩ := exists_ofInt?_of_int64 n
  rw [holds_greaterThan_iff_lt (inUnits?_int hx) (inUnits?_int hy), ← FiniteDouble.lt_iff,
    lt_iff_of_ofInt? hy hx, shareDouble_comm]

theorem holds_lessThan_int_iff :
    Test.holds (.int i.toInt) (.lessThan (.int n.toInt)) = true ↔
      i.toInt < n.toInt ∧ ¬ShareDouble i.toInt n.toInt := by
  obtain ⟨x, hx⟩ := exists_ofInt?_of_int64 i
  obtain ⟨y, hy⟩ := exists_ofInt?_of_int64 n
  rw [holds_lessThan_iff_lt (inUnits?_int hx) (inUnits?_int hy), ← FiniteDouble.lt_iff,
    lt_iff_of_ofInt? hx hy]

end Comparison

/-! ## Fields of integers -/

namespace Collection

theorem comparedValue?_of_hasIntField (h : c.HasIntField Δ field) {v : FieldValue}
    (hv : v ∈ c.items) :
    comparedValue? Δ field v = (v.intAt? Δ field).map fun i => .int i.toInt := by
  have hself : v.IsDeclared Δ := h.wellFormed v (.inside hv (.self v))
  unfold comparedValue? FieldValue.intAt?
  cases hr : v.record? with
  | none => rfl
  | some r =>
    obtain ⟨f, hf, hkind⟩ := h.declared v hv r hr
    have hslots : FitsSlots (Δ.entity r.ref) r.slots := by
      cases v <;> cases hr
      exact hself
    simp only [Option.bind_some, Record.int?]
    cases hget : r.get? Δ field with
    | none => rfl
    | some w =>
      obtain ⟨i, hi, hslot⟩ := Option.bind_eq_some_iff.1 hget
      have hfits := hslots.fits i f w (getElem?_index? hi hf) (Option.join_eq_some_iff.1 hslot)
      rw [hkind] at hfits
      cases w with
      | null => rfl
      | int => rfl
      | _ => cases hfits

theorem search_eq_selectInt (h : c.HasIntField Δ field) {needle : Json} {cmp : Comparison}
    {test : Comparison.Test} (hprepare : cmp.prepare needle = .ok test) {p : Int → Prop}
    [DecidablePred p] (htest : ∀ i : Int64, test.holds (.int i.toInt) = true ↔ p i.toInt) :
    c.search Δ field needle cmp = .ok (c.selectInt Δ field p) := by
  have hfilter : c.items.filter (isHit Δ field test) = c.selectInt Δ field p := by
    apply List.filter_congr
    intro v hv
    rw [isHit, comparedValue?_of_hasIntField h hv]
    cases v.intAt? Δ field with
    | none => rfl
    | some i =>
      rw [Option.map_some, Option.any_some, Option.any_some, Bool.eq_iff_iff, decide_eq_true_eq]
      exact htest i
  rw [search, hprepare, Except.map, hfilter]

theorem search_equals_int (h : c.HasIntField Δ field) (n : Int64) :
    c.search Δ field (.int n.toInt) .equals =
      .ok (c.selectInt Δ field fun a => ShareDouble a n.toInt) :=
  search_eq_selectInt h rfl fun i => Comparison.holds_equals_int_iff i n

theorem search_greaterThan_int (h : c.HasIntField Δ field) (n : Int64) :
    c.search Δ field (.int n.toInt) .greaterThan =
      .ok (c.selectInt Δ field fun a => n.toInt < a ∧ ¬ShareDouble a n.toInt) :=
  search_eq_selectInt h rfl fun i => Comparison.holds_greaterThan_int_iff i n

theorem search_lessThan_int (h : c.HasIntField Δ field) (n : Int64) :
    c.search Δ field (.int n.toInt) .lessThan =
      .ok (c.selectInt Δ field fun a => a < n.toInt ∧ ¬ShareDouble a n.toInt) :=
  search_eq_selectInt h rfl fun i => Comparison.holds_lessThan_int_iff i n

theorem selectInt_eq_iff {p q : Int → Prop} [DecidablePred p] [DecidablePred q] :
    (.ok (c.selectInt Δ field p) : Except Error _) = .ok (c.selectInt Δ field q) ↔
      ∀ v ∈ c.items, ∀ i, v.intAt? Δ field = some i → (p i.toInt ↔ q i.toInt) := by
  rw [Except.ok.injEq]
  constructor
  · intro heq v hv i hi
    have hmem : v ∈ c.selectInt Δ field p ↔ v ∈ c.selectInt Δ field q := by rw [heq]
    simpa [selectInt, hv, hi] using hmem
  · intro h
    apply List.filter_congr
    intro v hv
    cases hi : v.intAt? Δ field with
    | none => rfl
    | some i => simpa using h v hv i hi

/-- What is found by an integer: the items whose integer shares the needle's double as equal to it,
and of the others those that are greater and less. The items found are those whose integer is equal,
greater and less exactly if no other integer that shares the needle's double, none above it and none
below it is among the items; for needles below `2 ^ 53` in magnitude there is none. -/
theorem search_int_exact_iff (h : c.HasIntField Δ field) (n : Int64) :
    c.search Δ field (.int n.toInt) .equals =
        .ok (c.selectInt Δ field fun a => ShareDouble a n.toInt) ∧
      c.search Δ field (.int n.toInt) .greaterThan =
        .ok (c.selectInt Δ field fun a => n.toInt < a ∧ ¬ShareDouble a n.toInt) ∧
      c.search Δ field (.int n.toInt) .lessThan =
        .ok (c.selectInt Δ field fun a => a < n.toInt ∧ ¬ShareDouble a n.toInt) ∧
      (c.search Δ field (.int n.toInt) .equals = .ok (c.selectInt Δ field fun a => a = n.toInt) ↔
        ∀ v ∈ c.items, ∀ i, v.intAt? Δ field = some i → ShareDouble i.toInt n.toInt →
          i.toInt = n.toInt) ∧
      (c.search Δ field (.int n.toInt) .greaterThan =
          .ok (c.selectInt Δ field fun a => n.toInt < a) ↔
        ∀ v ∈ c.items, ∀ i, v.intAt? Δ field = some i → ShareDouble i.toInt n.toInt →
          ¬n.toInt < i.toInt) ∧
      (c.search Δ field (.int n.toInt) .lessThan =
          .ok (c.selectInt Δ field fun a => a < n.toInt) ↔
        ∀ v ∈ c.items, ∀ i, v.intAt? Δ field = some i → ShareDouble i.toInt n.toInt →
          ¬i.toInt < n.toInt) ∧
      (n.toInt.natAbs < Nat.pow 2 53 → ∀ a, ShareDouble a n.toInt → a = n.toInt) := by
  have hshare : ∀ {a : Int}, a = n.toInt → ShareDouble a n.toInt := by
    rintro a rfl
    rfl
  refine ⟨search_equals_int h n, search_greaterThan_int h n, search_lessThan_int h n, ?_, ?_, ?_,
    fun hn a => FiniteDouble.eq_of_ofInt?_eq hn⟩
  · rw [search_equals_int h n, selectInt_eq_iff]
    exact forall₄_congr fun v _ i _ => ⟨Iff.mp, fun h => ⟨h, hshare⟩⟩
  · rw [search_greaterThan_int h n, selectInt_eq_iff]
    exact forall₄_congr fun v _ i _ => by rw [and_iff_left_iff_imp, imp_not_comm]
  · rw [search_lessThan_int h n, selectInt_eq_iff]
    exact forall₄_congr fun v _ i _ => by rw [and_iff_left_iff_imp, imp_not_comm]

end Collection

namespace Sample

def ledger : Catalog :=
  ⟨[⟨[⟨"number", .int, false, none⟩, ⟨"limit", .int, true, none⟩], none⟩],
    [⟨.entity ⟨"Account", 0⟩, false⟩]⟩

def accounts : CollectionRef := ⟨"Accounts", 0⟩

def account (number : Int64) : FieldValue :=
  .entity ⟨"Account", 0⟩ [some (.int number), none]

def book : Collection :=
  ⟨accounts, [account 9007199254740991, account 9007199254740992, account 9007199254740993]⟩

theorem hasIntField_book : book.HasIntField ledger "number" := by
  have hmade : (Collection.ofJson ledger accounts (.arr [
      .obj [("number", .int 9007199254740991)], .obj [("number", .int 9007199254740992)],
      .obj [("number", .int 9007199254740993)]])).outcome = .ok book := rfl
  refine ⟨.of_collectionOfJson hmade, ?_⟩
  simp only [book, account, List.forall_mem_cons, FieldValue.record?]
  refine ⟨?_, ?_, ?_, nofun⟩
  all_goals
    rintro r ⟨⟩
    exact ⟨_, rfl, rfl⟩

end Sample

open Sample in
/-- Just below `2 ^ 53`, where the next numbers are found to be greater. -/
theorem Collection.search_int_exact_book :
    book.HasIntField ledger "number" ∧
      book.search ledger "number" (.int 9007199254740991) .equals =
        .ok [account 9007199254740991] ∧
      book.search ledger "number" (.int 9007199254740991) .greaterThan =
        .ok [account 9007199254740992, account 9007199254740993] ∧
      book.search ledger "number" (.int 9007199254740991) .lessThan = .ok [] := by
  obtain ⟨-, -, -, hequals, hgreater, hless, hexact⟩ :=
    search_int_exact_iff hasIntField_book 9007199254740991
  have hshare := hexact (by decide)
  refine ⟨hasIntField_book, ?_, ?_, ?_⟩
  · exact hequals.2 fun v _ i _ => hshare i.toInt
  · exact hgreater.2 fun v _ i _ h => by rw [hshare i.toInt h]; exact Int.lt_irrefl _
  · exact hless.2 fun v _ i _ h => by rw [hshare i.toInt h]; exact Int.lt_irrefl _

open Sample in
/-- The next number after `2 ^ 53` is found as if it were that. -/
theorem Collection.not_search_int_exact_book :
    book.search ledger "number" (.int 9007199254740992) .equals ≠
        .ok (book.selectInt ledger "number" fun a => a = 9007199254740992) ∧
      book.search ledger "number" (.int 9007199254740992) .greaterThan ≠
        .ok (book.selectInt ledger "number" fun a => 9007199254740992 < a) ∧
      book.search ledger "number" (.int 9007199254740993) .lessThan ≠
        .ok (book.selectInt ledger "number" fun a => a < 9007199254740993) := by
  have hshare : ShareDouble 9007199254740993 9007199254740992 := by decide +kernel
  have hmiddle : account 9007199254740992 ∈ book.items := by simp [book]
  have hlast : account 9007199254740993 ∈ book.items := by simp [book]
  refine ⟨?_, ?_, ?_⟩
  · intro heq
    have hagree := selectInt_eq_iff.1
      ((search_equals_int hasIntField_book 9007199254740992).symm.trans heq)
    have hsame := (hagree _ hlast 9007199254740993 rfl).1 hshare
    exact absurd hsame (by decide)
  · intro heq
    have hagree := selectInt_eq_iff.1
      ((search_greaterThan_int hasIntField_book 9007199254740992).symm.trans heq)
    have hfound := (hagree _ hlast 9007199254740993 rfl).2 (by decide)
    exact hfound.2 hshare
  · intro heq
    have hagree := selectInt_eq_iff.1
      ((search_lessThan_int hasIntField_book 9007199254740993).symm.trans heq)
    have hfound := (hagree _ hmiddle 9007199254740992 rfl).2 (by decide)
    exact hfound.2 (shareDouble_comm.1 hshare)

end RestRecords
