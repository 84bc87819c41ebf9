import RestRecords.Proofs.Binding.Signs
import RestRecords.Proofs.Collection.Comparisons
/-!
# Searching by a text

A double bound from a text is searched for by that text. The binder looks for groups of digits and
for a decimal comma, the search reads its needle as it is written, so the item is found exactly if
the text is literal. If its only point stands before a group, the needle is worth a thousandth, and
the item is found to be greater.
-/

namespace RestRecords

open Text

/-- Whether the field of an item holds the double `x` that the text `s` is bound to there. -/
def FieldValue.BoundFrom (Δ : Catalog) (field s : String) (x : FiniteDouble) (v : FieldValue) :
    Prop :=
  ∃ r f, v.record? = some r ∧ (Δ.entity r.ref).field? field = some f ∧
    (Δ.entity r.ref).bindingKind f = .float ∧
    (Bind.asField Δ (Δ.entity r.ref) f (.str s)).outcome = .ok (some (.float (.finite x))) ∧
    r.get? Δ field = some (.float (.finite x))

/-! ## What is read as it is written -/

theorem Text.IsOneGroup.marks {cs : List Char} (h : IsOneGroup cs) : marks cs = ['.'] := by
  obtain ⟨first, group, rfl, hfirst, hgroup, -⟩ := h
  have hpoint : Text.marks ('.' :: group) = '.' :: Text.marks group := rfl
  rw [marks_append, marks_of_digits hfirst, hpoint, marks_of_digits hgroup, List.nil_append]

namespace FiniteDouble

open Binary64

theorem exists_ofRatio? {num den : Nat} (hden : 0 < den) (h : num ≤ Nat.pow 2 53) :
    ∃ x, ofRatio? false num den = some x := by
  have hsmall : Nat.pow 2 53 ≤ Nat.pow 2 64 := Nat.pow_le_pow_right (by decide) (by decide)
  have hle : num ≤ den * Nat.pow 2 64 := by
    calc num
      _ ≤ Nat.pow 2 64 := Nat.le_trans h hsmall
      _ ≤ den * Nat.pow 2 64 := Nat.le_mul_of_pos_left _ hden
  exact ⟨⟨false, _, representable_roundUnits hden hle⟩, ofRatio?_eq_some_iff.2 ⟨rfl, rfl⟩⟩

theorem toInt_of_ofRatio? {num den : Nat} {x : FiniteDouble}
    (h : ofRatio? false num den = some x) : x.toInt = roundUnits num den := by
  obtain ⟨hsign, hunits⟩ := ofRatio?_eq_some_iff.1 h
  rw [toInt, hsign, hunits, if_neg Bool.false_ne_true]

/-- The thousandth of a number is less, unless that is zero. -/
theorem toInt_thousandth_lt {n : Nat} (hn : n ≤ Nat.pow 2 53) {x y : FiniteDouble}
    (hx : ofRatio? false n 1 = some x) (hy : ofRatio? false n 1000 = some y)
    (hne : x.units ≠ 0) : y.toInt < x.toInt := by
  have hle : roundUnits n 1000 ≤ roundUnits n 1 := by
    refine roundUnits_le (by decide) ?_ (isSpaced_roundUnits n Nat.one_pos)
    rw [roundUnits_of_le hn]
    exact Nat.le_mul_of_pos_left _ (by decide)
  have hdiffer : roundUnits n 1000 ≠ roundUnits n 1 := by
    intro heq
    have hsame : ofRatio? false n 1000 = some x := by rw [← hx, ofRatio?, ofRatio?, heq]
    exact hne ((ofRatio?_thousandth_iff hn hx).1 hsame)
  rw [toInt_of_ofRatio? hx, toInt_of_ofRatio? hy]
  omega

end FiniteDouble

namespace Decimal

variable {cs : List Char} {x : FiniteDouble}

theorem readFinite?_of_plainNumeral (h : readFinite? (Coerce.plainNumeral cs) = none) :
    readFinite? cs = none := by
  cases hread : readFinite? cs with
  | none => rfl
  | some y =>
    obtain ⟨hcomma, hpoints⟩ := marks_of_readFinite? hread
    rcases Coerce.isOneGroup_or_plainNumeral_eq hcomma hpoints with hgroup | heq
    · obtain ⟨hbound, hplain, -⟩ := readFinite?_of_isOneGroup hgroup
      obtain ⟨z, hz⟩ := FiniteDouble.exists_ofRatio? Nat.one_pos hbound
      rw [hplain, hz] at h
      cases h
    · rw [heq, hread] at h
      cases h

/-- A text is read as the double it is bound to, or not at all, or as its thousandth. -/
theorem readFinite?_cases (h : readFinite? (Coerce.plainNumeral cs) = some x) :
    (IsLiteral cs x ∧ readFinite? cs = some x) ∨
      (¬IsLiteral cs x ∧ ¬IsOneGroup cs ∧ readFinite? cs = none) ∨
      (IsOneGroup cs ∧ x.units ≠ 0 ∧ ∃ y, readFinite? cs = some y ∧ y.toInt < x.toInt) := by
  by_cases hlit : IsLiteral cs x
  · exact .inl ⟨hlit, (readFinite?_iff_isLiteral h).2 hlit⟩
  right
  by_cases hgroup : IsOneGroup cs
  · right
    obtain ⟨hcomma, hpoints⟩ := notMem_and_count_of_marks (.inr hgroup.marks)
    have hunits : x.units ≠ 0 := fun hzero => hlit ⟨hcomma, hpoints, fun _ => hzero⟩
    obtain ⟨hbound, hplain, hwritten⟩ := readFinite?_of_isOneGroup hgroup
    obtain ⟨y, hy⟩ := FiniteDouble.exists_ofRatio? (Nat.succ_pos 999) hbound
    rw [hplain] at h
    exact ⟨hgroup, hunits, y, hwritten.trans hy,
      FiniteDouble.toInt_thousandth_lt hbound h hy hunits⟩
  · left
    refine ⟨hlit, hgroup, ?_⟩
    cases hread : readFinite? cs with
    | none => rfl
    | some y =>
      obtain ⟨hcomma, hpoints⟩ := marks_of_readFinite? hread
      exact absurd ⟨hcomma, hpoints, fun hone => absurd hone hgroup⟩ hlit

end Decimal

/-! ## Searching -/

namespace FieldValue.BoundFrom

variable {Δ : Catalog} {field s : String} {x : FiniteDouble} {v : FieldValue}

theorem float?_eq (h : v.BoundFrom Δ field s x) : Coerce.float? (.str s) = some x := by
  obtain ⟨r, f, -, -, hkind, hbound, -⟩ := h
  rw [Bind.asField, hkind] at hbound
  exact Bind.outcome_asKind_float_iff.1 hbound

theorem comparedValue?_eq (h : v.BoundFrom Δ field s x) :
    Collection.comparedValue? Δ field v = some (.float x) := by
  obtain ⟨r, f, hr, -, -, -, hget⟩ := h
  rw [Collection.comparedValue?, hr, Option.bind_some, hget]
  rfl

end FieldValue.BoundFrom

namespace Comparison

variable {s : String} {x : FiniteDouble}

/-- What a text is worth as a needle, where the double `x` is bound from it. -/
theorem inUnits?_cases (h : Coerce.float? (.str s) = some x) :
    (IsLiteral (trim s.toList) x ∧ inUnits? (.str s) = some x.toInt) ∨
      (¬IsLiteral (trim s.toList) x ∧ ¬IsOneGroup (trim s.toList) ∧ inUnits? (.str s) = none) ∨
      (IsOneGroup (trim s.toList) ∧ x.units ≠ 0 ∧
        ∃ n, inUnits? (.str s) = some n ∧ n < x.toInt) := by
  have hread :
      inUnits? (.str s) = (Decimal.readFinite? (trim s.toList)).map FiniteDouble.toInt := rfl
  rw [hread]
  rcases Decimal.readFinite?_cases h with
    ⟨hlit, hx⟩ | ⟨hlit, hgroup, hnone⟩ | ⟨hgroup, hne, y, hy, hlt⟩
  · exact .inl ⟨hlit, by rw [hx, Option.map_some]⟩
  · exact .inr (.inl ⟨hlit, hgroup, by rw [hnone, Option.map_none]⟩)
  · exact .inr (.inr ⟨hgroup, hne, y.toInt, by rw [hy, Option.map_some], hlt⟩)

theorem holds_float_equals_iff {b : Json} :
    Test.holds (.float x) (.equals b) = true ↔ inUnits? b = some x.toInt := by
  constructor
  · intro h
    exact (inUnits?_eq_of_holds_equals h).symm
  · intro h
    exact (holds_equals_iff_eq rfl h rfl).2 rfl

theorem holds_float_greaterThan_iff {b : Json} :
    Test.holds (.float x) (.greaterThan b) = true ↔ ∃ n, inUnits? b = some n ∧ n < x.toInt := by
  rw [holds_greaterThan_iff_inUnits?]
  constructor
  · rintro ⟨-, n, ⟨⟩, hn, hlt⟩
    exact ⟨n, hn, hlt⟩
  · rintro ⟨n, hn, hlt⟩
    exact ⟨x.toInt, n, rfl, hn, hlt⟩

theorem holds_float_lessThan_iff {b : Json} :
    Test.holds (.float x) (.lessThan b) = true ↔ ∃ n, inUnits? b = some n ∧ x.toInt < n := by
  rw [holds_lessThan_iff_inUnits?]
  constructor
  · rintro ⟨-, n, ⟨⟩, hn, hlt⟩
    exact ⟨n, hn, hlt⟩
  · rintro ⟨n, hn, hlt⟩
    exact ⟨x.toInt, n, rfl, hn, hlt⟩

variable (h : Coerce.float? (.str s) = some x)

include h

theorem holds_equals_text_iff :
    Test.holds (.float x) (.equals (.str s)) = true ↔ IsLiteral (trim s.toList) x := by
  rw [holds_float_equals_iff]
  rcases inUnits?_cases h with ⟨hlit, hsame⟩ | ⟨hlit, -, hnone⟩ | ⟨hgroup, hne, n, hn, hlt⟩
  · exact iff_of_true hsame hlit
  · rw [hnone]
    exact iff_of_false nofun hlit
  · rw [hn, Option.some.injEq]
    exact iff_of_false (Int.ne_of_lt hlt) fun hlit => hne (hlit.group hgroup)

theorem holds_greaterThan_text_iff :
    Test.holds (.float x) (.greaterThan (.str s)) = true ↔
      IsOneGroup (trim s.toList) ∧ x.units ≠ 0 := by
  rw [holds_float_greaterThan_iff]
  rcases inUnits?_cases h with ⟨hlit, hsame⟩ | ⟨-, hgroup, hnone⟩ | ⟨hgroup, hne, hless⟩
  · refine iff_of_false ?_ fun hgroup => hgroup.2 (hlit.group hgroup.1)
    rintro ⟨n, hn, hlt⟩
    rw [hsame, Option.some.injEq] at hn
    omega
  · rw [hnone]
    exact iff_of_false nofun fun hone => hgroup hone.1
  · exact iff_of_true hless ⟨hgroup, hne⟩

theorem holds_lessThan_text : Test.holds (.float x) (.lessThan (.str s)) = false := by
  rw [Bool.eq_false_iff, Ne, holds_float_lessThan_iff]
  rintro ⟨n, hn, hlt⟩
  rcases inUnits?_cases h with ⟨-, hsame⟩ | ⟨-, -, hnone⟩ | ⟨-, -, m, hm, hless⟩
  · rw [hsame, Option.some.injEq] at hn
    omega
  · rw [hnone] at hn
    cases hn
  · rw [hm, Option.some.injEq] at hn
    omega

end Comparison

namespace Collection

/-- A text that is refused where a double is expected is no number for a search either. Where the
double `x` is bound from it, the two readings are the same exactly if the text is literal, and
exactly then a field bound from it is found to be equal to it. The field is found to be greater
exactly if the text is one group that is not zero, and it is never found to be less. -/
theorem search_boundFrom (Δ : Catalog) (c : Collection) (field s : String) :
    (Coerce.float? (.str s) = none → Comparison.number? (.str s) = none) ∧
    (∀ x, Coerce.float? (.str s) = some x →
      (Comparison.number? (.str s) = some x ↔ IsLiteral (trim s.toList) x)) ∧
    ∃ equal greater less,
      c.search Δ field (.str s) .equals = .ok equal ∧
      c.search Δ field (.str s) .greaterThan = .ok greater ∧
      c.search Δ field (.str s) .lessThan = .ok less ∧
      ∀ v ∈ c.items, ∀ x, v.BoundFrom Δ field s x →
        (v ∈ equal ↔ IsLiteral (trim s.toList) x) ∧
        (v ∈ greater ↔ IsOneGroup (trim s.toList) ∧ x.units ≠ 0) ∧
        v ∉ less := by
  refine ⟨Decimal.readFinite?_of_plainNumeral, fun x hx => ?_, _, _, _, rfl, rfl, rfl,
    fun v hv x h => ?_⟩
  · exact Decimal.readFinite?_iff_isLiteral hx
  · have hmem (test : Comparison.Test) :
        v ∈ c.items.filter (isHit Δ field test) ↔ test.holds (.float x) = true := by
      rw [List.mem_filter, and_iff_right hv, isHit, h.comparedValue?_eq, Option.any_some]
    refine ⟨?_, ?_, ?_⟩
    · rw [hmem, Comparison.holds_equals_text_iff h.float?_eq]
    · rw [hmem, Comparison.holds_greaterThan_text_iff h.float?_eq]
    · rw [hmem, Comparison.holds_lessThan_text h.float?_eq]
      exact Bool.false_ne_true

end Collection

namespace Sample

def fares : Catalog :=
  ⟨[⟨[⟨"amount", .float, false, none⟩], none⟩], [⟨.entity ⟨"Fare", 0⟩, false⟩]⟩

def tariff : CollectionRef := ⟨"Tariff", 0⟩

def fare (x : FiniteDouble) : FieldValue :=
  .entity ⟨"Fare", 0⟩ [some (.float (.finite x))]

/-- A tariff is made of one fare of the given amount and searched by that amount: the numbers of
fares that there are and that are found. -/
def fareCounts (comparison : Comparison) (amount : String) : Option (Nat × Nat) := do
  let c ← (Collection.ofJson fares tariff (.arr [.obj [("amount", .str amount)]])).outcome.toOption
  let found ← (c.search fares "amount" (.str amount) comparison).toOption
  return (c.items.length, found.length)

theorem boundFrom_fare {amount : String} {x : FiniteDouble}
    (h : Coerce.float? (.str amount) = some x) : (fare x).BoundFrom fares "amount" amount x :=
  ⟨_, _, rfl, rfl, rfl, Bind.outcome_asKind_float_iff.2 h, rfl⟩

end Sample

open Sample in
/-- A fare of `1.234` is bound as more than a thousand, and found to be greater than it was. -/
theorem Collection.search_boundFrom_fare :
    ∃ x greater, (fare x).BoundFrom fares "amount" "1.234" x ∧
      Coerce.float? (.str "1.234") = FiniteDouble.ofInt? 1234 ∧
      (Collection.mk tariff [fare x]).search fares "amount" (.str "1.234") .greaterThan =
        .ok greater ∧
      fare x ∈ greater := by
  have hread : (FiniteDouble.ofInt? 1234).isSome ∧
      Coerce.float? (.str "1.234") = FiniteDouble.ofInt? 1234 := by
    decide +kernel
  obtain ⟨x, hx⟩ := Option.isSome_iff_exists.1 hread.1
  have hbound := boundFrom_fare (hread.2.trans hx)
  obtain ⟨-, -, equal, greater, less, -, hgreater, -, hfound⟩ :=
    search_boundFrom fares (Collection.mk tariff [fare x]) "amount" "1.234"
  refine ⟨x, greater, hbound, hread.2, hgreater, ?_⟩
  have hgroup : IsOneGroup (trim "1.234".toList) :=
    ⟨['1'], ['2', '3', '4'], rfl, by simp [isDigit], by simp [isDigit], by decide, by decide, rfl⟩
  have hunits : x.units ≠ 0 := by
    have hle := FiniteDouble.unitsPerOne_le_units hx (by decide)
    have hpos := Binary64.unitsPerOne_pos
    omega
  exact (hfound (fare x) List.mem_cons_self x hbound).2.1.2 ⟨hgroup, hunits⟩

open Sample in
/-- A fare with a comma is not found by its own amount; one with a group is not either, but it is
found to be greater. -/
theorem Collection.not_search_boundFrom_fare :
    fareCounts .equals "12,5" = some (1, 0) ∧ fareCounts .equals "1.234" = some (1, 0) ∧
      fareCounts .greaterThan "1.234" = some (1, 1) := by
  decide +kernel

end RestRecords
