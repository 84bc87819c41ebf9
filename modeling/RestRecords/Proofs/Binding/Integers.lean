import Mathlib.Tactic.NormNum
import RestRecords.Binding.Bind
import RestRecords.Proofs.Binding.Instances
import RestRecords.Proofs.Number.Values
/-!
# Integers from numbers

A number of a document is an integer or a double, and stands for one rational number. Where an
integer is expected it is bound to exactly that number or not at all, although integers that do not
fit are rounded to doubles on the way, and the limit for doubles is itself rounded: it is `2 ^ 63`,
and no integer from there on is rounded below it.
-/

namespace RestRecords

namespace Json

def number? : Json → Option ℚ
  | .int i => some i
  | .float x => some x.value
  | _ => none

theorem isNull_of_number? {raw : Json} {q : ℚ} (h : raw.number? = some q) : raw.isNull = false := by
  cases raw with
  | null => cases h
  | int | float | bool | str | arr | obj => rfl

theorem int64?_eq_some_iff {i : Int} {k : Int64} : (Json.int i).int64? = some k ↔ i = k.toInt := by
  constructor
  · intro h
    rw [int64?] at h
    split at h
    · rename_i hfits
      cases h
      exact (Int64.toInt_ofInt_of_le hfits.1 (Int.lt_add_one_of_le hfits.2)).symm
    · cases h
  · rintro rfl
    exact int64?_int k

end Json

namespace Coerce

open Binary64 FiniteDouble

variable {x : FiniteDouble} {raw : Json} {q : ℚ}

/-! ## Integers from doubles -/

/-- The largest signed 64-bit integer is rounded up, to the number after it. -/
theorem roundUnits_maxValue :
    roundUnits Int64.maxValue.toInt.natAbs 1 = Nat.pow 2 63 * unitsPerOne := by
  decide +kernel

theorem exists_int64Limit? :
    ∃ limit, int64Limit? = some limit ∧ limit.toInt = (Nat.pow 2 63 * unitsPerOne : Nat) := by
  obtain ⟨limit, hlimit⟩ := exists_ofInt? (i := Int64.maxValue.toInt) (by decide)
  refine ⟨limit, hlimit, ?_⟩
  rw [toInt_of_ofInt? hlimit, if_neg (by decide), roundUnits_maxValue]

theorem any_int64Limit?_iff : int64Limit?.any (x.abs < ·) = true ↔ |x.value| < 2 ^ 63 := by
  obtain ⟨limit, hlimit, hvalue⟩ := exists_int64Limit?
  rw [hlimit, Option.any_some, decide_eq_true_eq, FiniteDouble.lt_iff, hvalue, toInt_abs,
    Int.ofNat_lt, abs_value_lt_two_pow_iff]

theorem toInt_ofIntClamp_of_lt {n : Int} (h : |(n : ℚ)| < 2 ^ 63) :
    (Int64.ofIntClamp n).toInt = n := by
  have hbound : |n| < 2 ^ 63 := by exact_mod_cast h
  obtain ⟨hlow, hhigh⟩ := abs_lt.1 hbound
  apply Int64.toInt_ofIntClamp
  · rw [Int64.toInt_minValue]
    omega
  · rw [Int64.toInt_maxValue]
    omega

/-- A double is taken for an integer exactly if it is one, and below `2 ^ 63` in magnitude. -/
theorem wholeInt64?_eq_some_iff {k : Int64} :
    wholeInt64? x = some k ↔ x.value = k.toInt ∧ |x.value| < 2 ^ 63 := by
  unfold wholeInt64?
  split
  · rename_i hlimit
    have hbound : |x.value| < 2 ^ 63 := any_int64Limit?_iff.1 hlimit
    rw [Option.map_eq_some_iff, and_iff_left hbound]
    constructor
    · rintro ⟨n, hn, rfl⟩
      have hvalue : x.value = n := toWhole?_eq_some_iff.1 hn
      rw [toInt_ofIntClamp_of_lt (hvalue ▸ hbound), hvalue]
    · intro hvalue
      refine ⟨k.toInt, toWhole?_eq_some_iff.2 hvalue, ?_⟩
      rw [← Int64.toInt_inj, toInt_ofIntClamp_of_lt (hvalue ▸ hbound)]
  · rename_i hlimit
    refine iff_of_false nofun fun h => hlimit ?_
    exact any_int64Limit?_iff.2 h.2

/-! ## Integers from the numbers of a document -/

/-- An integer is read as the signed 64-bit one that it is: the double nearest to it adds none. -/
theorem int?_int (i : Int) : int? (.int i) = (Json.int i).int64? := by
  show (Json.int i).int64?.or ((ofInt? i).bind wholeInt64?) = _
  by_cases hfits : Int64.minValue.toInt ≤ i ∧ i ≤ Int64.maxValue.toInt
  · rw [Json.int64?, if_pos hfits, Option.some_or]
  · have hlarge : Nat.pow 2 63 ≤ i.natAbs := by
      have hpow : Nat.pow 2 63 = 2 ^ 63 := rfl
      have hmin := Int64.toInt_minValue
      have hmax := Int64.toInt_maxValue
      omega
    rw [Json.int64?, if_neg hfits, Option.none_or, Option.bind_eq_none_iff]
    -- The double nearest to an integer that does not fit is not below the limit either.
    intro x hx
    rw [Option.eq_none_iff_forall_ne_some]
    exact fun k hk => not_abs_value_lt_of_ofInt? hx hlarge (wholeInt64?_eq_some_iff.1 hk).2

theorem int?_float (x : FiniteDouble) : int? (.float x) = wholeInt64? x := by
  show Option.or none ((some x).bind wholeInt64?) = _
  rw [Option.none_or, Option.bind_some]

/-- What is read as an integer is the number itself: a signed 64-bit integer, or a double below
`2 ^ 63` in magnitude. -/
theorem int?_eq_some_iff (h : raw.number? = some q) {k : Int64} :
    int? raw = some k ↔ q = k.toInt ∧ (raw = .int k.toInt ∨ |q| < 2 ^ 63) := by
  cases raw with
  | int i =>
    obtain rfl : (i : ℚ) = q := Option.some.inj h
    rw [int?_int, Json.int64?_eq_some_iff, Int.cast_inj]
    constructor
    · rintro rfl
      exact ⟨rfl, .inl rfl⟩
    · exact And.left
  | float x =>
    obtain rfl : x.value = q := Option.some.inj h
    have hne : Json.float x ≠ .int k.toInt := nofun
    rw [int?_float, wholeInt64?_eq_some_iff, or_iff_right hne]
  | null | bool | str | arr | obj => cases h

theorem exists_int?_iff (h : raw.number? = some q) :
    (∃ k, int? raw = some k) ↔
      (∃ k : Int64, raw = .int k.toInt) ∨
        ∃ x, raw = .float x ∧ (∃ n : Int, x.value = n) ∧ |x.value| < 2 ^ 63 := by
  constructor
  · rintro ⟨k, hk⟩
    obtain ⟨rfl, hraw | hbound⟩ := (int?_eq_some_iff h).1 hk
    · exact .inl ⟨k, hraw⟩
    · cases raw with
      | int i =>
        have hi : i = k.toInt := Int.cast_injective (Option.some.inj h)
        exact .inl ⟨k, congrArg Json.int hi⟩
      | float x =>
        have hx : x.value = k.toInt := Option.some.inj h
        exact .inr ⟨x, rfl, ⟨k.toInt, hx⟩, hx ▸ hbound⟩
      | null | bool | str | arr | obj => cases h
  · rintro (⟨k, rfl⟩ | ⟨x, rfl, ⟨n, hn⟩, hbound⟩)
    · exact ⟨k, (int?_int _).trans (Json.int64?_int k)⟩
    · rw [hn] at hbound
      refine ⟨Int64.ofIntClamp n, (int?_float x).trans (wholeInt64?_eq_some_iff.2 ?_)⟩
      rw [toInt_ofIntClamp_of_lt hbound, hn]
      exact ⟨rfl, hbound⟩

theorem int?_of_le (h : raw.number? = some q) (hq : 2 ^ 63 ≤ |q|)
    (hraw : raw ≠ .int Int64.minValue.toInt) : int? raw = none := by
  rw [Option.eq_none_iff_forall_ne_some]
  intro k hk
  obtain ⟨rfl, hint | hbound⟩ := (int?_eq_some_iff h).1 hk
  · have hlarge : 2 ^ 63 ≤ |k.toInt| := by exact_mod_cast hq
    have hlow : -2 ^ 63 ≤ k.toInt := Int64.minValue_le_toInt k
    have hhigh : k.toInt ≤ 2 ^ 63 - 1 := Int64.toInt_le k
    have hmin : k.toInt = -2 ^ 63 := by
      rcases le_abs.1 hlarge with habove | hbelow
      · omega
      · omega
    exact hraw (hint.trans (congrArg Json.int hmin))
  · exact absurd hq (not_le.2 hbound)

end Coerce

namespace Bind

variable {Δ : Catalog} {place : Step} {nullable : Bool} {raw : Json} {q : ℚ}

/-! ## Binding a number as an integer -/

theorem asKind_int (hnull : raw.isNull = false) :
    asKind Δ place .int nullable raw =
      number .int place nullable raw ((Coerce.int? raw).map .int) := by
  simp only [asKind, depthFor, kindWithin, hnull, Bool.false_eq_true, if_false]

theorem outcome_number (h : raw.number? = some q) {kind : Kind} (value : Option FieldValue) :
    (number kind place nullable raw value).outcome =
      match value with
      | some v => .ok (some v)
      | none =>
        if nullable then .ok (some .null)
        else Outcome.fail (fault place kind (.invalidValue raw)) := by
  have hcases : number kind place nullable raw value =
      match value with
      | some v => .ok (some v)
      | none =>
        if nullable then do
          Traced.report (.invalidScalar place raw kind.name)
          return some .null
        else .fail (fault place kind (.invalidValue raw)) := by
    cases raw with
    | int | float => rfl
    | null | bool | str | arr | obj => cases h
  rw [hcases]
  cases value with
  | some v => rfl
  | none => cases nullable <;> rfl

/-- A number is bound to an integer exactly: if it is bound to one, that has its value. Bound are the
signed 64-bit integers and the doubles that are whole numbers below `2 ^ 63` in magnitude, and no
others, so that from there on only the smallest 64-bit integer is bound; what is not, is refused, or
bound as null where that may be. -/
theorem int_of_number (h : raw.number? = some q) :
    (∀ k, Coerce.int? raw = some k → (k.toInt : ℚ) = q) ∧
      ((∃ k, Coerce.int? raw = some k) ↔
        (∃ k : Int64, raw = .int k.toInt) ∨
          ∃ x, raw = .float x ∧ (∃ n : Int, x.value = n) ∧ |x.value| < 2 ^ 63) ∧
      (2 ^ 63 ≤ |q| → raw ≠ .int Int64.minValue.toInt → Coerce.int? raw = none) ∧
      (asKind Δ place .int nullable raw).outcome =
        match Coerce.int? raw with
        | some k => .ok (some (.int k))
        | none =>
          if nullable then .ok (some .null)
          else Outcome.fail (fault place .int (.invalidValue raw)) := by
  refine ⟨fun k hk => ((Coerce.int?_eq_some_iff h).1 hk).1.symm, Coerce.exists_int?_iff h,
    Coerce.int?_of_le h, ?_⟩
  rw [asKind_int (Json.isNull_of_number? h), outcome_number h]
  cases Coerce.int? raw with
  | some k => rfl
  | none => rfl

/-- The largest double below `2 ^ 63`, and the first integer that does not fit. -/
theorem int_of_number_limits :
    ∃ x, FiniteDouble.ofInt? 9223372036854774784 = some x ∧
      (Json.float x).number? = some 9223372036854774784 ∧
      (asKind ⟨[], []⟩ (.field "count") .int true (.float x)).outcome =
        .ok (some (.int 9223372036854774784)) ∧
      (Json.int 9223372036854775808).number? = some 9223372036854775808 ∧
      (asKind ⟨[], []⟩ (.field "count") .int true (.int 9223372036854775808)).outcome =
        .ok (some .null) := by
  obtain ⟨x, hx⟩ := FiniteDouble.exists_ofInt? (i := 9223372036854774784) (by decide)
  have hround : Binary64.roundUnits (9223372036854774784 : Int).natAbs 1 =
      9223372036854774784 * Binary64.unitsPerOne := by
    decide +kernel
  have hvalue : x.value = (9223372036854774784 : Int) := by
    rw [FiniteDouble.value_eq_intCast_iff, FiniteDouble.toInt_of_ofInt? hx, if_neg (by decide),
      hround, Nat.cast_mul, Nat.cast_ofNat]
  have hfloat : (Json.float x).number? = some 9223372036854774784 := congrArg some hvalue
  have hint : (Json.int 9223372036854775808).number? = some 9223372036854775808 := rfl
  refine ⟨x, hx, hfloat, ?_, hint, ?_⟩
  · obtain ⟨hexact, htaken, -, hbound⟩ := int_of_number hfloat
    have hbelow : |x.value| < 2 ^ 63 := by
      rw [hvalue]
      norm_num
    obtain ⟨k, hk⟩ := htaken.2 (.inr ⟨x, rfl, ⟨_, hvalue⟩, hbelow⟩)
    have hsame : k.toInt = 9223372036854774784 := by exact_mod_cast hexact k hk
    have hword : k = 9223372036854774784 := Int64.toInt_inj.1 hsame
    rw [hbound, hk, hword]
  · obtain ⟨-, -, hlarge, hbound⟩ := int_of_number hint
    have habove : (2 : ℚ) ^ 63 ≤ |9223372036854775808| := by norm_num
    rw [hbound, hlarge habove (by simp)]
    rfl

end Bind

end RestRecords
