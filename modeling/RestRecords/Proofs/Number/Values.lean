import Mathlib.Algebra.Order.Field.Basic
import Mathlib.Data.Rat.Cast.Order
import RestRecords.Proofs.Number.Rounding
/-!
# Values of doubles

A finite double is a rational number. It is read as a whole number exactly if it is one, its magnitude
is that of its units, and rounding an integer to a double does not take it below a power of two.
-/

namespace RestRecords

namespace Binary64

theorem two_pow_mul_le_roundUnits {k n : Nat} (h : Nat.pow 2 k ≤ n) :
    Nat.pow 2 k * unitsPerOne ≤ roundUnits n 1 := by
  obtain ⟨j, hj, -⟩ := exists_unitsPerOne_eq
  have hspaced : IsSpaced (Nat.pow 2 k * unitsPerOne) := by
    rw [hj, ← two_pow_add]
    exact isSpaced_two_pow _
  apply le_roundUnits Nat.one_pos _ hspaced
  rw [Nat.one_mul]
  exact Nat.mul_le_mul_right _ h

end Binary64

namespace FiniteDouble

open Binary64

/-- The number that a double is. -/
def value (x : FiniteDouble) : ℚ :=
  x.toInt / unitsPerOne

variable {x : FiniteDouble} {n : Int}

theorem natAbs_toInt (x : FiniteDouble) : x.toInt.natAbs = x.units := by
  unfold toInt
  split <;> omega

theorem toInt_abs (x : FiniteDouble) : x.abs.toInt = x.units :=
  rfl

theorem toInt_eq_mul {m : Nat} (h : x.units = m * unitsPerOne) :
    x.toInt = (if x.negative then -(m : Int) else m) * unitsPerOne := by
  rw [toInt, h, Int.natCast_mul]
  split
  · rw [Int.neg_mul]
  · rfl

theorem value_eq_intCast_iff : x.value = n ↔ x.toInt = n * unitsPerOne := by
  have hunit : (unitsPerOne : ℚ) ≠ 0 := Nat.cast_ne_zero.2 unitsPerOne_pos.ne'
  rw [value, div_eq_iff hunit]
  exact_mod_cast Iff.rfl

theorem abs_value_lt_iff {m : Nat} : |x.value| < m ↔ x.units < m * unitsPerOne := by
  have hunit : (0 : ℚ) < unitsPerOne := Nat.cast_pos.2 unitsPerOne_pos
  have habs : |(x.toInt : ℚ)| = x.units := by
    rw [← natAbs_toInt, Nat.cast_natAbs, Int.cast_abs]
  rw [value, abs_div, habs, abs_of_pos hunit, div_lt_iff₀ hunit]
  exact_mod_cast Iff.rfl

theorem abs_value_lt_two_pow_iff {k : Nat} :
    |x.value| < 2 ^ k ↔ x.units < Nat.pow 2 k * unitsPerOne := by
  have hpow : ((Nat.pow 2 k : Nat) : ℚ) = 2 ^ k := Nat.cast_pow 2 k
  rw [← hpow, abs_value_lt_iff]

theorem toWhole?_eq_some_iff : x.toWhole? = some n ↔ x.value = n := by
  have hpos := unitsPerOne_pos
  rw [value_eq_intCast_iff, toWhole?]
  constructor
  · intro h
    split at h
    · rename_i hmod
      have hunits : x.units = x.units / unitsPerOne * unitsPerOne :=
        (Nat.div_mul_cancel (Nat.dvd_of_mod_eq_zero hmod)).symm
      cases h
      exact toInt_eq_mul hunits
    · cases h
  · intro h
    have hunits : x.units = n.natAbs * unitsPerOne := by
      rw [← natAbs_toInt, h, Int.natAbs_mul, Int.natAbs_natCast]
    have hmod : x.units % unitsPerOne = 0 := by
      rw [hunits, Nat.mul_mod_left]
    have hdiv : x.units / unitsPerOne = n.natAbs := by
      rw [hunits, Nat.mul_div_cancel _ hpos]
    have hunit : (unitsPerOne : Int) ≠ 0 := Int.natCast_ne_zero.2 hpos.ne'
    rw [if_pos hmod, hdiv, Option.some.injEq]
    apply Int.eq_of_mul_eq_mul_right hunit
    rw [← toInt_eq_mul hunits, h]

theorem not_abs_value_lt_of_ofInt? {k : Nat} (h : ofInt? n = some x)
    (hn : Nat.pow 2 k ≤ n.natAbs) : ¬|x.value| < 2 ^ k := by
  have hlarge : Nat.pow 2 k * unitsPerOne ≤ x.units := by
    rw [(ofRatio?_eq_some_iff.1 h).2]
    exact two_pow_mul_le_roundUnits hn
  rw [abs_value_lt_two_pow_iff]
  omega

end FiniteDouble

end RestRecords
