import RestRecords.Number.Decimal
/-!
# Scaled significands

A quick reading of decimals that rounds more than once: the significand is rounded to a double
first, and the result of each multiplication or division by a rounded power of ten again. It
agrees with the exact reading while significand and power are small.
-/

namespace RestRecords.Scaled

def maxPower : Nat := 308

private def powerOfTen (k : Nat) : Option FiniteDouble :=
  FiniteDouble.ofRatio? false (Nat.pow 10 k) 1

/-- Divides by the largest power of ten a number of times, or until nothing is left, and then by
`10 ^ rest`. -/
private def divide (rest : Nat) : Nat → FiniteDouble → Option FiniteDouble
  | 0, x => (powerOfTen rest).bind x.div?
  | n + 1, x =>
    if x.units = 0 then some x
    else ((powerOfTen maxPower).bind x.div?).bind (divide rest n)

/-- `significand · 10 ^ exponent` in steps that round; nothing if it overflows. -/
def read? (significand : Nat) (exponent : Int) : Option FiniteDouble :=
  match FiniteDouble.ofRatio? false significand 1 with
  | none => none
  | some x =>
    if exponent < 0 then
      let steps := (exponent.natAbs - 1) / maxPower
      divide (exponent.natAbs - steps * maxPower) steps x
    else if x.units = 0 then some x
    else if exponent.toNat ≤ maxPower then (powerOfTen exponent.toNat).bind x.mul?
    else none

end RestRecords.Scaled
