import RestRecords.Number.Binary64
import RestRecords.Text.Numeral
/-!
# Decimal numbers

A decimal is a whole significand and a power of ten. Its text has an optional sign, digits with an
optional point among or around them, and an optional exponent. Rounding to a double is exact: the
nearest double, a half going to the even neighbour.
-/

namespace RestRecords

open Text

/-- The number `± significand · 10 ^ exponent`. -/
structure Decimal where
  negative : Bool
  significand : Nat
  exponent : Int
  deriving DecidableEq, Repr

namespace Decimal

/-- The exponent part after its mark: an optional sign and at least one digit, up to the end. -/
def readExponent? (cs : List Char) : Option Int :=
  let (negative, digits) := readSign cs
  (readDigits? digits).map fun n => if negative then -(n : Int) else n

def read? (cs : List Char) : Option Decimal :=
  let (negative, body) := readSign cs
  let (whole, afterWhole) := spanDigits body
  let (fraction, rest) := match afterWhole with
    | '.' :: tail => spanDigits tail
    | _ => ([], afterWhole)
  if whole.isEmpty && fraction.isEmpty then none
  else
    let significand := digitsValue (whole ++ fraction)
    let scale : Int := -(fraction.length : Int)
    match rest with
    | [] => some ⟨negative, significand, scale⟩
    | 'e' :: tail | 'E' :: tail =>
      (readExponent? tail).map fun e => ⟨negative, significand, scale + e⟩
    | _ => none

/-- The nearest double. Beyond `10 ^ 310` every number is infinite, and one that is below
`10 ^ (-330)` whatever its digits is zero, so the powers taken stay small. -/
def toBinary64 (d : Decimal) : Binary64 :=
  if d.significand = 0 then Binary64.ofRatio d.negative 0 1
  else if 310 < d.exponent then .infinite d.negative
  else if d.exponent + d.significand.log2 + 1 < -330 then Binary64.ofRatio d.negative 0 1
  else if 0 ≤ d.exponent then
    Binary64.ofRatio d.negative (d.significand * Nat.pow 10 d.exponent.toNat) 1
  else
    Binary64.ofRatio d.negative d.significand (Nat.pow 10 (-d.exponent).toNat)

def readFinite? (cs : List Char) : Option FiniteDouble :=
  (read? cs).bind fun d => d.toBinary64.finite?

end Decimal

end RestRecords
