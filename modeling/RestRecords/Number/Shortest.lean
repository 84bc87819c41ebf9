import RestRecords.Number.Decimal
/-!
# Shortest decimals

The decimal of fewest digits whose nearest double is a given one; of several with as few digits,
the one nearest to the double, and the even one of two that are as near.
-/

namespace RestRecords.Shortest

open Text

/-- The exponent of the leading decimal digit of `units`, which is not zero. -/
private def leadingExponent (units : Nat) : Int :=
  let whole := units / Binary64.unitsPerOne
  if whole ≠ 0 then (natDigits whole).length - 1
  else
    match (List.range 325).find? fun k => decide (Binary64.unitsPerOne ≤ units * Nat.pow 10 k) with
    | some k => -k
    | none => -324

private def readsBack (units significand : Nat) (exponent : Int) : Bool :=
  match (Decimal.mk false significand exponent).toBinary64 with
  | .finite x => x.units == units
  | _ => false

private def onGrid (units : Nat) (exponent : Int) : Nat × Nat :=
  if 0 ≤ exponent then (units, Binary64.unitsPerOne * Nat.pow 10 exponent.toNat)
  else (units * Nat.pow 10 (-exponent).toNat, Binary64.unitsPerOne)

/-- The multiple of `10 ^ exponent` that reads back, if one of the two neighbours does. -/
private def atExponent (units : Nat) (exponent : Int) : Option Nat :=
  let (num, den) := onGrid units exponent
  let low := num / den
  let nearest := Binary64.roundDiv num den
  let other := if nearest = low then low + 1 else low
  if readsBack units nearest exponent then some nearest
  else if readsBack units other exponent then some other
  else none

/-- Tries ever finer grids; the last resort is the exact value. -/
private def search (units : Nat) : Nat → Int → Nat × Int
  | 0, _ => (units * Nat.pow 5 1074, -1074)
  | n + 1, exponent =>
    match atExponent units exponent with
    | some significand => (significand, exponent)
    | none => search units n (exponent - 1)

private def normalize : Nat → Nat × Int → Nat × Int
  | 0, d => d
  | n + 1, (significand, exponent) =>
    if significand ≠ 0 ∧ significand % 10 = 0 then normalize n (significand / 10, exponent + 1)
    else (significand, exponent)

/-- The significand and exponent of the shortest decimal of a magnitude that is not zero. -/
def ofUnits (units : Nat) : Nat × Int :=
  let (significand, exponent) := search units 17 (leadingExponent units)
  normalize 20 (significand, exponent)

/-- The digits of a shortest decimal: positional from `0.00001` up to sixteen places before the
point, in scientific notation otherwise; a fraction digit is kept in positional notation, and a
positive exponent has its sign. -/
def format (significand : Nat) (exponent : Int) : List Char :=
  let digits := natDigits significand
  let point : Int := digits.length + exponent
  if 0 ≤ exponent ∧ point ≤ 16 then
    digits ++ List.replicate exponent.toNat '0' ++ ['.', '0']
  else if 0 < point ∧ point ≤ 16 then
    digits.take point.toNat ++ '.' :: digits.drop point.toNat
  else if -5 < point ∧ point ≤ 0 then
    '0' :: '.' :: List.replicate (-point).toNat '0' ++ digits
  else
    let power := intDigits (point - 1)
    let mark := if 0 ≤ point - 1 then 'e' :: '+' :: power else 'e' :: power
    match digits with
    | [d] => d :: mark
    | d :: ds => d :: '.' :: ds ++ mark
    | [] => mark

def render (x : FiniteDouble) : List Char :=
  let magnitude :=
    if x.units = 0 then ['0', '.', '0']
    else
      let (significand, exponent) := ofUnits x.units
      format significand exponent
  if x.negative then '-' :: magnitude else magnitude

end RestRecords.Shortest
