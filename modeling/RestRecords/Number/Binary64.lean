/-!
# Double precision numbers

A finite double is kept exactly, as a sign and a whole number of units of `2⁻¹⁰⁷⁴`, the spacing of
the smallest doubles. Every comparison is then one of integers, and rounding to the nearest double
is a division.
-/

namespace RestRecords

namespace Binary64

def unitsPerOne : Nat := Nat.pow 2 1074

def unitBits : Nat := 2098

def unitLimit : Nat := Nat.pow 2 unitBits

theorem unitLimit_pos : 0 < unitLimit := by
  unfold unitLimit
  generalize unitBits = n
  exact Nat.pow_pos Nat.two_pos

/-- The exponent of the spacing between the doubles around `units`: `53` significant bits. -/
def spacing (units : Nat) : Nat :=
  units.log2 - 52

/-- Whether `units` is the magnitude of a finite double. -/
def Representable (units : Nat) : Prop :=
  units < unitLimit ∧ units % Nat.pow 2 (spacing units) = 0

instance (units : Nat) : Decidable (Representable units) :=
  inferInstanceAs (Decidable (_ ∧ _))

/-- The whole number nearest to `num / den`; a half goes to the even neighbour. -/
def roundDiv (num den : Nat) : Nat :=
  let q := num / den
  let r := num % den
  if 2 * r < den then q else if den < 2 * r then q + 1 else q + q % 2

/-- The double nearest to `num / den`, in units; it may lie beyond the finite range. -/
def roundUnits (num den : Nat) : Nat :=
  let scaled := num * unitsPerOne
  let step := Nat.pow 2 (spacing (scaled / den))
  roundDiv scaled (den * step) * step

end Binary64

/-- A finite double: its sign, and its magnitude in units of `2⁻¹⁰⁷⁴`. -/
structure FiniteDouble where
  negative : Bool
  units : Nat
  representable : Binary64.Representable units
  deriving DecidableEq

namespace FiniteDouble

open Binary64

def ofUnits? (negative : Bool) (units : Nat) : Option FiniteDouble :=
  if h : Representable units then some ⟨negative, units, h⟩ else none

def zero : FiniteDouble := ⟨false, 0, unitLimit_pos, Nat.zero_mod _⟩

/-- The double nearest to `± num / den`; nothing beyond the finite range. -/
def ofRatio? (negative : Bool) (num den : Nat) : Option FiniteDouble :=
  ofUnits? negative (roundUnits num den)

def ofInt? (i : Int) : Option FiniteDouble :=
  ofRatio? (decide (i < 0)) i.natAbs 1

/-- The value in units, with its sign; both zeros give `0`. -/
def toInt (x : FiniteDouble) : Int :=
  if x.negative then -x.units else x.units

def neg (x : FiniteDouble) : FiniteDouble :=
  { x with negative := !x.negative }

def abs (x : FiniteDouble) : FiniteDouble :=
  { x with negative := false }

/-- Numeric equality: the two zeros are equal. -/
def numEq (x y : FiniteDouble) : Bool :=
  x.toInt == y.toInt

instance : LT FiniteDouble := ⟨fun x y => x.toInt < y.toInt⟩

instance (x y : FiniteDouble) : Decidable (x < y) :=
  inferInstanceAs (Decidable (x.toInt < y.toInt))

def toWhole? (x : FiniteDouble) : Option Int :=
  if x.units % unitsPerOne = 0 then
    let n : Int := (x.units / unitsPerOne : Nat)
    some (if x.negative then -n else n)
  else none

def mul? (x y : FiniteDouble) : Option FiniteDouble :=
  ofRatio? (x.negative != y.negative) (x.units * y.units) (unitsPerOne * unitsPerOne)

def div? (x y : FiniteDouble) : Option FiniteDouble :=
  ofRatio? (x.negative != y.negative) x.units y.units

def bits (x : FiniteDouble) : Nat :=
  let sign := if x.negative then Nat.pow 2 63 else 0
  let magnitude :=
    if x.units < Nat.pow 2 52 then x.units
    else
      let shift := spacing x.units
      (shift + 1) * Nat.pow 2 52 + (x.units / Nat.pow 2 shift - Nat.pow 2 52)
  sign + magnitude

theorem numEq_iff {x y : FiniteDouble} : x.numEq y = true ↔ x.toInt = y.toInt :=
  beq_iff_eq

theorem lt_iff {x y : FiniteDouble} : x < y ↔ x.toInt < y.toInt :=
  Iff.rfl

end FiniteDouble

inductive Binary64 where
  | finite (x : FiniteDouble)
  | infinite (negative : Bool)
  | nan
  deriving DecidableEq

namespace Binary64

def ofRatio (negative : Bool) (num den : Nat) : Binary64 :=
  match FiniteDouble.ofRatio? negative num den with
  | some x => .finite x
  | none => .infinite negative

def finite? : Binary64 → Option FiniteDouble
  | .finite x => some x
  | _ => none

/-- Numeric equality: zeros are equal, and `nan` differs from every number. -/
def numEq : Binary64 → Binary64 → Bool
  | .finite x, .finite y => x.numEq y
  | .infinite m, .infinite n => m == n
  | _, _ => false

end Binary64

end RestRecords
