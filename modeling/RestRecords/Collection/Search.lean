import RestRecords.Collection
import RestRecords.Pattern.Limit
/-!
# Searching a collection

The entities of a collection whose field compares with a needle: equal, containing it, greater,
less, or matching it as a pattern. Named values are compared by their payload and enumeration cases
by their backing value.
-/

namespace RestRecords

open Text

inductive Comparison where
  | equals
  | contains
  | greaterThan
  | lessThan
  | regex
  deriving DecidableEq, Repr

namespace Comparison

def name : Comparison → String
  | .equals => "equals"
  | .contains => "contains"
  | .greaterThan => "greater_than"
  | .lessThan => "less_than"
  | .regex => "regex"

def ofName (s : String) : Except Error Comparison :=
  let all : List Comparison := [.equals, .contains, .greaterThan, .lessThan, .regex]
  match all.find? fun c => c.name == s with
  | some c => .ok c
  | none => .error (.configuration (.unknownComparison s))

theorem ofName_name (c : Comparison) : ofName c.name = .ok c := by
  cases c <;> rfl

/-- The number of a value: its own, or that of the decimal numeral it is. -/
def number? : Json → Option FiniteDouble
  | .str s => Decimal.readFinite? (trim s.toList)
  | raw => raw.double?

def isNumber : Json → Bool
  | .int _ | .float _ => true
  | _ => false

/-- Equality of values, and of numbers with numerals. -/
def looselyEqual (a b : Json) : Bool :=
  if a.equal b then true
  else if isNumber a || isNumber b then
    match number? a, number? b with
    | some x, some y => x.numEq y
    | _, _ => false
  else false

def isPart (part : List Char) : List Char → Bool
  | [] => part.isEmpty
  | c :: cs => part.isPrefixOf (c :: cs) || isPart part cs

/-- A comparison with its needle, ready to be tried. -/
inductive Test where
  | equals (needle : Json)
  | contains (part : List Char)
  | greaterThan (needle : Json)
  | lessThan (needle : Json)
  | regex (p : Pattern)

/-- Prepares a comparison; a pattern must be a string that can be read. -/
def prepare (c : Comparison) (needle : Json) : Except Error Test :=
  match c with
  | .equals => .ok (.equals needle)
  | .contains =>
    .ok (.contains (match needle with
      | .str s => s.toList
      | other => other.write))
  | .greaterThan => .ok (.greaterThan needle)
  | .lessThan => .ok (.lessThan needle)
  | .regex =>
    match needle with
    | .str source =>
      match Pattern.read source with
      | .ok p => .ok (.regex p)
      | .error fault => .error (.configuration (.invalidPattern source fault.message))
    | _ => .error (.configuration .patternNotText)

def Test.holds (value : Json) : Test → Bool
  | .equals needle => looselyEqual value needle
  | .contains part =>
    match value with
    | .str s => isPart part s.toList
    | _ => false
  | .greaterThan needle =>
    match number? value, number? needle with
    | some a, some b => decide (b < a)
    | _, _ => false
  | .lessThan needle =>
    match number? value, number? needle with
    | some a, some b => decide (a < b)
    | _, _ => false
  | .regex p =>
    match value with
    | .str s => p.isIn s.toList
    | _ => false

end Comparison

namespace Collection

/-- The value of an item's field as it is compared; nothing where it is unset or null. -/
def comparedValue? (Δ : Catalog) (field : String) (item : FieldValue) : Option Json :=
  ((item.record?.bind fun r => r.get? Δ field).filter fun v => !v.isNull).map fun v => v.toJson Δ

def isHit (Δ : Catalog) (field : String) (test : Comparison.Test) (item : FieldValue) : Bool :=
  (comparedValue? Δ field item).any fun value => test.holds value

def search (Δ : Catalog) (c : Collection) (field : String) (needle : Json)
    (comparison : Comparison) : Except Error (List FieldValue) :=
  (comparison.prepare needle).map fun test => c.items.filter (isHit Δ field test)

end Collection

end RestRecords
