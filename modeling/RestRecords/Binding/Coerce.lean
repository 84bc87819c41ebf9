import RestRecords.Json.Basic
import RestRecords.Number.Decimal
import RestRecords.Text.Blank
/-!
# Permissive scalars

Truth values, integers and doubles from loosely typed data. A numeral in a string may group its
whole part by points every three digits and have a comma as its decimal mark.
-/

namespace RestRecords.Coerce

open Text

def bool? : Json → Option Bool
  | .bool b => some b
  | .str s =>
    let word := String.ofList ((trim s.toList).map Char.toLower)
    if ["1", "true", "on", "yes"].contains word then some true
    else if ["0", "false", "off", "no", ""].contains word then some false
    else none
  | raw =>
    match raw.double?.bind FiniteDouble.toWhole? with
    | some 1 => some true
    | some 0 => some false
    | _ => none

/-- The double nearest to the largest signed 64-bit integer. -/
def int64Limit? : Option FiniteDouble :=
  FiniteDouble.ofInt? Int64.maxValue.toInt

/-- The integer a double is equal to, clamped to 64 bits, if the magnitude is below the limit. -/
def wholeInt64? (x : FiniteDouble) : Option Int64 :=
  if int64Limit?.any (x.abs < ·) then x.toWhole?.map Int64.ofIntClamp else none

def int? : Json → Option Int64
  | .bool true => some 1
  | .str s => readSigned64? (trim s.toList)
  | raw => raw.int64?.or (raw.double?.bind wholeInt64?)

/-- The groups of three digits, each behind a point, and the decimals behind a comma, up to the end
of a text. -/
def isGrouped : List Char → Bool
  | [] => true
  | '.' :: a :: b :: c :: rest => isDigit a && isDigit b && isDigit c && isGrouped rest
  | ',' :: rest => !rest.isEmpty && rest.all isDigit
  | _ => false

/-- Whether a numeral has points as group separators, or no separator but a decimal comma: one to
three digits, groups of three behind points, and decimals behind a comma. -/
def hasGroups (cs : List Char) : Bool :=
  let (first, rest) := spanDigits cs
  1 ≤ first.length && first.length ≤ 3 && isGrouped rest

def hasComma (cs : List Char) : Bool :=
  let (first, rest) := spanDigits cs
  match rest with
  | ',' :: decimals => !first.isEmpty && !decimals.isEmpty && decimals.all isDigit
  | _ => false

def pointForComma (cs : List Char) : List Char :=
  cs.map fun c => if c = ',' then '.' else c

def plainNumeral (cs : List Char) : List Char :=
  if hasGroups cs then pointForComma (cs.filter (· ≠ '.'))
  else if hasComma cs then pointForComma cs
  else cs

def float? : Json → Option FiniteDouble
  | .bool true => FiniteDouble.ofInt? 1
  | .str s => Decimal.readFinite? (plainNumeral (trim s.toList))
  | raw => raw.double?

end RestRecords.Coerce
