import RestRecords.Text.Numeral
import RestRecords.Text.Split
/-!
# IPv4 addresses

Four bytes between points. Fewer parts are read too, the last of which then fills the bytes that
are left, and parts may be octal or hexadecimal.
-/

namespace RestRecords.Url

open Text

namespace Ipv4

def readBase? (base : Nat) (cs : List Char) : Option Nat :=
  cs.foldl (fun acc c => do
    let n ← acc
    let d ← hexValue? c
    if d < base then some (n * base + d) else none) (some 0)

/-- The value of a part: `0x` begins a hexadecimal number, another zero an octal one. -/
def readPart? : List Char → Option Nat
  | [] => none
  | '0' :: 'x' :: cs => readBase? 16 cs
  | '0' :: 'X' :: cs => readBase? 16 cs
  | '0' :: c :: cs => readBase? 8 (c :: cs)
  | cs => readBase? 10 cs

/-- The parts of a name, without the empty one after a point at its end. -/
def parts (cs : List Char) : List (List Char) :=
  let all := splitWhere (· == '.') cs
  match all.reverse with
  | [] :: last :: before => (last :: before).reverse
  | _ => all

/-- Whether the last part of a name is a number, so that the name has to be an address. -/
def isNumeric (cs : List Char) : Bool :=
  match (parts cs).getLast? with
  | some part => (!part.isEmpty && part.all isDigit) || (readPart? part).isSome
  | none => false

def combine? : Nat → List Nat → Option Nat
  | 0, _ => none
  | _, [] => none
  | width + 1, [n] => if n < Nat.pow 256 (width + 1) then some n else none
  | width + 1, n :: rest =>
    if n < 256 then (combine? width rest).map (n * Nat.pow 256 width + ·) else none

def read? (cs : List Char) : Option UInt32 :=
  (((parts cs).mapM readPart?).bind (combine? 4)).map UInt32.ofNat

def text (address : UInt32) : List Char :=
  let byte := fun k => natDigits ((address.toNat / Nat.pow 256 k) % 256)
  byte 3 ++ '.' :: byte 2 ++ '.' :: byte 1 ++ '.' :: byte 0

end Ipv4

end RestRecords.Url
