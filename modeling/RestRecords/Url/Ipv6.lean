import RestRecords.Text.Numeral
import RestRecords.Text.Split
/-!
# IPv6 addresses

Eight groups of hexadecimal digits between colons. One run of zero groups may be left out, and the
last two groups may be given as an IPv4 address. The written form leaves out the first of the
longest runs of at least two zero groups.
-/

namespace RestRecords.Url

open Text

/-- Eight groups of sixteen bits. -/
structure Ipv6 where
  groups : List UInt16
  length_groups : groups.length = 8
  deriving DecidableEq

namespace Ipv6

def readGroup? (cs : List Char) : Option UInt16 :=
  if cs.isEmpty || 4 < cs.length then none
  else (cs.mapM hexValue?).map fun ds => UInt16.ofNat (ds.foldl (fun n d => 16 * n + d) 0)

def readByte? (cs : List Char) : Option Nat :=
  if cs.head? = some '0' && cs.length != 1 then none else (readDigits? cs).filter (· < 256)

def readBytes? (cs : List Char) : Option (List UInt16) :=
  match (splitWhere (· == '.') cs).mapM readByte? with
  | some [a, b, c, d] => some [UInt16.ofNat (256 * a + b), UInt16.ofNat (256 * c + d)]
  | _ => none

/-- Groups between colons; where `last` is set, the final ones may be given as bytes. -/
def readGroups? (last : Bool) : List (List Char) → Option (List UInt16)
  | [] => some []
  | [part] =>
    if last && part.contains '.' then readBytes? part else (readGroup? part).map fun g => [g]
  | part :: parts => do
    let g ← readGroup? part
    return g :: (← readGroups? last parts)

def readSide? (last : Bool) (cs : List Char) : Option (List UInt16) :=
  if cs.isEmpty then some [] else readGroups? last (splitWhere (· == ':') cs)

def splitRun? : List Char → Option (List Char × List Char)
  | ':' :: ':' :: cs => some ([], cs)
  | c :: cs => (splitRun? cs).map fun (before, after) => (c :: before, after)
  | [] => none

def ofGroups? (groups : List UInt16) : Option Ipv6 :=
  if h : groups.length = 8 then some ⟨groups, h⟩ else none

def read? (cs : List Char) : Option Ipv6 :=
  match splitRun? cs with
  | none => (readGroups? true (splitWhere (· == ':') cs)).bind ofGroups?
  | some (before, after) => do
    let left ← readSide? false before
    let right ← readSide? true after
    if left.length + right.length < 8 then
      ofGroups? (left ++ List.replicate (8 - left.length - right.length) 0 ++ right)
    else none

def leadingZeros (groups : List UInt16) : Nat :=
  (groups.takeWhile (· == 0)).length

/-- The start and the length of the first of the longest runs of zero groups. -/
def longestRun : List UInt16 → Nat × Nat
  | [] => (0, 0)
  | g :: gs =>
    let (start, length) := longestRun gs
    let here := leadingZeros (g :: gs)
    if length ≤ here then (0, here) else (start + 1, length)

def groupsText (groups : List UInt16) : List Char :=
  [':'].intercalate (groups.map fun g => Nat.toDigits 16 g.toNat)

def text (address : Ipv6) : List Char :=
  let (start, length) := longestRun address.groups
  if 2 ≤ length then
    groupsText (address.groups.take start) ++ [':', ':'] ++
      groupsText (address.groups.drop (start + length))
  else groupsText address.groups

end Ipv6

end RestRecords.Url
