import RestRecords.Text.Numeral
/-!
# Sets of characters

A set of characters is kept as the ranges of code points that make it up, in ascending order and as
few as there can be, so that a set has one form only.
-/

namespace RestRecords.Text

/-- A set of characters: the first and the last code points of its ranges. -/
structure CharSet where
  ranges : Array (Nat × Nat)
  deriving DecidableEq

namespace CharSet

def empty : CharSet := ⟨#[]⟩

def maxCode : Nat := 0x10FFFF

/-- The code point of the next character; surrogates are no characters. -/
private def succCode (n : Nat) : Nat :=
  if 0xD7FF ≤ n ∧ n < 0xE000 then 0xE000 else n + 1

private def predCode (n : Nat) : Nat :=
  if 0xD7FF < n ∧ n ≤ 0xE000 then 0xD7FF else n - 1

/-- Whether a code point is in one of the ranges from the position `low` on and before `high`. -/
private def isWithin (ranges : Array (Nat × Nat)) (n low high : Nat) : Bool :=
  if low < high then
    let middle := (low + high) / 2
    match ranges[middle]? with
    | none => false
    | some (first, last) =>
      if n < first then isWithin ranges n low middle
      else if last < n then isWithin ranges n (middle + 1) high
      else true
  else false
termination_by high - low

def contains (s : CharSet) (c : Char) : Bool :=
  isWithin s.ranges c.toNat 0 s.ranges.size

instance : Membership Char CharSet := ⟨fun s c => s.contains c⟩

instance (c : Char) (s : CharSet) : Decidable (c ∈ s) :=
  inferInstanceAs (Decidable (s.contains c = true))

/-- The range without surrogates at its ends, if anything is left of it. -/
private def trimRange (first last : Nat) : Option (Nat × Nat) :=
  let first := if 0xD800 ≤ first ∧ first < 0xE000 then 0xE000 else first
  let last := if 0xD800 ≤ last ∧ last < 0xE000 then 0xD7FF else last
  if first ≤ last then some (first, last) else none

/-- Adds a range that begins no earlier than the ranges before it, the last of which comes first. -/
private def extend (before : List (Nat × Nat)) (range : Nat × Nat) : List (Nat × Nat) :=
  match before with
  | (first, last) :: rest =>
    if range.1 ≤ succCode last then (first, max last range.2) :: rest else range :: before
  | [] => [range]

def ofRanges (ranges : List (Nat × Nat)) : CharSet :=
  let trimmed := ranges.filterMap fun r => trimRange r.1 r.2
  ⟨((trimmed.mergeSort fun a b => a.1 ≤ b.1).foldl extend []).reverse.toArray⟩

def ofChars (cs : List Char) : CharSet :=
  ofRanges (cs.map fun c => (c.toNat, c.toNat))

def range (first last : Char) : CharSet :=
  ofRanges [(first.toNat, last.toNat)]

private def gaps (next : Nat) : List (Nat × Nat) → List (Nat × Nat)
  | [] => if next ≤ maxCode then [(next, maxCode)] else []
  | (first, last) :: rest =>
    if next < first then (next, predCode first) :: gaps (succCode last) rest
    else gaps (succCode last) rest

def complement (s : CharSet) : CharSet :=
  ⟨(gaps 0 s.ranges.toList).toArray⟩

def all : CharSet :=
  empty.complement

def union (s t : CharSet) : CharSet :=
  if s.ranges.isEmpty then t
  else if t.ranges.isEmpty then s
  else ofRanges (s.ranges.toList ++ t.ranges.toList)

def inter (s t : CharSet) : CharSet :=
  (s.complement.union t.complement).complement

def diff (s t : CharSet) : CharSet :=
  (s.complement.union t).complement

instance : Union CharSet := ⟨union⟩
instance : Inter CharSet := ⟨inter⟩
instance : SDiff CharSet := ⟨diff⟩

def symmDiff (s t : CharSet) : CharSet :=
  (s \ t) ∪ (t \ s)

def isAscii (s : CharSet) : Bool :=
  s.ranges.all fun r => r.2 < 0x80

def single? (s : CharSet) : Option Char :=
  match s.ranges.toList with
  | [(first, last)] => if first = last then some (Char.ofNat first) else none
  | _ => none

/-- What is read of a list of ranges: the ranges, last first, the first code point of a range that
has been begun, and the number that has been begun. -/
private structure RangeReader where
  done : List (Nat × Nat)
  first : Option Nat
  number : Nat

private def RangeReader.close (r : RangeReader) : RangeReader :=
  ⟨(r.first.getD r.number, r.number) :: r.done, none, 0⟩

private def RangeReader.step (r : RangeReader) (c : Char) : RangeReader :=
  if c = ' ' then r.close
  else if c = '-' then { r with first := some r.number, number := 0 }
  else { r with number := 16 * r.number + (hexValue? c).getD 0 }

def ofLines (lines : List String) : CharSet :=
  ofRanges (lines.foldl
    (fun done line => (line.foldl RangeReader.step ⟨done, none, 0⟩).close.done) [])

end CharSet

end RestRecords.Text
