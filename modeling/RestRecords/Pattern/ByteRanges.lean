import RestRecords.Text.CharSet
/-!
# Ranges of bytes

The UTF-8 forms of a set of characters, as sequences of ranges of bytes: a sequence stands for all
forms with one byte of each of its ranges. The sequences of a set are in the order of its characters
and have no form in common.
-/

namespace RestRecords.Pattern

open Text

abbrev ByteRange := Nat × Nat

def utf8Bytes (n : Nat) : List Nat :=
  if n < 0x80 then [n]
  else if n < 0x800 then [0xC0 + n / 64, 0x80 + n % 64]
  else if n < 0x10000 then [0xE0 + n / 4096, 0x80 + n / 64 % 64, 0x80 + n % 64]
  else [0xF0 + n / 262144, 0x80 + n / 4096 % 64, 0x80 + n / 64 % 64, 0x80 + n % 64]

/-- Where a range has to be divided so that its lower end begins a block of `m` code points, or its
upper end finishes one, if it reaches over more than one such block. -/
private def blockCut? (m first last : Nat) : Option Nat :=
  if first / m = last / m then none
  else if first % m ≠ 0 then some ((first / m + 1) * m)
  else if last % m ≠ m - 1 then some (last / m * m)
  else none

/-- Where the ranges of code points with forms of two, three and four bytes begin. -/
private def widthCut? (first last : Nat) : Option Nat :=
  [0x80, 0x800, 0x10000].find? fun n => first < n && n ≤ last

private def cut? (first last : Nat) : Option Nat :=
  (widthCut? first last).or
    (if last < 0x80 then none else [64, 4096, 262144].findSome? fun m => blockCut? m first last)

/-- The sequences of the code points from `first` to `last`, none of which is a surrogate. -/
def rangeSequences (first last : Nat) : List (List ByteRange) :=
  match cut? first last with
  | none => [(utf8Bytes first).zip (utf8Bytes last)]
  | some n =>
    if first < n ∧ n ≤ last then rangeSequences first (n - 1) ++ rangeSequences n last
    else [(utf8Bytes first).zip (utf8Bytes last)]
termination_by last - first

def sequences (s : CharSet) : List (List ByteRange) :=
  s.ranges.toList.flatMap fun (first, last) =>
    if first < 0xD800 ∧ 0xE000 ≤ last then rangeSequences first 0xD7FF ++ rangeSequences 0xE000 last
    else rangeSequences first last

end RestRecords.Pattern
