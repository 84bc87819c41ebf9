import RestRecords.Pattern.Basic
/-!
# Building patterns

The simplest pattern for what is put together: sequences without sequences in them, choices between
characters as one set, and a beginning that all choices share in front of them.
-/

namespace RestRecords.Pattern

open Text

mutual

def isSame : Pattern → Pattern → Bool
  | .empty, .empty => true
  | .literal cs, .literal ds => cs == ds
  | .set s, .set t => s == t
  | .look l, .look m => l == m
  | .group i p, .group j q => i == j && isSame p q
  | .repeat p least most few, .repeat q least' most' few' =>
    least == least' && most == most' && few == few' && isSame p q
  | .seq ps, .seq qs => areSame ps qs
  | .alt ps, .alt qs => areSame ps qs
  | _, _ => false

def areSame : List Pattern → List Pattern → Bool
  | [], [] => true
  | p :: ps, q :: qs => isSame p q && areSame ps qs
  | _, _ => false

end

def byteCount (cs : List Char) : Nat :=
  cs.foldl (fun n c => n + c.utf8Size) 0

/-- The least and the greatest number of bytes of a character of a set, if it has any. -/
private def setBytes (s : CharSet) : Option (Nat × Nat) := do
  let first ← s.ranges[0]?
  let last ← s.ranges.back?
  return ((Char.ofNat first.1).utf8Size, (Char.ofNat last.2).utf8Size)

mutual

/-- The least number of bytes of a match. It is not known where something inside never matches. -/
def leastBytes? : Pattern → Option Nat
  | .empty | .look _ => some 0
  | .literal cs => some (byteCount cs)
  | .set s => (setBytes s).map Prod.fst
  | .group _ p => leastBytes? p
  | .repeat p least _ _ => (leastBytes? p).map (· * least)
  | .seq ps => seqLeast? ps
  | .alt ps => altLeast? ps

def seqLeast? : List Pattern → Option Nat
  | [] => some 0
  | p :: ps => do return (← leastBytes? p) + (← seqLeast? ps)

def altLeast? : List Pattern → Option Nat
  | [] => none
  | [p] => leastBytes? p
  | p :: ps => do return min (← leastBytes? p) (← altLeast? ps)

end

mutual

def mostBytes? : Pattern → Option Nat
  | .empty | .look _ => some 0
  | .literal cs => some (byteCount cs)
  | .set s => (setBytes s).map Prod.snd
  | .group _ p => mostBytes? p
  | .repeat p _ most _ => do return (← mostBytes? p) * (← most)
  | .seq ps => seqMost? ps
  | .alt ps => altMost? ps

def seqMost? : List Pattern → Option Nat
  | [] => some 0
  | p :: ps => do return (← mostBytes? p) + (← seqMost? ps)

def altMost? : List Pattern → Option Nat
  | [] => none
  | [p] => mostBytes? p
  | p :: ps => do return max (← mostBytes? p) (← altMost? ps)

end

def ofSet (s : CharSet) : Pattern :=
  match s.single? with
  | some c => .literal [c]
  | none => .set s

/-- Puts a pattern in front of the parts of a sequence; two literals become one. -/
private def prepend : Pattern → List Pattern → List Pattern
  | .empty, ps => ps
  | .literal cs, .literal ds :: ps => .literal (cs ++ ds) :: ps
  | p, ps => p :: ps

private def parts : Pattern → List Pattern
  | .seq ps => ps
  | p => [p]

def sequence (ps : List Pattern) : Pattern :=
  match (ps.flatMap parts).foldr prepend [] with
  | [] => .empty
  | [p] => p
  | ps => .seq ps

private def choices : Pattern → List Pattern
  | .alt ps => ps
  | p => [p]

private def char? : Pattern → Option Char
  | .literal [c] => some c
  | _ => none

private def set? : Pattern → Option CharSet
  | .set s => some s
  | _ => none

private def choiceSet? (ps : List Pattern) : Option CharSet :=
  ((ps.mapM char?).map .ofChars).or
    ((ps.mapM set?).map fun sets => .ofRanges (sets.flatMap fun s => s.ranges.toList))

private def choose (ps : List Pattern) : Pattern :=
  match ps with
  | [] => .set .empty
  | [p] => p
  | ps =>
    match choiceSet? ps with
    | some s => ofSet s
    | none => .alt ps

private def sharedCount : List Pattern → List Pattern → Nat
  | p :: ps, q :: qs => if isSame p q then sharedCount ps qs + 1 else 0
  | _, _ => 0

private def seqParts? : Pattern → Option (List Pattern)
  | .seq ps => some ps
  | _ => none

/-- The parts that all choices begin with, if they are sequences, and what is left of each. -/
private def shared? (ps : List Pattern) : Option (List Pattern × List Pattern) := do
  let seqs ← ps.mapM seqParts?
  let first ← seqs.head?
  let n := (seqs.map (sharedCount first)).foldl min first.length
  if n = 0 then none
  return (first.take n, seqs.map fun s => sequence (s.drop n))

def choice (ps : List Pattern) : Pattern :=
  match choose (ps.flatMap choices) with
  | .alt qs =>
    match shared? qs with
    | some (first, rest) => sequence (first ++ [choose (rest.flatMap choices)])
    | none => .alt qs
  | p => p

/-- The pattern a number of times. What has no length need not be there more than once. -/
def repeated (p : Pattern) (least : Nat) (most : Option Nat) (few : Bool) : Pattern :=
  let isShort := mostBytes? p = some 0
  let least := if isShort then min least 1 else least
  let most := if isShort then some (min (most.getD 1) 1) else most
  if least = 0 ∧ most = some 0 then .empty
  else if least = 1 ∧ most = some 1 then p
  else .repeat p least most few

end RestRecords.Pattern
