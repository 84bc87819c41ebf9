import RestRecords.Pattern.Build
import RestRecords.Pattern.ByteRanges
import Std.Data.HashMap
/-!
# Sizes of automata

What a pattern costs as a nondeterministic automaton over bytes, once for reading a text forward and
once for reading it backward. The automata are not built: their states are counted, and the bytes
that their states take beside the fixed size of a state.
-/

namespace RestRecords.Pattern.Automaton

open Text

/-- Which way an automaton reads a text. -/
inductive Direction where
  | forward
  | backward
  deriving DecidableEq, Repr

/-- The size of an automaton so far. The next state has the number of states as its own number. -/
structure Tally where
  states : Nat := 0
  extra : Nat := 0
  deriving DecidableEq, Repr

def maxBytes : Nat := 10485760

namespace Tally

/-- The bytes of the automaton: a state takes 32, and its links to others may take more. -/
def bytes (t : Tally) : Nat :=
  32 * t.states + t.extra

def isTooLarge (t : Tally) : Bool :=
  maxBytes < t.bytes

def add (t : Tally) (states : Nat := 1) (extra : Nat := 0) : Tally :=
  ⟨t.states + states, t.extra + extra⟩

def addRanges (t : Tally) (n : Nat) : Tally :=
  t.add 1 (8 * n)

def addLinks (t : Tally) (n : Nat) : Tally :=
  t.add 0 (4 * n)

end Tally

/-- A part of an automaton, with everything before it. An open part ends in a state that can go on
to any number of others, so that each further link from it takes room. -/
structure Fragment where
  tally : Tally
  isOpen : Bool

namespace Fragment

def linked (g : Fragment) : Tally :=
  g.tally.addLinks (if g.isOpen then 1 else 0)

end Fragment

/-- What a node of a tree of byte sequences goes on with: ranges of bytes and the numbers of the
states behind them. -/
private abbrev Branches := List (ByteRange × Nat)

private def hashOf (ns : List Nat) : UInt64 :=
  ns.foldl (fun h n => (h ^^^ n.toUInt64) * 1099511628211) 14695981039346656037

/-- A memory of states by what they go on with. It has a number of slots, and what comes to a slot
last is what it keeps. -/
private structure Memory where
  size : Nat
  slots : Std.HashMap Nat (Branches × Nat) := ∅

namespace Memory

private def slot (m : Memory) (ns : List Nat) : Nat :=
  (hashOf ns).toNat % m.size

private def find? (m : Memory) (slot : Nat) (key : Branches) : Option Nat :=
  m.slots[slot]?.bind fun (kept, state) => if kept == key then some state else none

private def put (m : Memory) (slot : Nat) (key : Branches) (state : Nat) : Memory :=
  { m with slots := m.slots.insert slot (key, state) }

end Memory

/-- An automaton in the making, and the states that may be shared. -/
private structure Sharing where
  tally : Tally
  memory : Memory

/-- The state that goes on with some branches, which may be there already. -/
private def Sharing.branch (g : Sharing) (branches : Branches) : Nat × Sharing :=
  let slot := g.memory.slot (branches.flatMap fun (range, next) => [range.1, range.2, next])
  match g.memory.find? slot branches with
  | some state => (state, g)
  | none =>
    let state := g.tally.states
    (state, ⟨g.tally.addRanges branches.length, g.memory.put slot branches state⟩)

private def groupByFirst (seqs : List (List ByteRange)) :
    List (ByteRange × List (List ByteRange)) :=
  seqs.foldr (fun seq groups =>
    match seq, groups with
    | [], groups => groups
    | first :: rest, (range, tails) :: more =>
      if first = range then (range, rest :: tails) :: more
      else (first, [rest]) :: (range, tails) :: more
    | first :: rest, [] => [(first, [rest])]) []

/-- The state from which the sequences lead to the state `target`; they have at most as many ranges
as the first number says. States that go on alike are shared. -/
private def treeOf : Nat → Nat → List (List ByteRange) → Sharing → Nat × Sharing
  | 0, target, _, g => (target, g)
  | n + 1, target, seqs, g =>
    let (branches, g) := (groupByFirst seqs).foldl (fun (branches, g) (range, tails) =>
      let (next, g) :=
        if tails.all List.isEmpty then (target, g) else treeOf n target tails g
      ((range, next) :: branches, g)) (([] : Branches), g)
    g.branch branches.reverse

/-- Adds a sequence that is read from its last range to its first and ends in the state `target`.
The last states of sequences are shared. -/
private def addBackward (target : Nat) (g : Sharing) (seq : List ByteRange) : Sharing :=
  let (_, g) := seq.foldl (fun (state, g) range =>
    let key : Branches := [(range, state)]
    let slot := g.memory.slot [state, range.1, range.2]
    match g.memory.find? slot key with
    | some state => (state, g)
    | none =>
      let next := g.tally.states
      (next, (⟨g.tally.add, g.memory.put slot key next⟩ : Sharing))) (target, g)
  { g with tally := g.tally.addLinks 1 }

private def addSet (d : Direction) (s : CharSet) (t : Tally) : Tally :=
  if s.isAscii then t.add.addRanges s.ranges.size
  else
    match d with
    | .forward => (treeOf 4 t.states (sequences s) ⟨t.add, { size := 10000 }⟩).2.tally
    | .backward =>
      ((sequences s).foldl (addBackward (t.states + 1)) ⟨t.add 2, { size := 1000 }⟩).tally

/-- Divides texts at those that are empty. Of several empty ones before the first other one, only
one counts. -/
private def splitAtEmpty (texts : List (List Nat)) : List (List (List Nat)) :=
  let step := fun (closed, current) (text : List Nat) =>
    if !text.isEmpty then (closed, text :: current)
    else if current.isEmpty && closed == [[]] then (closed, current)
    else (current :: closed, ([] : List (List Nat)))
  let (closed, current) := texts.foldl step (([] : List (List (List Nat))), [])
  (current :: closed).reverse.map List.reverse

private def byFirst (texts : List (List Nat)) : List (List (List Nat)) :=
  let firsts := (texts.filterMap List.head?).eraseDups
  firsts.map fun n => texts.filterMap fun text => if text.head? = some n then text.tail? else none

/-- Adds the states that tell texts apart, from a place that some of them have come to. The first
number is at least the length of each. -/
private def addTrie : Nat → List (List Nat) → Tally → Tally
  | 0, _, t => t
  | n + 1, texts, t =>
    if texts.all List.isEmpty then t
    else
      let chunks := splitAtEmpty texts
      let t := chunks.foldl (fun t chunk =>
        let children := byFirst chunk
        let t := children.foldl (fun t texts => addTrie n texts t) t
        if children.isEmpty then t
        else if children.length = 1 then (t.add).addLinks 1
        else (t.addRanges children.length).addLinks 1) t
      (t.add).addLinks (chunks.length - 1)

private def literalBytes? (d : Direction) : Pattern → Option (List Nat)
  | .literal cs =>
    let bytes := cs.flatMap fun c => utf8Bytes c.toNat
    some (if d = .forward then bytes else bytes.reverse)
  | _ => none

/-- Adds a part a number of times, each behind the one before. It stops when the automaton is too
large. -/
private def times (add : Tally → Fragment) : Nat → Fragment → Fragment
  | 0, g => g
  | n + 1, g => if g.tally.isTooLarge then g else times add n (add g.linked)

private def exactly (add : Tally → Fragment) (n : Nat) (t : Tally) : Fragment :=
  match n with
  | 0 => ⟨t.add, false⟩
  | n + 1 => times add n (add t)

/-- Adds a part at most `n` times behind another one; a link leads out before each. -/
private def upTo (add : Tally → Fragment) : Nat → Fragment → Fragment
  | 0, g => ⟨g.linked, false⟩
  | n + 1, g =>
    if g.tally.isTooLarge then g else upTo add n (add ((g.linked.add).addLinks 2))

/-- Adds the repetition of a part. What may be empty takes more room when it is repeated without an
end. -/
private def addRepeat (add : Tally → Fragment) (mayBeEmpty : Bool) (least : Nat)
    (most : Option Nat) (t : Tally) : Fragment :=
  match least, most with
  | 0, some 1 => ⟨((add t.add).linked.add).addLinks 2, false⟩
  | 0, none =>
    if mayBeEmpty then ⟨((add t).linked.add 3).addLinks 4, false⟩
    else ⟨(add t.add).linked.addLinks 1, true⟩
  | least, none => ⟨((exactly add least t).linked.add).addLinks 1, true⟩
  | least, some most =>
    if least = most then exactly add least t
    else
      let g := exactly add least t
      upTo add (most - least) { g with tally := g.tally.add }

mutual

def build (d : Direction) : Pattern → Tally → Fragment
  | .empty, t | .look _, t => ⟨t.add, false⟩
  | .literal cs, t => ⟨t.add (byteCount cs), false⟩
  | .set s, t => ⟨addSet d s t, false⟩
  | .group _ p, t =>
    match d with
    | .forward => ⟨(build d p t.add).linked.add, false⟩
    | .backward => build d p t
  | .repeat p least most _, t =>
    addRepeat (build d p) (!(leastBytes? p).any (0 < ·)) least most t
  | .seq ps, t => buildSeq d ps t
  | .alt ps, t =>
    match ps.mapM (literalBytes? d) with
    | some texts =>
      ⟨addTrie ((texts.map List.length).foldl max 0 + 1) texts t.add, false⟩
    | none => ⟨buildAlt d ps 2 t, false⟩

def buildSeq (d : Direction) : List Pattern → Tally → Fragment
  | [], t => ⟨t.add, false⟩
  | [p], t => build d p t
  | p :: ps, t =>
    match d with
    | .forward => buildSeq d ps (build d p t).linked
    | .backward => build d p (buildSeq d ps t).linked

/-- Adds the patterns of a choice. The state where they begin and the one where they end come when
no more of the first patterns are left. -/
def buildAlt (d : Direction) : List Pattern → Nat → Tally → Tally
  | [], _, t => t
  | p :: ps, left, t =>
    let t := (build d p t).linked.addLinks 1
    buildAlt d ps (left - 1) (if left = 1 then t.add 2 else t)

end

/-- What is required at the very end of a text that a pattern is tried on from either side. -/
private def edge : Direction → Look
  | .forward => .textStart
  | .backward => .textEnd

mutual

/-- Whether every match of a pattern begins, as the automaton comes to it, at the edge of the
text. -/
def isAnchored (d : Direction) : Pattern → Bool
  | .look l => l == edge d
  | .group _ p => isAnchored d p
  | .repeat p least _ _ => 0 < least && isAnchored d p
  | .seq ps => isSeqAnchored d ps
  | .alt ps => areAnchored d ps
  | _ => false

/-- Whether one of the first patterns that take up nothing, or the one behind them, is anchored. -/
def isSeqAnchored (d : Direction) : List Pattern → Bool
  | [] => false
  | p :: ps =>
    match d with
    | .forward => isAnchored d p || (mostBytes? p == some 0 && isSeqAnchored d ps)
    | .backward => isSeqAnchored d ps || (seqMost? ps == some 0 && isAnchored d p)

def areAnchored (d : Direction) : List Pattern → Bool
  | [] => true
  | p :: ps => isAnchored d p && areAnchored d ps

end

/-- The size of the automaton that looks for a pattern in a text. What may begin anywhere has states
that pass over the text before it, and what is matched has a state at its end and, forward, one more
at each of its ends. -/
def tally (d : Direction) (p : Pattern) : Tally :=
  let start : Tally := if isAnchored d p then ⟨1, 0⟩ else ⟨3, 16⟩
  match d with
  | .forward => (build d p start.add).linked.add 2
  | .backward => (build d p start).linked.add

def isSmall (p : Pattern) : Bool :=
  !(tally .forward p).isTooLarge && !(tally .backward p).isTooLarge

end RestRecords.Pattern.Automaton
