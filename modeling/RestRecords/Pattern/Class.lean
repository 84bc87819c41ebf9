import RestRecords.Pattern.Escape
/-!
# Classes

The classes of a written pattern: sets of characters in brackets, with ranges, escapes, named sets,
other classes and operations on sets.
-/

namespace RestRecords.Pattern

open Text

/-- The set of a class, and how deep classes and operations are nested in it. -/
structure ClassPart where
  set : CharSet
  depth : Nat

private def asciiSet? (name : String) : Option CharSet :=
  match name with
  | "alnum" => some (.ofLines ["30-39 41-5A 61-7A"])
  | "alpha" => some (.ofLines ["41-5A 61-7A"])
  | "ascii" => some (.ofLines ["0-7F"])
  | "blank" => some (.ofLines ["9 20"])
  | "cntrl" => some (.ofLines ["0-1F 7F"])
  | "digit" => some (.ofLines ["30-39"])
  | "graph" => some (.ofLines ["21-7E"])
  | "lower" => some (.ofLines ["61-7A"])
  | "print" => some (.ofLines ["20-7E"])
  | "punct" => some (.ofLines ["21-2F 3A-40 5B-60 7B-7E"])
  | "space" => some (.ofLines ["9-D 20"])
  | "upper" => some (.ofLines ["41-5A"])
  | "word" => some asciiWordChars
  | "xdigit" => some (.ofLines ["30-39 41-46 61-66"])
  | _ => none

/-- A named set of ASCII characters after its opening bracket, if there is one, and whether it is
negated. -/
private def asciiName? (cs : List Char) : Option (CharSet × Bool × List Char) :=
  match cs with
  | ':' :: rest =>
    let (negated, rest) := match rest with
      | '^' :: rest => (true, rest)
      | _ => (false, rest)
    let name := rest.takeWhile (· ≠ ':')
    match rest.drop name.length with
    | ':' :: ']' :: rest => (asciiSet? (String.ofList name)).map (·, negated, rest)
    | _ => none
  | _ => none

private def readClassAtom? (f : Flags) : List Char → Option (Atom × List Char)
  | '\\' :: rest => readEscape? f rest
  | c :: rest => some (.literal c false, rest)
  | [] => none

private def rangeSet? (f : Flags) (first last : Char) : Option CharSet :=
  if last < first then none
  else if f.unicode || (Flags.isAscii first && Flags.isAscii last) then some (.range first last)
  else none

private def Atom.set? (f : Flags) : Atom → Option CharSet
  | .literal c _ => rangeSet? f c c
  | .set s => some s
  | .look _ => none

/-- A range of a class, or a single item. A dash is a range unless a closing bracket or another dash
follows it. -/
private def readRange? (f : Flags) (cs : List Char) : Option (CharSet × List Char) := do
  let (first, rest) ← readClassAtom? f cs
  match f.skip rest with
  | [] => none
  | '-' :: after =>
    if f.peek after == some ']' || f.peek after == some '-' then
      return (← first.set? f, '-' :: after)
    let (last, rest) ← readClassAtom? f (f.skip after)
    match first, last with
    | .literal a _, .literal b _ => return (← rangeSet? f a b, rest)
    | _, _ => none
  | rest => return (← first.set? f, rest)

inductive SetOp where
  | both
  | without
  | either

private def SetOp.apply (op : SetOp) (s t : CharSet) : CharSet :=
  match op with
  | .both => s ∩ t
  | .without => s \ t
  | .either => s.symmDiff t

/-- What a class has come to: the left operand of the operation that waits for its other one, and
the ranges of the items since then, the number of these and the depth of the deepest. -/
private structure ClassProgress where
  pending : Option (ClassPart × SetOp) := none
  ranges : List (Nat × Nat) := []
  count : Nat := 0
  depth : Nat := 0

namespace ClassProgress

private def push (g : ClassProgress) (s : CharSet) (depth : Nat) : ClassProgress :=
  { g with
    ranges := s.ranges.toList ++ g.ranges, count := g.count + 1, depth := max g.depth depth }

/-- The set of everything so far. More items than one are a level of their own, and so is an
operation. -/
private def settle (f : Flags) (g : ClassProgress) : ClassPart :=
  let set := CharSet.ofRanges g.ranges
  let depth := if 2 ≤ g.count then g.depth + 1 else g.depth
  match g.pending with
  | none => ⟨set, depth⟩
  | some (left, op) => ⟨op.apply (f.fold left.set) (f.fold set), max left.depth depth + 1⟩

private def operate (f : Flags) (g : ClassProgress) (op : SetOp) : ClassProgress :=
  { pending := some (g.settle f, op) }

end ClassProgress

private def leadingItems (f : Flags) (cs : List Char) : List Char × List Char :=
  match cs with
  | ']' :: rest => ([']'], f.skip rest)
  | _ => f.span (· = '-') cs

def readClass? (f : Flags) : Nat → List Char → Option (ClassPart × List Char)
  | 0, _ => none
  | n + 1, cs =>
    let (negated, cs) := match f.skip cs with
      | '^' :: rest => (true, f.skip rest)
      | cs => (false, cs)
    let (items, cs) := leadingItems f cs
    let start := items.foldl (fun (g : ClassProgress) c => g.push (.ofChars [c]) 0) {}
    (body n start cs).bind fun (part, rest) =>
      (f.settle? negated part.set).map fun s => (⟨s, part.depth + 1⟩, rest)
where
  /-- The items of a class behind those that have been read. -/
  body : Nat → ClassProgress → List Char → Option (ClassPart × List Char)
    | 0, _, _ => none
    | n + 1, g, cs =>
      match f.skip cs with
      | [] => none
      | ']' :: rest => some (g.settle f, rest)
      | '&' :: '&' :: rest => body n (g.operate f .both) rest
      | '-' :: '-' :: rest => body n (g.operate f .without) rest
      | '~' :: '~' :: rest => body n (g.operate f .either) rest
      | '[' :: rest =>
        match asciiName? rest with
        | some (s, negated, rest) =>
          (f.settle? negated s).bind fun s => body n (g.push s 0) rest
        | none =>
          (readClass? f n rest).bind fun (part, rest) => body n (g.push part.set part.depth) rest
      | cs => (readRange? f cs).bind fun (s, rest) => body n (g.push s 0) rest

end RestRecords.Pattern
