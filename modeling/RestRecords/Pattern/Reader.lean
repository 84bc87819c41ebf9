import RestRecords.Pattern.Class
/-!
# Reading patterns

The written form of a pattern: literals, escapes and classes, groups, alternatives, repetitions,
assertions, and flags that hold to the end of their group. Neither looking around nor references to
groups are part of it.
-/

namespace RestRecords.Pattern

open Text

/-- A pattern as it is written, and how deep groups, repetitions, sequences, alternatives and
classes are nested in it. -/
structure Part where
  pattern : Pattern
  depth : Nat

def maxDepth : Nat := 250

/-- What the reader keeps along a pattern: the flags in force, the number of groups, and the names
of those that have one. -/
structure ReaderState where
  flags : Flags := {}
  groups : Nat := 0
  names : List (List Char) := []

/-- What a pattern has come to: its last items, and the alternatives before them. An item may be a
change of flags, which cannot be repeated. -/
structure Progress where
  items : List (Option Part) := []
  alternatives : List Part := []

namespace Progress

private def depthOf (parts : List (Option Part)) : Nat :=
  parts.foldl (fun depth part => max depth (part.elim 0 Part.depth)) 0

private def joined (items : List (Option Part)) : Part :=
  let depth := depthOf items
  ⟨sequence (items.reverse.filterMap fun part => part.map Part.pattern),
    if 2 ≤ items.length then depth + 1 else depth⟩

def push (part : Part) (g : Progress) : Progress :=
  { g with items := some part :: g.items }

def split (g : Progress) : Progress :=
  ⟨[], joined g.items :: g.alternatives⟩

def finish (g : Progress) : Part :=
  match g.alternatives with
  | [] => joined g.items
  | before =>
    let parts := joined g.items :: before
    ⟨choice (parts.reverse.map Part.pattern), depthOf (parts.map some) + 1⟩

def repeatLast? (least : Nat) (most : Option Nat) (few : Bool) (g : Progress) : Option Progress :=
  match g.items with
  | some part :: items =>
    some { g with items := some ⟨repeated part.pattern least most few, part.depth + 1⟩ :: items }
  | _ => none

end Progress

private def setFlag? (f : Flags) (on : Bool) : Char → Option Flags
  | 'i' => some { f with ignoreCase := on }
  | 'm' => some { f with multiLine := on }
  | 's' => some { f with dotAll := on }
  | 'U' => some { f with swapGreed := on }
  | 'u' => some { f with unicode := on }
  | 'R' => some { f with crlf := on }
  | 'x' => some { f with verbose := on }
  | _ => none

/-- The flags of a group after its question mark, up to the sign behind them. No letter may come
twice, and a dash must be followed by a letter. -/
private def readFlags? (f : Flags) : Bool → List Char → List Char → Option (Flags × List Char)
  | _, _, [] => none
  | on, seen, c :: rest =>
    if c = ':' ∨ c = ')' then
      if seen.head? = some '-' then none else some (f, c :: rest)
    else if seen.contains c then none
    else if c = '-' then readFlags? f false ('-' :: seen) rest
    else (setFlag? f on c).bind fun f => readFlags? f on (c :: seen) rest

private def readGroupName? (cs : List Char) : Option (List Char × List Char) :=
  let name := cs.takeWhile (· ≠ '>')
  let isStart (c : Char) := c == '_' || Property.alphabetic.contains c
  let isPart (c : Char) := isStart c || ['.', '[', ']'].contains c || inCategories ["N"] c
  match name, cs.drop name.length with
  | c :: part, '>' :: rest => if isStart c && part.all isPart then some (name, rest) else none
  | _, _ => none

private def readCount? (f : Flags) (cs : List Char) : Option (Nat × List Char) :=
  let (digits, rest) := f.span isDigit (cs.dropWhile isBlank)
  let n := digitsValue digits
  if digits.isEmpty ∨ UInt32.size ≤ n then none
  else some (n, (f.span isBlank rest).2)

private def readBounds? (f : Flags) (cs : List Char) : Option (Nat × Option Nat × List Char) := do
  let (least, rest) ← readCount? f (f.skip cs)
  match rest with
  | '\x7d' :: rest => return (least, some least, rest)
  | ',' :: rest =>
    match f.skip rest with
    | '\x7d' :: rest => return (least, none, rest)
    | rest =>
      let (most, rest) ← readCount? f rest
      match rest with
      | '\x7d' :: rest => if most < least then none else return (least, some most, rest)
      | _ => none
  | _ => none

private def readFew : List Char → Bool × List Char
  | '?' :: rest => (true, rest)
  | cs => (false, cs)

private def anyChar? (f : Flags) : Option Pattern :=
  if !f.unicode then none
  else if f.dotAll then some (ofSet .all)
  else if f.crlf then some (ofSet (CharSet.ofChars ['\n', '\r']).complement)
  else some (ofSet (CharSet.ofChars ['\n']).complement)

private def lineStart (f : Flags) : Pattern :=
  .look (if f.multiLine then .lineStart f.crlf else .textStart)

private def lineEnd (f : Flags) : Pattern :=
  .look (if f.multiLine then .lineEnd f.crlf else .textEnd)

/-- The pattern of an escape. A byte that is no ASCII character is not part of a text. -/
private def ofAtom? (f : Flags) : Atom → Option Pattern
  | .literal c isByte =>
    if isByte && !f.unicode && !Flags.isAscii c then none else some (f.literal c)
  | .set s => some (ofSet s)
  | .look l => some (.look l)

/-- What the reader finds behind an opening parenthesis: a change of flags, or a group, which may
have a number. -/
private inductive Opening where
  | flags (f : Flags)
  | group (index : Option Nat) (st : ReaderState)

private def readOpening? (st : ReaderState) (cs : List Char) : Option (Opening × List Char) :=
  let numbered (st : ReaderState) :=
    Opening.group (some st.groups) { st with groups := st.groups + 1 }
  let named (rest : List Char) := (readGroupName? rest).bind fun (name, rest) =>
    if st.names.contains name then none
    else some (numbered { st with names := name :: st.names }, rest)
  match cs with
  | '?' :: '=' :: _ | '?' :: '!' :: _ | '?' :: '<' :: '=' :: _ | '?' :: '<' :: '!' :: _ => none
  | '?' :: 'P' :: '<' :: rest | '?' :: '<' :: rest => named rest
  | '?' :: rest =>
    match readFlags? st.flags true [] rest with
    | some (f, ')' :: after) => if rest.head? = some ')' then none else some (.flags f, after)
    | some (f, ':' :: after) => some (.group none { st with flags := f }, after)
    | _ => none
  | rest => some (numbered st, rest)

private def grouped (index : Option Nat) (part : Part) : Part :=
  ⟨index.elim part.pattern fun i => .group i part.pattern, part.depth + 1⟩

def readItems : Nat → ReaderState → Progress → List Char →
    Option (Part × ReaderState × List Char)
  | 0, _, _, _ => none
  | n + 1, st, g, cs =>
    let f := st.flags
    let leaf (p : Pattern) (rest : List Char) := readItems n st (g.push ⟨p, 0⟩) rest
    let repeating (least : Nat) (most : Option Nat) (rest : List Char) :=
      let (few, rest) := readFew rest
      (g.repeatLast? least most (few != f.swapGreed)).bind fun g => readItems n st g rest
    match f.skip cs with
    | [] => some (g.finish, st, [])
    | ')' :: rest => some (g.finish, st, ')' :: rest)
    | '|' :: rest => readItems n st g.split rest
    | '(' :: rest =>
      match readOpening? st (f.skip rest) with
      | none => none
      | some (.flags f, rest) =>
        readItems n { st with flags := f } { g with items := none :: g.items } rest
      | some (.group index inner, rest) =>
        match readItems n inner {} rest with
        | some (part, inner, ')' :: rest) =>
          readItems n { inner with flags := f } (g.push (grouped index part)) rest
        | _ => none
    | '[' :: rest =>
      (readClass? f (rest.length + 2) rest).bind fun (part, rest) =>
        readItems n st (g.push ⟨ofSet part.set, part.depth⟩) rest
    | '?' :: rest => repeating 0 (some 1) rest
    | '*' :: rest => repeating 0 none rest
    | '+' :: rest => repeating 1 none rest
    | '\x7b' :: rest =>
      (readBounds? f rest).bind fun (least, most, rest) => repeating least most (f.skip rest)
    | '\\' :: rest =>
      (readEscape? f rest).bind fun (a, rest) => (ofAtom? f a).bind fun p => leaf p rest
    | '.' :: rest => (anyChar? f).bind fun p => leaf p rest
    | '^' :: rest => leaf (lineStart f) rest
    | '$' :: rest => leaf (lineEnd f) rest
    | c :: rest => leaf (f.literal c) rest

def ofString? (source : String) : Option Pattern :=
  let cs := source.toList
  match readItems (cs.length + 2) {} {} cs with
  | some (part, _, []) => if part.depth ≤ maxDepth then some part.pattern else none
  | _ => none

end RestRecords.Pattern
