import RestRecords.Pattern.Build
import RestRecords.Text.Blank
import RestRecords.Text.CaseFold
/-!
# Flags of patterns

The flags that change how a pattern is read, and what they mean for sets of characters and for
blanks. In a verbose pattern blanks and comments may stand between any two characters that are read
one after the other.
-/

namespace RestRecords.Pattern

open Text

/-- The flags in force at a place of a pattern. -/
structure Flags where
  ignoreCase : Bool := false
  multiLine : Bool := false
  dotAll : Bool := false
  swapGreed : Bool := false
  unicode : Bool := true
  crlf : Bool := false
  verbose : Bool := false
  deriving DecidableEq, Repr

namespace Flags

def isAscii (c : Char) : Bool :=
  c.toNat < 0x80

private def withAsciiVariants (s : CharSet) : CharSet :=
  s ∪ .ofChars ((List.range 26).flatMap fun i =>
    let small := Char.ofNat ('a'.toNat + i)
    let capital := Char.ofNat ('A'.toNat + i)
    if s.contains small || s.contains capital then [small, capital] else [])

def fold (f : Flags) (s : CharSet) : CharSet :=
  if !f.ignoreCase then s
  else if f.unicode then s.withVariants
  else withAsciiVariants s

/-- The set with the case that the flags ask for, or its complement; without Unicode there are only
the ASCII characters, and no set may leave them. -/
def settle? (f : Flags) (negated : Bool) (s : CharSet) : Option CharSet :=
  let s := f.fold s
  let s := if negated then s.complement else s
  if f.unicode || s.isAscii then some s else none

def literal (f : Flags) (c : Char) : Pattern :=
  if !f.ignoreCase then .literal [c]
  else if f.unicode then ofSet (.ofChars (caseVariants c))
  else ofSet (.ofChars [c, c.toLower, c.toUpper])

def wordLook (f : Flags) (edge : WordEdge) : Look :=
  .word edge f.unicode

def namedSet (f : Flags) (c : Char) : CharSet :=
  if c = 'd' then (if f.unicode then categorySet ["Nd"] else .range '0' '9')
  else if c = 's' then
    (if f.unicode then Property.whiteSpace else .ofLines ["9-D 20"])
  else if f.unicode then Property.wordChars
  else asciiWordChars

private def dropBlanks : Bool → List Char → List Char
  | _, [] => []
  | true, c :: rest => dropBlanks (c ≠ '\n') rest
  | false, c :: rest =>
    if isBlank c then dropBlanks false rest
    else if c = '#' then dropBlanks true rest
    else c :: rest

private theorem length_dropBlanks_le (inComment : Bool) (cs : List Char) :
    (dropBlanks inComment cs).length ≤ cs.length := by
  induction cs generalizing inComment with
  | nil => cases inComment <;> simp [dropBlanks]
  | cons c rest ih =>
    cases inComment with
    | true => exact Nat.le_succ_of_le (ih _)
    | false =>
      simp only [dropBlanks]
      split
      · exact Nat.le_succ_of_le (ih _)
      · split
        · exact Nat.le_succ_of_le (ih _)
        · exact Nat.le_refl _

def skip (f : Flags) (cs : List Char) : List Char :=
  if f.verbose then dropBlanks false cs else cs

theorem length_skip_le (f : Flags) (cs : List Char) : (f.skip cs).length ≤ cs.length := by
  unfold skip
  split
  · exact length_dropBlanks_le false cs
  · exact Nat.le_refl _

def span (f : Flags) (p : Char → Bool) : List Char → List Char × List Char
  | [] => ([], [])
  | c :: rest =>
    if p c then
      let (more, rest) := f.span p (f.skip rest)
      (c :: more, rest)
    else ([], c :: rest)
termination_by cs => cs.length
decreasing_by exact Nat.lt_succ_of_le (f.length_skip_le rest)

def take? (f : Flags) : Nat → List Char → Option (List Char × List Char)
  | 0, cs => some ([], cs)
  | _ + 1, [] => none
  | n + 1, c :: rest => (f.take? n (f.skip rest)).map fun (more, rest) => (c :: more, rest)

/-- The next character that counts, for one who looks ahead over blanks. Of the first comment only
its sign is passed over, and its words count. -/
def peek (f : Flags) (cs : List Char) : Option Char :=
  if f.verbose then
    match cs.dropWhile isBlank with
    | '#' :: rest => (rest.dropWhile isBlank).head?
    | rest => rest.head?
  else cs.head?

end Flags

end RestRecords.Pattern
