import RestRecords.Pattern.Flags
import RestRecords.Pattern.Property
import RestRecords.Text.Numeral
/-!
# Escapes

The escapes of a written pattern: characters by their codes or names, sets of characters, and
assertions about a place.
-/

namespace RestRecords.Pattern

open Text

/-- What an escape or a character stands for. A character may be written as one byte. -/
inductive Atom where
  | literal (c : Char) (isByte : Bool)
  | set (s : CharSet)
  | look (l : Look)

private def codePoint? (digits : List Char) : Option Char := do
  let values ← digits.mapM hexValue?
  let n := values.foldl (fun n d => min (16 * n + d) 0x110000) 0
  if digits.isEmpty ∨ 0x10FFFF < n ∨ (0xD800 ≤ n ∧ n ≤ 0xDFFF) then none
  return Char.ofNat n

/-- A code of `width` hexadecimal digits, or of any number of them in braces. -/
private def hexEscape? (f : Flags) (width : Nat) (cs : List Char) : Option (Atom × List Char) :=
  match f.skip cs with
  | '\x7b' :: rest =>
    match f.span (· ≠ '\x7d') (f.skip rest) with
    | (digits, _ :: rest) => (codePoint? digits).map fun c => (.literal c false, rest)
    | (_, []) => none
  | cs => do
    let (digits, rest) ← f.take? width cs
    let c ← codePoint? digits
    return (.literal c (width == 2), rest)

private def propertyEscape? (f : Flags) (negated : Bool) (cs : List Char) :
    Option (Atom × List Char) := do
  let (s, rest) ← match f.skip cs with
    | '\x7b' :: rest =>
      match f.span (· ≠ '\x7d') (f.skip rest) with
      | (name, _ :: rest) => (Property.set? name).map (·, rest)
      | (_, []) => none
    | c :: rest => (Property.named? [c]).map (·, rest)
    | [] => none
  if !f.unicode then none
  let s ← f.settle? negated s
  return (.set s, rest)

private def namedEdge? (name : List Char) : Option WordEdge :=
  match String.ofList name with
  | "start" => some .start
  | "end" => some .stop
  | "start-half" => some .startHalf
  | "end-half" => some .stopHalf
  | _ => none

/-- What follows the escape of a word boundary: perhaps the name of a kind of edge in braces. -/
private def wordEdge? (f : Flags) (cs : List Char) : Option (Atom × List Char) :=
  let isNameChar (c : Char) := c.isAlpha || c == '-'
  match cs with
  | '\x7b' :: inner =>
    match f.span isNameChar (f.skip inner) with
    | ([], []) => none
    | ([], _) => some (.look (f.wordLook .boundary), cs)
    | (name, '\x7d' :: rest) => (namedEdge? name).map fun edge => (.look (f.wordLook edge), rest)
    | _ => none
  | _ => some (.look (f.wordLook .boundary), cs)

def readEscape? (f : Flags) : List Char → Option (Atom × List Char)
  | [] => none
  | c :: rest =>
    match c with
    | 'x' => hexEscape? f 2 rest
    | 'u' => hexEscape? f 4 rest
    | 'U' => hexEscape? f 8 rest
    | 'p' => propertyEscape? f false rest
    | 'P' => propertyEscape? f true rest
    | 'd' | 's' | 'w' => some (.set (f.namedSet c), rest)
    | 'D' | 'S' | 'W' =>
      if f.unicode then some (.set (f.namedSet c.toLower).complement, rest) else none
    | 'a' => some (.literal '\x07' false, rest)
    | 'f' => some (.literal '\x0c' false, rest)
    | 't' => some (.literal '\t' false, rest)
    | 'n' => some (.literal '\n' false, rest)
    | 'r' => some (.literal '\r' false, rest)
    | 'v' => some (.literal '\x0b' false, rest)
    | 'A' => some (.look .textStart, rest)
    | 'z' => some (.look .textEnd, rest)
    | 'b' => wordEdge? f rest
    | 'B' => some (.look (f.wordLook .inside), rest)
    | '<' => some (.look (f.wordLook .start), rest)
    | '>' => some (.look (f.wordLook .stop), rest)
    | c =>
      if Flags.isAscii c && !c.isAlphanum then some (.literal c false, rest) else none

end RestRecords.Pattern
