/-!
# Punycode

The ASCII form of a label with other characters. The ASCII characters come first; the others follow
in the order of their code points, each as the number of steps since the one before, in digits of
base 36 whose weights adapt to the steps seen so far.
-/

namespace RestRecords.Url.Punycode

def digit (n : Nat) : Char :=
  if n < 26 then Char.ofNat ('a'.toNat + n) else Char.ofNat ('0'.toNat + (n - 26))

/-- The least digit value at which a number goes on after the position `k`. -/
def threshold (bias k : Nat) : Nat :=
  max 1 (min 26 (k - bias))

def digits (bias k n : Nat) : List Char :=
  let t := threshold bias k
  if n < t then [digit n]
  else digit (t + (n - t) % (36 - t)) :: digits bias (k + 36) ((n - t) / (36 - t))
termination_by n
decreasing_by
  have : 1 ≤ threshold bias k := Nat.le_max_left ..
  have := Nat.div_le_self (n - threshold bias k) (36 - threshold bias k)
  omega

private def scale (n k : Nat) : Nat :=
  if 455 < n then scale (n / 35) (k + 36) else k + 36 * n / (n + 38)
termination_by n

def adapt (first : Bool) (steps count : Nat) : Nat :=
  let n := if first then steps / 700 else steps / 2
  scale (n + n / count) 0

/-- What is written so far, and the state that the next number depends on. -/
structure Progress where
  out : List Char
  steps : Nat
  bias : Nat
  count : Nat

/-- Passes over one character of the label while the code point `n` is due. -/
def pass (basic n : Nat) (s : Progress) (c : Char) : Progress :=
  if c.toNat < n then { s with steps := s.steps + 1 }
  else if c.toNat = n then
    { out := s.out ++ digits s.bias 36 s.steps
      steps := 0
      bias := adapt (s.count == basic) s.steps (s.count + 1)
      count := s.count + 1 }
  else s

/-- Writes all characters of the code points that are due, in order, from `least` on. -/
def passAll (label : List Char) (basic : Nat) : Nat → List Nat → Progress → Progress
  | _, [], s => s
  | least, n :: rest, s =>
    let s := { s with steps := s.steps + (n - least) * (s.count + 1) }
    let s := label.foldl (pass basic n) s
    passAll label basic (n + 1) rest { s with steps := s.steps + 1 }

def encode (label : List Char) : List Char :=
  let basic := label.filter (·.toNat < 128)
  let others := ((label.map Char.toNat).filter (128 ≤ ·)).eraseDups.mergeSort
  let start := if basic.isEmpty then [] else basic ++ ['-']
  (passAll label basic.length 128 others ⟨start, 0, 72, basic.length⟩).out

def digitValue? (c : Char) : Option Nat :=
  if c.isLower then some (c.toNat - 'a'.toNat)
  else if c.isUpper then some (c.toNat - 'A'.toNat)
  else if c.isDigit then some (c.toNat - '0'.toNat + 26)
  else none

/-- The number in digits of growing weight that a text begins with, added to `n`, and the text
behind it. Numbers have 32 bits. -/
def number? (bias : Nat) : Nat → Nat → Nat → List Char → Option (Nat × List Char)
  | _, _, _, [] => none
  | k, weight, n, c :: rest => do
    let d ← digitValue? c
    let n := n + d * weight
    let t := threshold bias k
    if UInt32.size ≤ n then none
    if d < t then return (n, rest)
    let weight := weight * (36 - t)
    if UInt32.size ≤ weight then none
    number? bias (k + 36) weight n rest

def codePoint? (n : Nat) : Option Char :=
  if n < 0xD800 ∨ (0xE000 ≤ n ∧ n < 0x110000) then some (Char.ofNat n) else none

/-- Reads the numbers of a text, each of which puts a character into the label: `n` is the code
point of the last one and `i` the place behind it. Every number takes up a character, so that the
length of the text bounds their count. -/
def insertAll? : Nat → Nat → Nat → Nat → List Char → List Char → Option (List Char)
  | _, _, _, _, label, [] => some label
  | 0, _, _, _, _, _ :: _ => none
  | count + 1, n, i, bias, label, text => do
    let (steps, rest) ← number? bias 36 1 i text
    let length := label.length + 1
    let n := n + steps / length
    let place := steps % length
    let c ← codePoint? n
    insertAll? count n (place + 1) (adapt (i == 0) (steps - i) length)
      (label.take place ++ c :: label.drop place) rest

/-- The label with an ASCII form, which is given without the mark that announces it. -/
def decode? (cs : List Char) : Option (List Char) :=
  let digits := (cs.reverse.takeWhile (· ≠ '-')).reverse
  match cs.take (cs.length - digits.length) with
  | [] => insertAll? digits.length 128 0 72 [] digits
  | ['-'] => none
  | start => insertAll? digits.length 128 0 72 start.dropLast digits

end RestRecords.Url.Punycode
