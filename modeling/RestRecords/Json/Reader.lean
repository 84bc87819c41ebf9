import RestRecords.Json.Basic
import RestRecords.Number.Scaled
/-!
# Reading JSON text

A text is one value with blanks around it. Lists and objects may nest `127` deep. An integer in the
range of a signed or unsigned 64-bit word is kept as an integer; every other number is a double,
read through a scaled significand, and a number beyond the doubles is no value.
-/

namespace RestRecords.Json

open Text

def maxDepth : Nat := 127

/-- What a reader makes of the front of a text, and what is left of it. -/
abbrev Reading (α : Type) := Option (α × List Char)

def isSpace (c : Char) : Bool :=
  c == ' ' || c == '\n' || c == '\t' || c == '\r'

def skipSpace (cs : List Char) : List Char :=
  cs.dropWhile isSpace

def codeUnit? (a b c d : Char) : Option Nat := do
  let a ← hexValue? a
  let b ← hexValue? b
  let c ← hexValue? c
  let d ← hexValue? d
  return ((a * 16 + b) * 16 + c) * 16 + d

def simpleEscape? : Char → Option Char
  | '"' => some '"'
  | '\\' => some '\\'
  | '/' => some '/'
  | 'b' => some '\x08'
  | 'f' => some '\x0c'
  | 'n' => some '\n'
  | 'r' => some '\r'
  | 't' => some '\t'
  | _ => none

/-- Reads the rest of a string after its opening quote. A high surrogate must be followed by the
escape of a low one. -/
def readStringBody : List Char → Reading (List Char)
  | '"' :: rest => some ([], rest)
  | '\\' :: 'u' :: a :: b :: c :: d :: rest =>
    match codeUnit? a b c d with
    | none => none
    | some unit =>
      if unit < 0xD800 ∨ 0xDFFF < unit then
        (readStringBody rest).map fun (s, r) => (Char.ofNat unit :: s, r)
      else if 0xDC00 ≤ unit then none
      else
        match rest with
        | '\\' :: 'u' :: a :: b :: c :: d :: rest =>
          match codeUnit? a b c d with
          | none => none
          | some low =>
            if 0xDC00 ≤ low ∧ low ≤ 0xDFFF then
              let code := 0x10000 + (unit - 0xD800) * 0x400 + (low - 0xDC00)
              (readStringBody rest).map fun (s, r) => (Char.ofNat code :: s, r)
            else none
        | _ => none
  | '\\' :: e :: rest =>
    match simpleEscape? e with
    | some c => (readStringBody rest).map fun (s, r) => (c :: s, r)
    | none => none
  | c :: rest =>
    if c.toNat < 0x20 then none else (readStringBody rest).map fun (s, r) => (c :: s, r)
  | [] => none

/-- Takes up digits as long as the significand stays below `2 ^ 64`; the digits from the first that
does not fit on are left. -/
def absorb (significand : Nat) : List Char → Nat × List Char
  | [] => (significand, [])
  | c :: cs =>
    let next := significand * 10 + digitValue c
    if next < UInt64.size then absorb next cs else (significand, c :: cs)

def scaled? (negative : Bool) (significand : Nat) (exponent : Int) : Option Json :=
  (Scaled.read? significand exponent).map fun x => .float (if negative then x.neg else x)

def whole? (negative : Bool) (significand : Nat) (dropped : Nat) : Option Json :=
  if dropped ≠ 0 then scaled? negative significand dropped
  else if !negative then some (.int significand)
  else if significand = 0 ∨ Nat.pow 2 63 < significand then scaled? true significand 0
  else some (.int (-(significand : Int)))

def leadsWithZero : List Char → Bool
  | '0' :: _ :: _ => true
  | _ => false

/-- The number of a significand, with the power of ten that may follow it in the text. -/
def readPower (negative : Bool) (significand : Nat) (exponent : Int) (rest : List Char) :
    Reading Json :=
  match rest with
  | 'e' :: tail | 'E' :: tail =>
    let (down, tail) := readSign tail
    let (power, rest) := spanDigits tail
    if power.isEmpty then none
    else
      let power : Int := digitsValue power
      (scaled? negative significand (exponent + if down then -power else power)).map (·, rest)
  | _ => (scaled? negative significand exponent).map (·, rest)

def readNumber (negative : Bool) (cs : List Char) : Reading Json :=
  let (digits, rest) := spanDigits cs
  if digits.isEmpty || leadsWithZero digits then none
  else
    let (significand, left) := absorb 0 digits
    match rest with
    | '.' :: tail =>
      let (fraction, rest) := spanDigits tail
      if fraction.isEmpty then none
      else
        let (significand, dropped) := absorb significand fraction
        readPower negative significand
          (left.length - (fraction.length - dropped.length : Nat)) rest
    | 'e' :: _ | 'E' :: _ => readPower negative significand left.length rest
    | _ => (whole? negative significand left.length).map (·, rest)

/-- Reads the items of a list after its opening bracket; `n` bounds their number. -/
def readItems (item : List Char → Reading Json) : Nat → List Char → Reading (List Json)
  | 0, _ => none
  | n + 1, cs =>
    match item cs with
    | none => none
    | some (v, rest) =>
      match skipSpace rest with
      | ',' :: rest => (readItems item n rest).map fun (vs, r) => (v :: vs, r)
      | ']' :: rest => some ([v], rest)
      | _ => none

/-- Reads the entries of an object after its opening brace; `n` bounds their number. -/
def readEntries (item : List Char → Reading Json) :
    Nat → List Char → Reading (List (String × Json))
  | 0, _ => none
  | n + 1, cs =>
    match skipSpace cs with
    | '"' :: rest =>
      match readStringBody rest with
      | none => none
      | some (key, rest) =>
        match skipSpace rest with
        | ':' :: rest =>
          match item rest with
          | none => none
          | some (v, rest) =>
            let entry := (String.ofList key, v)
            match skipSpace rest with
            | ',' :: rest => (readEntries item n rest).map fun (es, r) => (entry :: es, r)
            | '\x7d' :: rest => some ([entry], rest)
            | _ => none
        | _ => none
    | _ => none

def readValue : Nat → List Char → Reading Json
  | n, cs =>
    match skipSpace cs with
    | 'n' :: 'u' :: 'l' :: 'l' :: rest => some (.null, rest)
    | 't' :: 'r' :: 'u' :: 'e' :: rest => some (.bool true, rest)
    | 'f' :: 'a' :: 'l' :: 's' :: 'e' :: rest => some (.bool false, rest)
    | '"' :: rest => (readStringBody rest).map fun (s, r) => (.str (String.ofList s), r)
    | '-' :: rest => readNumber true rest
    | '[' :: rest =>
      match n with
      | 0 => none
      | n + 1 =>
        match skipSpace rest with
        | ']' :: rest => some (.arr [], rest)
        | rest => (readItems (readValue n) (rest.length + 1) rest).map fun (vs, r) => (.arr vs, r)
    | '\x7b' :: rest =>
      match n with
      | 0 => none
      | n + 1 =>
        match skipSpace rest with
        | '\x7d' :: rest => some (.obj [], rest)
        | rest =>
          (readEntries (readValue n) (rest.length + 1) rest).map fun (es, r) => (ofEntries es, r)
    | cs => readNumber false cs

def read? (text : String) : Option Json :=
  match readValue maxDepth text.toList with
  | some (v, rest) => if (skipSpace rest).isEmpty then some v else none
  | none => none

end RestRecords.Json
