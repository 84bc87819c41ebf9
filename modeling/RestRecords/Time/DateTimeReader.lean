import RestRecords.Text.Blank
import RestRecords.Time.DateTime
/-!
# Reading date-times

Three forms are read, in this order: a full date-time with an offset, in which every field has its
fixed width; a date and a time of day in universal time; and a date, meaning its midnight. The
fields of the last two may lack padding and have blanks before them.
-/

namespace RestRecords.DateTime

open Text

/-- The first and the last year of the calendar. -/
def minYear : Int := -262143

@[inherit_doc minYear]
def maxYear : Int := 262142

def number? (min max : Nat) (cs : List Char) : Option (Nat × List Char) :=
  let digits := (cs.take max).takeWhile isDigit
  if digits.length < min then none else some (digitsValue digits, cs.drop digits.length)

def after? (c : Char) : List Char → Option (List Char)
  | [] => none
  | d :: rest => if d = c then some rest else none

/-- The date-time with the fields that are written, if they are all in range. -/
def checked? (date : CalendarDate) (hour minute second nanos : Nat) (offset : Int) :
    Option DateTime :=
  if date.isValid && minYear ≤ date.year && date.year ≤ maxYear && hour ≤ 23 && minute ≤ 59 &&
      second ≤ 60 then
    if second = 60 then some ⟨date, hour, minute, 59, secondNanos + nanos, offset⟩
    else some ⟨date, hour, minute, second, nanos, offset⟩
  else none

/-- A fraction after its point: nine digits count, and further ones are skipped. -/
def fraction? (cs : List Char) : Option (Nat × List Char) :=
  let (digits, rest) := spanDigits cs
  if digits.isEmpty then none
  else
    let kept := digits.take 9
    some (digitsValue kept * Nat.pow 10 (9 - kept.length), rest)

def nanos? : List Char → Option (Nat × List Char)
  | '.' :: rest => fraction? rest
  | cs => some (0, cs)

/-- Whether a character is a sign, and then whether it is a minus. -/
def isMinus? (sign : Char) : Option Bool :=
  if sign = '+' then some false
  else if sign = '-' ∨ sign = '\u2212' then some true
  else none

def offsetMinutes? (cs : List Char) : Option (Nat × List Char) := do
  let (hours, cs) ← number? 2 2 cs
  let cs ← after? ':' cs
  let (minutes, cs) ← number? 2 2 cs
  if 59 < minutes ∨ 23 < hours then none else some (hours * 60 + minutes, cs)

/-- An offset in seconds: the letter `Z`, or a sign, hours, a colon and minutes. -/
def offset? : List Char → Option (Int × List Char)
  | 'Z' :: rest | 'z' :: rest => some (0, rest)
  | sign :: rest => do
    let negative ← isMinus? sign
    let (minutes, rest) ← offsetMinutes? rest
    return (if negative then -(minutes * 60 : Nat) else (minutes * 60 : Nat), rest)
  | [] => none

def afterTimeMark? : List Char → Option (List Char)
  | 't' :: rest | 'T' :: rest | ' ' :: rest => some rest
  | _ => none

/-- A date-time with fields of fixed width, up to the end of the text. -/
def readFull? (cs : List Char) : Option DateTime := do
  let (year, cs) ← number? 4 4 cs
  let cs ← after? '-' cs
  let (month, cs) ← number? 2 2 cs
  let cs ← after? '-' cs
  let (day, cs) ← number? 2 2 cs
  let cs ← afterTimeMark? cs
  let (hour, cs) ← number? 2 2 cs
  let cs ← after? ':' cs
  let (minute, cs) ← number? 2 2 cs
  let cs ← after? ':' cs
  let (second, cs) ← number? 2 2 cs
  let (nanos, cs) ← nanos? cs
  let (offset, cs) ← offset? cs
  if cs.isEmpty then checked? ⟨year, month, day⟩ hour minute second nanos offset else none

def looseNumber? (cs : List Char) : Option (Nat × List Char) :=
  number? 1 2 (cs.dropWhile isBlank)

/-- A year after blanks: up to four digits, or a sign and any number of digits. -/
def looseYear? (cs : List Char) : Option (Int × List Char) :=
  match cs.dropWhile isBlank with
  | '-' :: rest => (number? 1 rest.length rest).map fun (n, r) => (-(n : Int), r)
  | '+' :: rest => (number? 1 rest.length rest).map fun (n, r) => ((n : Int), r)
  | rest => (number? 1 4 rest).map fun (n, r) => ((n : Int), r)

def looseDate? (cs : List Char) : Option (CalendarDate × List Char) := do
  let (year, cs) ← looseYear? cs
  let cs ← after? '-' cs
  let (month, cs) ← looseNumber? cs
  let cs ← after? '-' cs
  let (day, cs) ← looseNumber? cs
  return (⟨year, month, day⟩, cs)

def readUniversal? (cs : List Char) : Option DateTime := do
  let (date, cs) ← looseDate? cs
  let (hour, cs) ← looseNumber? cs
  let cs ← after? ':' cs
  let (minute, cs) ← looseNumber? cs
  let cs ← after? ':' cs
  let (second, cs) ← looseNumber? cs
  if cs.isEmpty then checked? date hour minute second 0 0 else none

/-- The midnight of a date in universal time, up to the end of the text. -/
def readDate? (cs : List Char) : Option DateTime := do
  let (date, cs) ← looseDate? cs
  if cs.isEmpty then checked? date 0 0 0 0 0 else none

/-- Reads a date-time in one of its three forms, with blanks around it. -/
def read? (s : String) : Option DateTime :=
  let cs := trim s.toList
  ((readFull? cs).or (readUniversal? cs)).or (readDate? cs)

end RestRecords.DateTime
