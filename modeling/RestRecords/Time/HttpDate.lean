import RestRecords.Text.Blank
import RestRecords.Text.Numeral
import RestRecords.Time.Calendar
/-!
# Dates of HTTP headers

The three forms of a date in a header, `Sun, 06 Nov 1994 08:49:37 GMT` and the two older ones. The
day of the week must be the right one.
-/

namespace RestRecords.HttpDate

open Text

private def monthNames : List String :=
  ["Jan", "Feb", "Mar", "Apr", "May", "Jun", "Jul", "Aug", "Sep", "Oct", "Nov", "Dec"]

private def shortDays : List String :=
  ["Mon", "Tue", "Wed", "Thu", "Fri", "Sat", "Sun"]

private def longDays : List String :=
  ["Monday", "Tuesday", "Wednesday", "Thursday", "Friday", "Saturday", "Sunday"]

private def place? (names : List String) (cs : List Char) : Option Nat :=
  (names.findIdx? fun name => name.toList == cs).map (· + 1)

def field? (cs : List Char) : Option Nat :=
  readDigits? cs

/-- The seconds from 1 January 1970 to a date, if its fields are in range and agree. -/
def seconds? (weekday day month year hour minute second : Nat) : Option Nat :=
  let date : CalendarDate := ⟨year, month, day⟩
  if date.isValid && 1970 ≤ year && date.weekday == weekday && hour < 24 && minute < 60 &&
      second < 60 then
    some (((date.dayNumber.toNat * 24 + hour) * 60 + minute) * 60 + second)
  else none

private def clock? : List Char → Option (Nat × Nat × Nat)
  | [a, b, ':', c, d, ':', e, f] => do
    return (← field? [a, b], ← field? [c, d], ← field? [e, f])
  | _ => none

/-- The form `Sun, 06 Nov 1994 08:49:37 GMT`. -/
def fixed? : List Char → Option Nat
  | w₁ :: w₂ :: w₃ :: ',' :: ' ' :: d₁ :: d₂ :: ' ' :: m₁ :: m₂ :: m₃ :: ' ' ::
      y₁ :: y₂ :: y₃ :: y₄ :: ' ' :: rest => do
    let weekday ← place? shortDays [w₁, w₂, w₃]
    let month ← place? monthNames [m₁, m₂, m₃]
    let (hour, minute, second) ← clock? (rest.take 8)
    if rest.drop 8 ≠ [' ', 'G', 'M', 'T'] then none
    seconds? weekday (← field? [d₁, d₂]) month (← field? [y₁, y₂, y₃, y₄]) hour minute second
  | _ => none

/-- The form `Sunday, 06-Nov-94 08:49:37 GMT`, whose years run from 1970 to 2069. -/
def twoDigitYear? (cs : List Char) : Option Nat := do
  let name := cs.takeWhile (· ≠ ',')
  let weekday ← place? longDays name
  match cs.drop name.length with
  | ',' :: ' ' :: d₁ :: d₂ :: '-' :: m₁ :: m₂ :: m₃ :: '-' :: y₁ :: y₂ :: _ :: rest =>
    let month ← place? monthNames [m₁, m₂, m₃]
    let short ← field? [y₁, y₂]
    let (hour, minute, second) ← clock? (rest.take 8)
    if rest.drop 8 ≠ [' ', 'G', 'M', 'T'] then none
    seconds? weekday (← field? [d₁, d₂]) month (if short < 70 then 2000 + short else 1900 + short)
      hour minute second
  | _ => none

/-- The form `Sun Nov  6 08:49:37 1994`. -/
def yearLast? : List Char → Option Nat
  | w₁ :: w₂ :: w₃ :: ' ' :: m₁ :: m₂ :: m₃ :: ' ' :: d₁ :: d₂ :: ' ' :: rest => do
    let weekday ← place? shortDays [w₁, w₂, w₃]
    let month ← place? monthNames [m₁, m₂, m₃]
    let (hour, minute, second) ← clock? (rest.take 8)
    let day ← field? (if d₁ = ' ' then [d₂] else [d₁, d₂])
    match rest.drop 8 with
    | [' ', y₁, y₂, y₃, y₄] =>
      seconds? weekday day month (← field? [y₁, y₂, y₃, y₄]) hour minute second
    | _ => none
  | _ => none

def read? (s : String) : Option Nat :=
  let cs := trim s.toList
  ((fixed? cs).or (twoDigitYear? cs)).or (yearLast? cs)

end RestRecords.HttpDate
