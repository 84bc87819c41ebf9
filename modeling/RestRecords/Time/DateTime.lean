import RestRecords.Text.Numeral
import RestRecords.Time.Calendar
/-!
# Date-times with an offset

A date-time is kept as it is read on a local clock, with the clock's distance from universal time.
Two of them are the same instant when they agree in universal time. A leap second belongs to the
second before it: its nanoseconds are counted from `10 ^ 9` on.
-/

namespace RestRecords

open Text

/-- A local date and time of day and the offset of the local clock in seconds. -/
structure DateTime where
  date : CalendarDate
  hour : Nat
  minute : Nat
  second : Nat
  nanos : Nat
  offset : Int
  deriving DecidableEq, Repr

namespace DateTime

/-- The nanoseconds of a second, behind which a leap second begins. -/
def secondNanos : Nat := 1000000000

/-- The seconds of universal time from 1 January 1970, leap seconds left aside. -/
def universalSecond (t : DateTime) : Int :=
  ((t.date.dayNumber * 24 + t.hour) * 60 + t.minute) * 60 + t.second - t.offset

def sameInstant (s t : DateTime) : Bool :=
  s.universalSecond == t.universalSecond && s.nanos == t.nanos

/-- The year in four digits, with a sign outside `0` to `9999`. -/
def yearDigits (year : Int) : List Char :=
  if year < 0 then '-' :: paddedDigits 4 year.natAbs
  else if year ≤ 9999 then paddedDigits 4 year.natAbs
  else '+' :: paddedDigits 4 year.natAbs

/-- The fraction of a second in as few of three, six or nine digits as hold it. -/
def fractionDigits (nanos : Nat) : List Char :=
  if nanos = 0 then []
  else if nanos % 1000000 = 0 then '.' :: paddedDigits 3 (nanos / 1000000)
  else if nanos % 1000 = 0 then '.' :: paddedDigits 6 (nanos / 1000)
  else '.' :: paddedDigits 9 nanos

/-- The minutes of an offset, rounded to the nearest one. -/
def offsetMinutes (offset : Int) : Nat :=
  (offset.natAbs + 30) / 60

def offsetDigits (offset : Int) : List Char :=
  (if offset < 0 then '-' else '+') ::
    paddedDigits 2 (offsetMinutes offset / 60) ++ ':' :: paddedDigits 2 (offsetMinutes offset % 60)

/-- The date-time as it is written. A leap second is the second of number `60`. -/
def render (t : DateTime) : List Char :=
  yearDigits t.date.year ++ '-' :: paddedDigits 2 t.date.month ++
    '-' :: paddedDigits 2 t.date.day ++ 'T' :: paddedDigits 2 t.hour ++
    ':' :: paddedDigits 2 t.minute ++
    ':' :: paddedDigits 2 (t.second + t.nanos / secondNanos) ++
    fractionDigits (t.nanos % secondNanos) ++ offsetDigits t.offset

def text (t : DateTime) : String :=
  String.ofList t.render

end DateTime

end RestRecords
