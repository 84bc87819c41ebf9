import RestRecords.Http.Headers
import RestRecords.Text.Blank
import RestRecords.Time.Duration
import RestRecords.Time.HttpDate
/-!
# Rate limit hints

What the headers of a response say about when to come back: a time to wait, the instant at which
the current window ends, and the requests that remain in it.
-/

namespace RestRecords

open Text

/-- The hints of a response. The end of the window is in seconds from 1 January 1970. -/
structure RateLimit where
  retryAfter : Option Duration
  resetAt : Option Nat
  remaining : Option Nat
  deriving DecidableEq, Repr

namespace RateLimit

/-- The last second an instant can be at. -/
def lastInstant : Nat := Nat.pow 2 63 - 1

/-- The time that is left at the instant `now` until a second counted from 1 January 1970: none if
that second began before. At the very instant at which it begins the time left is zero. -/
def left? (now : Duration) (second : Nat) : Option Duration :=
  if now ≤ .ofSeconds second then some ((Duration.ofSeconds second).minus now) else none

/-- A time to wait at the instant `now`: a number of seconds or a date that is not past. -/
def readWait? (now : Duration) (value : String) : Option Duration :=
  match readUnsigned64? (trim value.toList) with
  | some n => some (.ofSeconds n)
  | none => (HttpDate.read? value).bind (left? now)

private def number? (headers : Headers) (name : String) : Option Nat :=
  (headers.lookup? name).bind fun value => readUnsigned64? value.toList

/-- The hints in the headers of a response that came at the instant `now`; nothing if the end of the
window lies beyond the last instant. -/
def ofHeaders? (now : Duration) (headers : Headers) : Option RateLimit :=
  let resetAt := (number? headers "x-ratelimit-reset").or (number? headers "ratelimit-reset")
  if resetAt.any (lastInstant < ·) then none
  else some
    { retryAfter := (headers.lookup? "retry-after").bind (readWait? now)
      resetAt
      remaining := number? headers "x-ratelimit-remaining" }

def isPresent (r : RateLimit) : Bool :=
  r.retryAfter.isSome || r.resetAt.isSome || r.remaining.isSome

/-- The time to wait at the instant `now`, at most `cap`: the one asked for, else the one until the
window ends, if that is not past. -/
def waitHint (r : RateLimit) (now cap : Duration) : Option Duration :=
  (r.retryAfter.or (r.resetAt.bind (left? now))).map (·.least cap)

end RateLimit

end RestRecords
