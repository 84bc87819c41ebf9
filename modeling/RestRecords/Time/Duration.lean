/-!
# Durations

Lengths of time in nanoseconds. A duration holds at most `2 ^ 64 - 1` seconds and `999999999`
nanoseconds, and products stop there.
-/

namespace RestRecords

/-- A length of time in nanoseconds. -/
@[ext] structure Duration where
  nanos : Nat
  deriving DecidableEq, Repr

namespace Duration

def max : Duration := ⟨(UInt64.size - 1) * 1000000000 + 999999999⟩

def zero : Duration := ⟨0⟩

def ofSeconds (n : Nat) : Duration := ⟨n * 1000000000⟩

def ofMillis (n : Nat) : Duration := ⟨n * 1000000⟩

def seconds (d : Duration) : Nat := d.nanos / 1000000000

def subsecond (d : Duration) : Nat := d.nanos % 1000000000

def millis (d : Duration) : Nat := d.nanos / 1000000

/-- The whole milliseconds as an unsigned 64-bit word. -/
def wordMillis (d : Duration) : Nat := d.millis % UInt64.size

/-- The product with a number, at most `max`. -/
def times (d : Duration) (k : Nat) : Duration := ⟨Min.min (d.nanos * k) max.nanos⟩

def least (d e : Duration) : Duration := if d.nanos ≤ e.nanos then d else e

def plus (d e : Duration) : Duration := ⟨d.nanos + e.nanos⟩

/-- The difference, or zero if there is none. -/
def minus (d e : Duration) : Duration := ⟨d.nanos - e.nanos⟩

instance : LT Duration := ⟨fun d e => d.nanos < e.nanos⟩

instance : LE Duration := ⟨fun d e => d.nanos ≤ e.nanos⟩

instance (d e : Duration) : Decidable (d < e) :=
  inferInstanceAs (Decidable (d.nanos < e.nanos))

instance (d e : Duration) : Decidable (d ≤ e) :=
  inferInstanceAs (Decidable (d.nanos ≤ e.nanos))

end Duration

end RestRecords
