import RestRecords.Event
/-!
# Retry policies

How often a request is sent at most, and how long to wait after each failure: the same time, or one
that doubles with every failure. The base is a whole number of seconds.
-/

namespace RestRecords

/-- A retry policy. The budget counts the calls of a request, the first one included. -/
structure RetryPolicy where
  budget : Nat
  base : Duration
  exponential : Bool
  deriving DecidableEq, Repr

namespace RetryPolicy

/-- Three calls, one second, doubling. -/
def default : RetryPolicy := ⟨3, .ofSeconds 1, true⟩

def withBudget (p : RetryPolicy) (calls : Nat) : Traced RetryPolicy :=
  if calls < 1 then do
    Traced.report (.retryBudgetRejected calls)
    Traced.fail (.configuration .retryBudget)
  else return { p with budget := calls }

/-- Another base, of at least one second; fractions of a second are dropped. -/
def withBase (p : RetryPolicy) (base : Duration) : Traced RetryPolicy :=
  if base.seconds < 1 then do
    Traced.report (.retryDelayRejected base)
    Traced.fail (.configuration .retryDelay)
  else return { p with base := .ofSeconds base.seconds }

def withExponential (p : RetryPolicy) (exponential : Bool) : RetryPolicy :=
  { p with exponential }

def ofParts (calls : Nat) (base : Duration) (exponential : Bool) : Traced RetryPolicy := do
  let p ← default.withBudget calls
  let p ← p.withBase base
  return p.withExponential exponential

/-- Two to the power of the failures before the last one, at most `2 ^ 32 - 1`. -/
def multiplier (failures : Nat) : Nat :=
  if failures - 1 < 32 then Nat.pow 2 (failures - 1) else UInt32.size - 1

def delay (p : RetryPolicy) (failures : Nat) : Duration :=
  if p.exponential then p.base.times (multiplier failures) else p.base

theorem multiplier_eq_min (failures : Nat) :
    multiplier failures = min (Nat.pow 2 (failures - 1)) (UInt32.size - 1) := by
  unfold multiplier
  have hsize : UInt32.size = Nat.pow 2 32 := rfl
  split
  · rename_i h
    have : Nat.pow 2 (failures - 1) ≤ Nat.pow 2 31 :=
      Nat.pow_le_pow_right (by decide) (by omega)
    have : Nat.pow 2 31 < UInt32.size := by decide
    omega
  · rename_i h
    have : Nat.pow 2 32 ≤ Nat.pow 2 (failures - 1) :=
      Nat.pow_le_pow_right (by decide) (by omega)
    omega

end RetryPolicy

end RestRecords
