import RestRecords.Event
/-!
# Pacing

A minimum distance in time between the calls of one client, and an optional pause after each call.
Instants are durations from the start of the run.
-/

namespace RestRecords

/-- The distance kept between calls, whether each call is followed by a pause, and the instant of
the last call. -/
structure Pacer where
  interval : Duration
  pauses : Bool
  last : Option Duration
  deriving DecidableEq, Repr

namespace Pacer

/-- The least distance, which is also the length of a pause. -/
def leastInterval : Duration := .ofMillis 200

def defaultInterval : Duration := .ofMillis 250

def checkInterval (interval : Duration) : Traced Duration :=
  if interval < leastInterval then do
    Traced.report (.intervalRejected interval leastInterval)
    Traced.fail (.configuration .requestInterval)
  else return interval

def create (interval : Duration) (pauses : Bool) : Traced Pacer := do
  return ⟨← checkInterval interval, pauses, none⟩

def wait (p : Pacer) (now : Duration) : Duration :=
  match p.last with
  | some last => p.interval.minus (now.minus last)
  | none => .zero

def record (p : Pacer) (now : Duration) : Pacer :=
  { p with last := some now }

def pause (p : Pacer) : Duration :=
  if p.pauses then leastInterval else .zero

end Pacer

end RestRecords
