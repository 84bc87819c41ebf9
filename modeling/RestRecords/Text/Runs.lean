import RestRecords.Text.CharSet
/-!
# Runs of characters

A property that has a value for every character, as the runs of characters with one value. A table
of runs begins at the first character and gives for each run the name of its value and, where it is
longer than one character, its length.
-/

namespace RestRecords.Text

/-- The runs of a property: the first code point of each and the name of its value. -/
structure Runs where
  starts : Array (Nat × String)

namespace Runs

/-- What is read of a table: the runs, last first, where the next one begins, and the name, last
character first, and the length of the run that has been begun. -/
private structure RunReader where
  done : List (Nat × String)
  next : Nat
  name : List Char
  length : Nat

private def RunReader.close (r : RunReader) : RunReader :=
  if r.name.isEmpty then r
  else ⟨(r.next, String.ofList r.name.reverse) :: r.done, r.next + max 1 r.length, [], 0⟩

private def RunReader.step (r : RunReader) (c : Char) : RunReader :=
  if c.isUpper then { r.close with name := [c] }
  else if isDigit c then { r with length := 10 * r.length + digitValue c }
  else { r with name := c :: r.name }

def ofLines (lines : List String) : Runs :=
  let read := lines.foldl (fun (r : RunReader) line => line.foldl RunReader.step r) ⟨[], 0, [], 0⟩
  ⟨read.close.done.reverse.toArray⟩

/-- The position of the last run that begins at or before a code point, if it is at least `low` and
less than `high`. -/
private def position (starts : Array (Nat × String)) (n low high : Nat) : Nat :=
  if low + 1 < high then
    let middle := (low + high) / 2
    match starts[middle]? with
    | none => low
    | some (first, _) =>
      if n < first then position starts n low middle else position starts n middle high
  else low
termination_by high - low

def value (r : Runs) (c : Char) : String :=
  (r.starts[position r.starts c.toNat 0 r.starts.size]?).elim "" Prod.snd

private def rangesWhere (p : String → Bool) : List (Nat × String) → List (Nat × Nat)
  | [] => []
  | [(first, name)] => if p name then [(first, CharSet.maxCode)] else []
  | (first, name) :: (next, nextName) :: rest =>
    if p name then (first, next - 1) :: rangesWhere p ((next, nextName) :: rest)
    else rangesWhere p ((next, nextName) :: rest)

def setWhere (r : Runs) (p : String → Bool) : CharSet :=
  .ofRanges (rangesWhere p r.starts.toList)

end Runs

end RestRecords.Text
