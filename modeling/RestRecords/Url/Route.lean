import RestRecords.Text.Split
import RestRecords.Url.Percent
/-!
# Paths of URLs

The segments between the slashes of a path. A segment of one dot stands for the path so far, one of
two dots for the path without its last segment.
-/

namespace RestRecords.Url

open Text

/-- The path of a URL: segments, or a text that is not divided. -/
inductive Route where
  | undivided (text : String)
  | segments (list : List String)
  deriving DecidableEq, Repr

namespace Route

def text : Route → List Char
  | .undivided text => text.toList
  | .segments list => list.flatMap fun s => '/' :: s.toList

private def plainDots : List Char → List Char
  | '%' :: '2' :: e :: cs =>
    if e == 'e' || e == 'E' then '.' :: plainDots cs else '%' :: '2' :: e :: cs
  | c :: cs => c :: plainDots cs
  | [] => []

def isHere (segment : List Char) : Bool :=
  plainDots segment == ['.']

def isUp (segment : List Char) : Bool :=
  plainDots segment == ['.', '.']

/-- Whether a segment names a drive: a letter and a colon or bar. -/
def isDrive : List Char → Bool
  | [letter, mark] => letter.isAlpha && (mark == ':' || mark == '|')
  | _ => false

/-- Whether two dots do not lead out of a segment: it is a drive, perhaps with a backslash behind
it. -/
def isFixed : List Char → Bool
  | letter :: mark :: rest => isDrive [letter, mark] && (rest.isEmpty || rest.head? == some '\\')
  | _ => false

/-- The segments of a path, last first, and whether it has come to a drive at its start. -/
structure Walk where
  segments : List (List Char) := []
  atDrive : Bool := false

namespace Walk

def up (w : Walk) : Walk :=
  match w.segments with
  | segment :: rest => if isFixed segment then w else { w with segments := rest }
  | [] => w

def push (w : Walk) (segment : List Char) : Walk :=
  { w with segments := segment :: w.segments }

/-- The path with a further segment. A drive at the start of the path of a file is written with a
colon. -/
def enter (file : Bool) (w : Walk) (segment : List Char) : Walk :=
  if isUp segment then w.up
  else if isHere segment then w
  else if file && w.segments.isEmpty && isDrive segment then ⟨[segment.take 1 ++ [':']], true⟩
  else w.push (percentEncode encodesPath segment)

/-- Follows the segments from a path on. A final segment of dots leaves an empty one. -/
def follow (file : Bool) (w : Walk) : List (List Char) → Walk
  | [] => w
  | segment :: rest =>
    let next := w.enter file segment
    if rest.isEmpty && (isUp segment || isHere segment) then next.push []
    else follow file next rest

end Walk

def dropEmpty : List (List Char) → List (List Char)
  | [] :: segment :: rest => dropEmpty (segment :: rest)
  | list => list

/-- The path that a text after its first slash gives, and whether a drive was found at its start.
The path of a file begins with one slash only. -/
def ofText (isSlash : Char → Bool) (file : Bool) (cs : List Char) : Route × Bool :=
  let walk := Walk.follow file {} (splitWhere isSlash cs)
  let list := walk.segments.reverse
  (.segments ((if file then dropEmpty list else list).map String.ofList), walk.atDrive)

end Route

end RestRecords.Url
