import RestRecords.Pattern.Places
import RestRecords.Text.Property.Derived
/-!
# Patterns

Regular expressions over characters, with assertions about the place between two characters, and
whether a text has a part that matches one.
-/

namespace RestRecords

open Text

def asciiWordChars : CharSet := .ofLines ["30-39 41-5A 5F 61-7A"]

/-- How the characters around a place must differ in being part of a word. -/
inductive WordEdge where
  | boundary
  | inside
  | start
  | stop
  | startHalf
  | stopHalf
  deriving DecidableEq, Repr

inductive Look where
  | textStart
  | textEnd
  | lineStart (crlf : Bool)
  | lineEnd (crlf : Bool)
  | word (edge : WordEdge) (unicode : Bool)
  deriving DecidableEq, Repr

def Look.holds (previous next : Option Char) : Look → Bool
  | .textStart => previous.isNone
  | .textEnd => next.isNone
  | .lineStart false => previous.isNone || previous == some '\n'
  | .lineStart true =>
    previous.isNone || previous == some '\n' || (previous == some '\r' && next != some '\n')
  | .lineEnd false => next.isNone || next == some '\n'
  | .lineEnd true =>
    next.isNone || next == some '\r' || (next == some '\n' && previous != some '\r')
  | .word edge unicode =>
    let isWord := if unicode then Property.wordChars.contains else asciiWordChars.contains
    let before := previous.any isWord
    let after := next.any isWord
    match edge with
    | .boundary => before != after
    | .inside => before == after
    | .start => !before && after
    | .stop => before && !after
    | .startHalf => !before
    | .stopHalf => !after

/-- A regular expression. A repetition has a least and a greatest number of times and may prefer
few; that and the numbers of the groups make no difference to what is matched. -/
inductive Pattern where
  | empty
  | literal (cs : List Char)
  | set (s : CharSet)
  | look (l : Look)
  | group (index : Nat) (p : Pattern)
  | repeat (p : Pattern) (least : Nat) (most : Option Nat) (few : Bool)
  | seq (ps : List Pattern)
  | alt (ps : List Pattern)

namespace Pattern

/-- The sets of the places behind a character that satisfies `p` and follows one of given places. -/
private def advance (text : List Char) (p : Char → Bool) (xs : List Places) : List Places :=
  let before := Places.ofMarks (text.map p)
  xs.map fun x => (x &&& before) <<< 1

private def lookPlaces (text : List Char) (l : Look) : Places :=
  Places.ofMarks <|
    List.zipWith (fun previous next => l.holds previous next)
      (none :: text.map some) (text.map some ++ [none])

private def eachPlace (text : List Char) : List Places :=
  (List.range (text.length + 1)).map Places.single

mutual

/-- The places where a match of the pattern may end that begins at one of some places, for several
sets of these. -/
def ends (text : List Char) : Pattern → List Places → List Places
  | .empty, xs => xs
  | .literal cs, xs => cs.foldl (fun xs c => advance text (· == c) xs) xs
  | .set s, xs => advance text s.contains xs
  | .look l, xs =>
    let places := lookPlaces text l
    xs.map (· &&& places)
  | .group _ p, xs => ends text p xs
  | .repeat p least most _, xs =>
    let steps : Steps := ends text p (eachPlace text)
    let first := xs.map (steps.power least)
    match most with
    | some most => first.map (steps.within (most - least))
    | none =>
      let any := steps.closure 0
      first.map any.image
  | .seq ps, xs => endsSeq text ps xs
  | .alt ps, xs => endsAlt text ps xs

def endsSeq (text : List Char) : List Pattern → List Places → List Places
  | [], xs => xs
  | p :: ps, xs => endsSeq text ps (ends text p xs)

def endsAlt (text : List Char) : List Pattern → List Places → List Places
  | [], xs => xs.map fun _ => 0
  | p :: ps, xs => List.zipWith (· ||| ·) (ends text p xs) (endsAlt text ps xs)

end

def isIn (p : Pattern) (text : List Char) : Bool :=
  (ends text p [Places.ofMarks (List.replicate (text.length + 1) true)]).any (· != 0)

end Pattern

end RestRecords
