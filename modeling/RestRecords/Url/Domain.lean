import RestRecords.Text.CaseFold
import RestRecords.Text.Direction
import RestRecords.Text.Joining
import RestRecords.Text.Normal
import RestRecords.Text.Split
import RestRecords.Url.Percent
import RestRecords.Url.Punycode
/-!
# Domain names

The ASCII form of a domain name. Its characters are taken in small letters and in their compatible
forms, and a label with others than ASCII characters is written in Punycode behind a mark. A label
must not begin with a mark or have joiners where nothing joins, and the labels of a name with
letters that are written to the left must each have one direction.
-/

namespace RestRecords.Url

open Text

def isForbidden (c : Char) : Bool :=
  ['\x00', '\t', '\n', '\r', ' ', '#', '/', ':', '<', '>', '?', '@', '[', '\\', ']', '^',
    '|'].contains c

def isForbiddenInDomain (c : Char) : Bool :=
  isForbidden c || c.toNat < 0x20 || c == '%' || c == '\x7f'

namespace Domain

private def kept : CharSet := .ofLines ["DF 3C2 200C-200D"]

private def leftOut : CharSet := .ofLines [
  "AD 34F 115F-1160 17B4-17B5 180B-180F 200B 2060-2064 206A-206F 3164 FE00-FE0F FEFF FFA0",
  "1BCA0-1BCA3 1D173-1D17A E0100-E01EF"]

private def refused : CharSet :=
  categorySet ["Cn", "Co"] ∪ .ofLines [
    "80-9F 600-605 61C 6DD 70F 890-891 8E2 1680 200E-200F 2024-2026 2028-202E 2066-2069 2488-249B",
    "2FF0-2FFF 31EF 33C2 33C7 33D8 FE12 FE19 FE30 FE52 FFF9-FFFD 110BD 110CD 13430-1343F 1F100",
    "E0001 E0020-E007F"]

def lowered (c : Char) : List Char :=
  ((compatibleParts c).map foldCase).flatMap fun d =>
    ((compatibleParts d).map foldCase).map fun e => if e = '\u3002' then '.' else e

def mapChar? (c : Char) : Option (List Char) :=
  if c.toNat < 0x80 then some [c.toLower]
  else if c ∈ kept then some [c]
  else if c ∈ leftOut then some []
  else if c ∈ refused then none
  else some (lowered c)

def mapped? (cs : List Char) : Option (List Char) :=
  (cs.mapM mapChar?).map fun parts => recomposed parts.flatten

def announcement : List Char := ['x', 'n', '-', '-']

def isAscii (label : List Char) : Bool :=
  label.all (·.toNat < 0x80)

/-- The label that is meant by one that may be in Punycode. What Punycode stands for must be what it
would be in a domain name. -/
def meant? (label : List Char) : Option (List Char) :=
  if label.take 4 ≠ announcement then some label
  else if !isAscii label || label.getLast? == some '-' || 2004 < label.length then none
  else (Punycode.decode? (label.drop 4)).bind fun decoded =>
    if mapped? decoded = some decoded then some decoded else none

def nextJoins (joins : Char → Bool) : List Char → Bool
  | [] => false
  | c :: rest => joins c || (isPassedOver c && nextJoins joins rest)

/-- Whether every joiner has its place: behind a sign that joins consonants, or, if it keeps letters
apart, between two that would join. The first argument is the label before, last character first. -/
def areJoinersPlaced (before : List Char) : List Char → Bool
  | [] => true
  | c :: rest =>
    let isPlaced :=
      (c != '\u200c' && c != '\u200d') || before.head?.any (combiningClass · == 9) ||
        (c == '\u200c' && nextJoins joinsForward before && nextJoins joinsBackward rest)
    isPlaced && areJoinersPlaced (c :: before) rest

def isLeftward (label : List Char) : Bool :=
  label.any fun c => direction c == .leftward || direction c == .arabicNumber

/-- Whether the characters of a label that is written to the right go that way, the first one
apart. -/
private def goesRight (rest : List Char) : Bool :=
  let isOut (c : Char) := [Direction.leftward, .arabicNumber].contains (direction c)
  match rest.reverse.dropWhile fun c => direction c == .mark with
  | [] => true
  | last :: inner =>
    [Direction.rightward, .europeanNumber].contains (direction last) && !inner.any isOut

/-- Whether the characters of a label that is written to the left go that way, the first one apart.
It has numbers of one kind only. -/
private def goesLeft (rest : List Char) : Bool :=
  match rest.reverse.dropWhile fun c => direction c == .mark with
  | [] => true
  | last :: inner =>
    let has (d : Direction) := (last :: inner).any fun c => direction c == d
    [Direction.leftward, .europeanNumber, .arabicNumber].contains (direction last) &&
      !has .rightward && !(has .europeanNumber && has .arabicNumber)

def hasOneDirection : List Char → Bool
  | [] => true
  | first :: rest =>
    match direction first with
    | .rightward => goesRight rest
    | .leftward => goesLeft rest
    | _ => false

def isWellFormed (label : List Char) : Bool :=
  isAscii label ||
    (!label.head?.any (inCategories ["M"]) && areJoinersPlaced [] label && label.length ≤ 1000)

def asciiLabel (label : List Char) : List Char :=
  if isAscii label then label else announcement ++ Punycode.encode label

def ascii? (cs : List Char) : Option (List Char) := do
  let mapped ← mapped? (← decodedText? cs)
  if mapped.any isForbiddenInDomain then none
  let labels ← (splitWhere (· == '.') mapped).mapM meant?
  if !labels.all isWellFormed then none
  if labels.any isLeftward && !labels.all hasOneDirection then none
  return ['.'].intercalate (labels.map asciiLabel)

end Domain

end RestRecords.Url
