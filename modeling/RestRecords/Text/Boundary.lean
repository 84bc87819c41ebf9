import RestRecords.Text.Property.Derived
import RestRecords.Text.Script
/-!
# Boundaries in texts

The kinds of characters that decide where a text may be divided into the characters a reader sees,
into words and into sentences. Every character is of at most one kind for each division.
-/

namespace RestRecords.Text

open Property

namespace Grapheme

def leading : CharSet := .ofLines ["1100-115F A960-A97C"]

def vowel : CharSet := .ofLines ["1160-11A7 D7B0-D7C6 16D63 16D67-16D6A"]

def trailing : CharSet := .ofLines ["11A8-11FF D7CB-D7FB"]

def openSyllable : CharSet :=
  .ofRanges ((List.range 399).map fun i => (0xAC00 + 28 * i, 0xAC00 + 28 * i))

def closedSyllable : CharSet :=
  .ofLines ["AC00-D7A3"] \ openSyllable

def mark : CharSet :=
  (graphemeExtend ∪ emojiModifier) \ .ofLines ["200D"]

def prepended : CharSet :=
  prependedConcatenationMark ∪
    .ofLines ["D4E 111C2-111C3 113D1 1193F 11941 11A3A 11A84-11A89 11D46 11F02"]

def control : CharSet :=
  (categorySet ["Cc", "Cf", "Zl", "Zp"] ∪ (categorySet ["Cn"] ∩ defaultIgnorable)) \
    (.ofLines ["A D 200D"] ∪ mark ∪ prepended)

private def separateMarks : CharSet := .ofLines [
  "102B-102C 1038 1062-1064 1067-106D 1083 1087-108C 108F 109A-109C 1A61 1A63-1A64 AA7B AA7D",
  "11720-11721"]

def spacingMark : CharSet :=
  (categorySet ["Mc"] ∪ .ofLines ["E33 EB3"]) \ (mark ∪ separateMarks)

def kind? : String → Option CharSet
  | "cn" | "control" => some control
  | "cr" => some (.ofLines ["D"])
  | "ex" | "extend" => some mark
  | "l" => some leading
  | "lf" => some (.ofLines ["A"])
  | "lv" => some openSyllable
  | "lvt" => some closedSyllable
  | "pp" | "prepend" => some prepended
  | "ri" | "regionalindicator" => some regionalIndicator
  | "sm" | "spacingmark" => some spacingMark
  | "t" => some trailing
  | "v" => some vowel
  | "zwj" => some (.ofLines ["200D"])
  | _ => none

end Grapheme

private def numberFormats : CharSet := .ofLines ["600-605 6DD 890-891 8E2"]

namespace Word

def mark : CharSet :=
  (graphemeExtend ∪ categorySet ["Mc"] ∪ emojiModifier) \ .ofLines ["200D"]

def katakana : CharSet :=
  (scriptSet "Kana" ∪ .ofLines ["3031-3035 309B-309C 30A0 30FC FF70"]) \ mark

def hebrewLetter : CharSet :=
  scriptSet "Hebr" ∩ categorySet ["Lo"]

private def letterSigns : CharSet := .ofLines [
  "2C2-2C5 2D2-2D7 2DE-2DF 2E5-2EB 2ED 2EF-2FF 55A-55C 55E 58A 5F3 A708-A716 A720-A721 A789-A78A",
  "AB5B"]

private def unspacedScripts : CharSet :=
  ["Hira", "Thai", "Laoo", "Mymr", "Khmr", "Tale", "Talu", "Lana", "Tavt", "Ahom"].foldl
    (fun s code => s ∪ scriptSet code) .empty

def letter : CharSet :=
  (alphabetic ∪ letterSigns) \ (ideographic ∪ katakana ∪ hebrewLetter ∪ mark ∪ unspacedScripts)

def numeric : CharSet :=
  (categorySet ["Nd"] ∪ numberFormats ∪ .ofLines ["66B"]) \ mark

def format : CharSet :=
  categorySet ["Cf"] \ (numberFormats ∪ .ofLines ["200B 200D"] ∪ mark)

def midNumber : CharSet := .ofLines [
  "2C 3B 37E 589 60C-60D 66C 7F8 2044 FE10 FE14 FE50 FE54 FF0C FF1B"]

def blank : CharSet :=
  categorySet ["Zs"] \ .ofLines ["A0 2007 202F"]

def kind? : String → Option CharSet
  | "cr" => some (.ofLines ["D"])
  | "dq" | "doublequote" => some (.ofLines ["22"])
  | "ex" | "extendnumlet" => some (categorySet ["Pc"] ∪ .ofLines ["202F"])
  | "extend" => some mark
  | "fo" | "format" => some format
  | "hl" | "hebrewletter" => some hebrewLetter
  | "ka" | "katakana" => some katakana
  | "le" | "aletter" => some letter
  | "lf" => some (.ofLines ["A"])
  | "mb" | "midnumlet" => some (.ofLines ["2E 2018-2019 2024 FE52 FF07 FF0E"])
  | "ml" | "midletter" => some (.ofLines ["3A B7 387 55F 5F4 2027 FE13 FE55 FF1A"])
  | "mn" | "midnum" => some midNumber
  | "nl" | "newline" => some (.ofLines ["B-C 85 2028-2029"])
  | "nu" | "numeric" => some numeric
  | "ri" | "regionalindicator" => some regionalIndicator
  | "sq" | "singlequote" => some (.ofLines ["27"])
  | "wsegspace" => some blank
  | "zwj" => some (.ofLines ["200D"])
  | _ => none

end Word

namespace Sentence

def mark : CharSet :=
  graphemeExtend ∪ categorySet ["Mc"] ∪ .ofLines ["200D"]

def format : CharSet :=
  categorySet ["Cf"] \ (numberFormats ∪ mark)

def blank : CharSet :=
  whiteSpace \ .ofLines ["A D 85 2028-2029"]

def small : CharSet :=
  lowercase \ (mark ∪ .ofLines ["10D0-10FA 10FD-10FF"])

def capital : CharSet :=
  (uppercase ∪ categorySet ["Lt"]) \ .ofLines ["1C90-1CBA 1CBD-1CBF"]

def otherLetter : CharSet :=
  (alphabetic ∪ .ofLines ["5F3"]) \ (small ∪ capital ∪ mark)

def point : CharSet := .ofLines ["2E 2024 FE52 FF0E"]

def terminal : CharSet :=
  sentenceTerminal \ point

def goingOn : CharSet := .ofLines [
  "2C-2D 3A-3B 37E 55D 60C-60D 7F8 1802 1808 2013-2014 3001 FE10-FE11 FE13-FE14 FE31-FE32",
  "FE50-FE51 FE54-FE55 FE58 FE63 FF0C-FF0D FF1A-FF1B FF64"]

def closing : CharSet :=
  (categorySet ["Ps", "Pe", "Pi", "Pf"] ∪
    .ofLines ["22 27 275B-2760 2E00-2E01 2E06-2E08 2E0B 1F676-1F678"]) \ (point ∪ terminal)

def kind? : String → Option CharSet
  | "at" | "aterm" => some point
  | "cl" | "close" => some closing
  | "cr" => some (.ofLines ["D"])
  | "ex" | "extend" => some mark
  | "fo" | "format" => some format
  | "le" | "oletter" => some otherLetter
  | "lf" => some (.ofLines ["A"])
  | "lo" | "lower" => some small
  | "nu" | "numeric" => some (categorySet ["Nd"] ∪ numberFormats ∪ .ofLines ["66B-66C"])
  | "sc" | "scontinue" => some goingOn
  | "se" | "sep" => some (.ofLines ["85 2028-2029"])
  | "sp" => some blank
  | "st" | "sterm" => some terminal
  | "up" | "upper" => some capital
  | _ => none

end Sentence

end RestRecords.Text
