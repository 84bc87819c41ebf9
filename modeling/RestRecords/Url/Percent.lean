import RestRecords.Text.Numeral
/-!
# Percent encoding

A character that may not stand in a part of a URL is written as the bytes of its UTF-8 form, each a
percent sign and two hexadecimal digits. Every part has a set of characters of its own.
-/

namespace RestRecords.Url

open Text

def encodedByte (b : UInt8) : List Char :=
  '%' :: (hexDigits 2 b.toNat).map Char.toUpper

def percentEncode (encodes : Char → Bool) (cs : List Char) : List Char :=
  cs.flatMap fun c => if encodes c then (String.utf8EncodeChar c).flatMap encodedByte else [c]

/-- The bytes of a text in which a percent sign and two hexadecimal digits stand for a byte. -/
def percentDecode : List Char → List UInt8
  | '%' :: a :: b :: cs =>
    match hexValue? a, hexValue? b with
    | some high, some low => UInt8.ofNat (16 * high + low) :: percentDecode cs
    | _, _ => UInt8.ofNat '%'.toNat :: percentDecode (a :: b :: cs)
  | c :: cs => String.utf8EncodeChar c ++ percentDecode cs
  | [] => []

/-- The text that the bytes of a percent-encoded text make up, if they are UTF-8. -/
def decodedText? (cs : List Char) : Option (List Char) :=
  if cs.contains '%' then
    (String.fromUTF8? ⟨(percentDecode cs).toArray⟩).map String.toList
  else some cs

def encodesControl (c : Char) : Bool :=
  c.toNat < 0x20 || 0x7e < c.toNat

def encodesFragment (c : Char) : Bool :=
  encodesControl c || [' ', '"', '<', '>', '\x60'].contains c

def encodesQuery (c : Char) : Bool :=
  encodesControl c || [' ', '"', '#', '<', '>'].contains c

def encodesSpecialQuery (c : Char) : Bool :=
  encodesQuery c || c == '\x27'

def encodesPath (c : Char) : Bool :=
  encodesQuery c || ['?', '\x60', '\x7b', '\x7d'].contains c

def encodesUserinfo (c : Char) : Bool :=
  encodesPath c || ['/', ':', ';', '=', '@', '[', '\\', ']', '^', '|'].contains c

theorem percentEncode_eq_self {encodes : Char → Bool} {cs : List Char}
    (h : ∀ c ∈ cs, encodes c = false) : percentEncode encodes cs = cs := by
  induction cs with
  | nil => rfl
  | cons c cs ih =>
    simp only [percentEncode, List.flatMap_cons] at ih ⊢
    rw [ih fun d hd => h d (List.mem_cons_of_mem _ hd), h c List.mem_cons_self]
    rfl

end RestRecords.Url
