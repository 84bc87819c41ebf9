import RestRecords.Text.Numeral
import RestRecords.Text.Property.Derived
/-!
# Quoted texts

A text in quotes for a human reader: quotes, backslashes and everything that leaves no mark of its
own on paper are escaped.
-/

namespace RestRecords.Text

/-- Whether a character leaves a mark on paper, or is the blank. -/
def isPrintable (c : Char) : Bool :=
  c == ' ' || !inCategories ["Cc", "Cf", "Cn", "Co", "Cs", "Zl", "Zp", "Zs"] c

private def shortHex (n : Nat) : List Char :=
  match (hexDigits 8 n).dropWhile (· = '0') with
  | [] => ['0']
  | digits => digits

def quotedChar (c : Char) : List Char :=
  match c with
  | '\x00' => ['\\', '0']
  | '\t' => ['\\', 't']
  | '\r' => ['\\', 'r']
  | '\n' => ['\\', 'n']
  | '"' => ['\\', '"']
  | '\\' => ['\\', '\\']
  | c =>
    if 0x20 ≤ c.toNat && c.toNat < 0x7f then [c]
    else if Property.graphemeExtend.contains c || !isPrintable c then
      '\\' :: 'u' :: '\x7b' :: shortHex c.toNat ++ ['\x7d']
    else [c]

def quoted (s : String) : String :=
  String.ofList ('"' :: s.toList.flatMap quotedChar ++ ['"'])

end RestRecords.Text
