import RestRecords.Json.Basic
import RestRecords.Number.Shortest
/-!
# Writing JSON text

The compact text of a value: no blanks, quotes and backslashes and control characters escaped, all
other characters as they are, and doubles by their shortest decimal.
-/

namespace RestRecords.Json

open Text

def escape (c : Char) : List Char :=
  match c with
  | '"' => ['\\', '"']
  | '\\' => ['\\', '\\']
  | '\x08' => ['\\', 'b']
  | '\x0c' => ['\\', 'f']
  | '\n' => ['\\', 'n']
  | '\r' => ['\\', 'r']
  | '\t' => ['\\', 't']
  | c => if c.toNat < 0x20 then '\\' :: 'u' :: hexDigits 4 c.toNat else [c]

def writeString (s : String) : List Char :=
  '"' :: s.toList.flatMap escape ++ ['"']

mutual

def write : Json → List Char
  | .null => ['n', 'u', 'l', 'l']
  | .bool true => ['t', 'r', 'u', 'e']
  | .bool false => ['f', 'a', 'l', 's', 'e']
  | .int i => intDigits i
  | .float x => Shortest.render x
  | .str s => writeString s
  | .arr items => '[' :: writeItems items ++ [']']
  | .obj entries => '\x7b' :: writeEntries entries ++ ['\x7d']

def writeItems : List Json → List Char
  | [] => []
  | [a] => write a
  | a :: as => write a ++ ',' :: writeItems as

def writeEntries : List (String × Json) → List Char
  | [] => []
  | [(k, a)] => writeString k ++ ':' :: write a
  | (k, a) :: as => writeString k ++ ':' :: write a ++ ',' :: writeEntries as

end

def text (j : Json) : String :=
  String.ofList (write j)

end RestRecords.Json
