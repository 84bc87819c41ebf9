import RestRecords.Text.Numeral
/-!
# Headers

A list of names and values. Names are tokens, compared without regard to case and kept in lower
case; a name may have several values, in order.
-/

namespace RestRecords

open Text

/-- A list of header names in lower case and their values. -/
structure Headers where
  entries : List (String × String)
  deriving DecidableEq, Repr

namespace Headers

def isTokenChar (c : Char) : Bool :=
  c.isAlphanum ||
    ['!', '#', '$', '%', '&', '\x27', '*', '+', '-', '.', '^', '_', '\x60', '|', '~'].contains c

def lowerCase (s : String) : String :=
  String.ofList (s.toList.map Char.toLower)

def sameName (a b : String) : Bool :=
  lowerCase a == lowerCase b

/-- The name in lower case, if the text is a token of at most `65535` characters. -/
def name? (s : String) : Option String :=
  let cs := s.toList
  if cs.isEmpty || !cs.all isTokenChar || 65535 < cs.length then none else some (lowerCase s)

/-- Whether a text may be a value: no control characters but the tab. -/
def isValue (s : String) : Bool :=
  s.toList.all fun c => c == '\t' || (0x20 ≤ c.toNat && c.toNat != 0x7f)

/-- Whether a value is readable as text: visible ASCII, blanks and tabs. -/
def isReadable (s : String) : Bool :=
  s.toList.all fun c => c == '\t' || (0x20 ≤ c.toNat && c.toNat < 0x7f)

def empty : Headers := ⟨[]⟩

def values (h : Headers) (name : String) : List String :=
  (h.entries.filter fun e => e.1 == name).map (·.2)

def names (h : Headers) : List String :=
  h.entries.map (·.1)

def remove (h : Headers) (name : String) : Headers :=
  ⟨h.entries.filter fun e => e.1 != name⟩

def append (h : Headers) (name value : String) : Headers :=
  ⟨h.entries ++ [(name, value)]⟩

/-- Makes `value` the only value of a name. -/
def insert (h : Headers) (name value : String) : Headers :=
  (h.remove name).append name value

def overlay (h layer : Headers) : Headers :=
  ⟨h.entries.filter (fun e => !layer.names.contains e.1) ++ layer.entries⟩

/-- The first value of a name, which may be written in either case, if it is readable. -/
def lookup? (h : Headers) (name : String) : Option String :=
  ((h.values (lowerCase name)).head?).filter isReadable

/-- The entries sorted by name; the values of one name stay in order. -/
def sorted (h : Headers) : List (String × String) :=
  h.entries.mergeSort fun a b => !(b.1 < a.1)

@[simp] theorem values_append (h : Headers) (name other value : String) :
    (h.append name value).values other =
      h.values other ++ if name = other then [value] else [] := by
  by_cases hn : name = other <;> simp [append, values, hn]

end Headers

end RestRecords
