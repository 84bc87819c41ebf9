import RestRecords.Text.Numeral
/-!
# Paths into a value

A path leads from a value to one of its parts through field names and positions in lists, and is
written `address.zip` or `lines[2].amount`.
-/

namespace RestRecords

open Text

/-- One step from a value to a part of it. -/
inductive Step where
  | field (name : String)
  | index (i : Nat)
  deriving DecidableEq, Repr

def Step.text : Step → String
  | .field name => name
  | .index i => "[" ++ natText i ++ "]"

/-- The steps from a value to one of its parts, outermost first. -/
abbrev Path := List Step

namespace Path

/-- Joins a step and the text of the path behind it; a bracket needs no point before it. -/
def join (outer inner : String) : String :=
  if inner.toList.head? = some '[' then outer ++ inner else outer ++ "." ++ inner

def text : Path → String
  | [] => ""
  | [s] => s.text
  | s :: rest => join s.text (text rest)

/-- The text of a path in which a part without a name adds nothing. -/
def textOmittingEmpty : Path → String
  | [] => ""
  | s :: rest =>
    let inner := textOmittingEmpty rest
    if inner.isEmpty then s.text else join s.text inner

theorem text_cons_cons (s t : Step) (rest : Path) :
    text (s :: t :: rest) = join s.text (text (t :: rest)) := rfl

end Path

end RestRecords
