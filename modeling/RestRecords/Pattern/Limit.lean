import RestRecords.Pattern.Automaton
import RestRecords.Pattern.Reader
/-!
# Patterns of limited size

A pattern is taken from its written form only if it is well formed and its automata are not too
large.
-/

namespace RestRecords.Pattern

inductive ReadFault where
  | malformed
  | tooLarge
  deriving DecidableEq, Repr

def ReadFault.message : ReadFault → String
  | .malformed => "regex parse error:"
  | .tooLarge => "Compiled regex exceeds size limit of 10485760 bytes."

def read (source : String) : Except ReadFault Pattern :=
  match ofString? source with
  | none => .error .malformed
  | some p => if Automaton.isSmall p then .ok p else .error .tooLarge

end RestRecords.Pattern
