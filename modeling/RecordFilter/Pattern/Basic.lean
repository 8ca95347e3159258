import RecordFilter.Pattern.Reader
import RecordFilter.Pattern.Meaning
import RecordFilter.Pattern.Memory

/-!
# Patterns

A pattern is a text that has been read as a regular expression.  It is searched for in texts; where
in a text it is found does not matter.
-/

namespace RecordFilter

/-- A pattern: its text and the expression it stands for. -/
structure Pattern where
  source : Text
  regex : Regex
deriving DecidableEq, Repr

namespace Pattern

/-- Reads a pattern, to be searched for in any letter case or as written. -/
def compile (anyCase : Bool) (source : Text) : Except Fault Pattern := do
  let tree ← Tree.ofText source
  let (regex, _) ← tree.meaning { anyCase := anyCase }
  if (Plan.ofRegex regex).fits then return ⟨source, regex⟩ else .error .tooLarge

/-- Whether a pattern is found in a text. -/
def isMatch (p : Pattern) (t : Text) : Bool :=
  p.regex.search t

end Pattern

end RecordFilter
