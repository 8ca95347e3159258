import RecordFilter.Pattern.Basic

/-!
# Rules for queries

A condition rule is registered for a key and may replace a condition on it; the new condition is not
looked up again.  A text rule is registered under a pattern and replaces the free text it is found
in by conditions and other free text.
-/

namespace RecordFilter

/-- What a condition is replaced by (`MacroExpansion`). -/
structure Expansion where
  key : Text
  args : List Text
  /-- Further pieces of free text. -/
  freeText : List Text := []
deriving DecidableEq, Repr

/-- A rule for the conditions on a key (`Macro`): given the key and the arguments, it may replace
them. -/
structure ConditionRule where
  expand : Text → List Text → Option Expansion

/-- The rule that puts another key in place of its own (`KeyAlias`). -/
def ConditionRule.alias (target : Text) : ConditionRule :=
  ⟨fun _ args => some ⟨target, args, []⟩⟩

/-- What a piece of free text is replaced by (`HaystackExpansion`). -/
structure TextExpansion where
  /-- Conditions as written in a query. -/
  conditions : List Text := []
  freeText : List Text := []
deriving DecidableEq, Repr

/-- A rule for the free text that a pattern is found in (`HaystackMacro`). -/
structure TextRule where
  pattern : Pattern
  expand : Text → TextExpansion

/-- Whether a rule applies to a piece of free text. -/
def TextRule.appliesTo (r : TextRule) (t : Text) : Bool :=
  r.pattern.isMatch t

end RecordFilter
