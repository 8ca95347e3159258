import RecordFilter.Query.Condition
import RecordFilter.Query.Options
import RecordFilter.Query.Token
import RecordFilter.Report.Traced

/-!
# The conditions of a query

A sub-query asks for its conditions in the order in which they are written, then for those that text
rules add, and last for one condition that searches the remaining free text.  Text rules see the
free text as written, every one of them that applies; condition rules see the conditions, each once.
-/

namespace RecordFilter.Query

/-- Applies a text rule to a piece of free text. -/
def applyTextRule (t : Text) (rule : TextRule) : Traced (List Token) := do
  let e := rule.expand t
  Traced.report (.textRuleApplied t rule.pattern.source e)
  return e.conditions.map Token.ofText ++ e.freeText.map Token.freeText

/-- What the text rules make of a piece of free text. -/
def expandFreeText (rules : List TextRule) (t : Text) : Traced (List Token) :=
  match rules.filter (·.appliesTo t) with
  | [] => return [.freeText t]
  | applying => return (← Traced.each (applyTextRule t) applying).flatten

/-- The condition that a key and arguments ask for, and the free text that its rule adds. -/
def compileCondition (o : Options) (c : Text × Text) : Traced (Condition × List Text) := do
  let (polarity, key) := Polarity.splitKey c.1
  let args := split [','] .all true c.2
  match (o.conditionRule? key).bind (·.expand key args) with
  | none => return (.compile polarity key args o.haystackKey, [])
  | some e =>
    Traced.report (.conditionRuleApplied key e)
    return (.compile polarity e.key e.args o.haystackKey, e.freeText)

/-- The pieces of free text that are searched for: all but the empty ones, or all as one phrase. -/
def phrases (o : Options) (freeText : List Text) : List Text :=
  let pieces := freeText.filter (!·.isEmpty)
  if o.onePhrase ∧ 1 < pieces.length then [[' '].intercalate pieces] else pieces

/-- The conditions of a sub-query (`tokenize`). -/
def conditionsOfPart (o : Options) (subQuery : Text) : Traced (List Condition) := do
  let written := (tokens subQuery).map Token.ofText
  let expanded := (← Traced.each (expandFreeText o.textRules)
    (written.filterMap Token.freeText?)).flatten
  let compiled ← Traced.each (compileCondition o)
    ((written ++ expanded).filterMap Token.condition?)
  let freeText := expanded.filterMap Token.freeText? ++ compiled.flatMap (·.2)
  return compiled.map (·.1) ++ [.freeText o.haystackKey (phrases o freeText)]

/-- The conditions of a query, sub-query by sub-query (`tokenize`). -/
def conditions (o : Options) (query : Text) : Traced (List (List Condition)) :=
  Traced.each (conditionsOfPart o) (subQueries query)

end RecordFilter.Query
