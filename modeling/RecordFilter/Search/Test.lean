import RecordFilter.Query.Condition
import RecordFilter.Query.Options
import RecordFilter.Search.Comparison
import RecordFilter.Search.PatternCache

/-!
# Tests

A test is an argument made ready to be tried on values: its pattern is compiled, and where letter
case does not count its literal is in lower case.  A test has no answer on a value of a kind that
its operator cannot be applied to.
-/

namespace RecordFilter

/-- An argument made ready to be tried on values (`CompiledArg`). -/
structure Test where
  operator : Operator
  literal : Literal
  /-- The literal's text, which is what texts are searched for. -/
  text : Text
  /-- Whether the texts of values count in lower case. -/
  folded : Bool
  /-- The pattern, where the operator takes one and the literal is one. -/
  pattern : Option Pattern
deriving Repr

namespace Test

/-- Makes an argument ready (`CompiledArg::compile`). -/
def ofArgument (o : Options) (c : PatternCache) (a : Argument) : Traced (Test × PatternCache) :=
  if a.operator.isPattern then do
    let (entry, c) ← c.get a.raw (a.operator == .patternAnyCase || o.ignoreCase)
    match entry with
    | .ok p => return (⟨a.operator, a.literal, a.raw, false, some p.value⟩, c)
    | .error fault =>
      Traced.report (.unusablePattern a.raw fault)
      return (⟨a.operator, a.literal, a.raw, false, none⟩, c)
  else if o.ignoreCase then
    return (⟨a.operator, a.literal.lowerCase, Text.lowerCase a.raw, true, none⟩, c)
  else return (⟨a.operator, a.literal, a.raw, false, none⟩, c)

/-- The operator that a test applies to a value: one without a sign searches strings. -/
def operatorFor (t : Test) (value : Json) : Operator :=
  match t.operator, value with
  | .unspecified, .string _ => .containing
  | .unspecified, _ => .equal
  | op, _ => op

/-- The answer of an operator on a value, if it has one. -/
def answer? (t : Test) (op : Operator) (value : Json) : Option Bool :=
  let order? := value.orderAgainst? t.folded t.literal
  match op with
  | .present => some true
  | .unspecified | .equal => some (value.equals t.folded t.literal)
  | .notEqual => some (!value.equals t.folded t.literal)
  | .less => order?.map (·.isLT)
  | .lessOrEqual => order?.map (·.isLE)
  | .greater => order?.map (·.isGT)
  | .greaterOrEqual => order?.map (·.isGE)
  | .holds => value.holds? t.folded t.literal t.text
  | .holdsNot => (value.holds? t.folded t.literal t.text).map (!·)
  | .among => some (value.isAmong t.folded t.literal)
  | .notAmong => some (!value.isAmong t.folded t.literal)
  | .containing => some (value.containsText t.folded t.text)
  | .pattern | .patternAnyCase =>
    match t.pattern, value.scalarText? with
    | some p, some text => some (p.isMatch text)
    | _, _ => some false

/-- The answer of a test on a value (`CompiledArg::apply`). -/
def outcome (t : Test) (value : Json) : Except Mismatch Bool :=
  match t.answer? (t.operatorFor value) value with
  | some b => .ok b
  | none => .error ⟨t.operatorFor value, value.kind⟩

end Test

end RecordFilter
