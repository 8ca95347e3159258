import RecordFilter.Query.Operator
import RecordFilter.Query.Split
import RecordFilter.Number.Reading
import RecordFilter.Text.LowerCase

/-!
# Literals

The literal of an argument is a number, a truth value, text or a list.  A text becomes the most
telling of these that its operator allows: patterns stay text, the operators that take lists cut it
at commas.
-/

namespace RecordFilter

/-- What a value is compared with (`Literal`). -/
inductive Literal
  | number (x : Double)
  | bool (b : Bool)
  | text (t : Text)
  | list (items : List Literal)
deriving Repr

namespace Literal

/-- Reads a number, a truth value in short or in full, or else text (`Literal::scalar`). -/
def scalar (raw : Text) : Literal :=
  match Double.ofText? raw with
  | some x => .number x
  | none =>
    if raw = ['t'] ∨ raw = ['t', 'r', 'u', 'e'] then .bool true
    else if raw = ['f'] ∨ raw = ['f', 'a', 'l', 's', 'e'] then .bool false
    else .text raw

/-- The items of a list written in an argument. -/
def listItems (raw : Text) : List Text :=
  split [','] .all true raw

/-- The literal of a text under an operator (`Literal::coerce`). -/
def coerce (raw : Text) (op : Operator) : Literal :=
  if op.isPattern then .text raw
  else if op.takesList then .list ((listItems raw).map scalar)
  else scalar raw

mutual

/-- Whether letter case matters to a literal (`Literal::is_textual`): it is text or holds text. -/
def isTextual : Literal → Bool
  | .text _ => true
  | .list items => anyTextual items
  | .number _ | .bool _ => false

/-- Whether letter case matters to one of several literals. -/
def anyTextual : List Literal → Bool
  | [] => false
  | l :: rest => isTextual l || anyTextual rest

end

mutual

/-- A literal with its texts in lower case (`Literal::to_lowercase`). -/
def lowerCase : Literal → Literal
  | .text t => .text (Text.lowerCase t)
  | .list items => .list (lowerCaseAll items)
  | .number x => .number x
  | .bool b => .bool b

/-- Several literals with their texts in lower case. -/
def lowerCaseAll : List Literal → List Literal
  | [] => []
  | l :: rest => lowerCase l :: lowerCaseAll rest

end

theorem lowerCaseAll_eq (items : List Literal) : lowerCaseAll items = items.map lowerCase := by
  induction items with
  | nil => rfl
  | cons l rest ih => simp [lowerCaseAll, ih]

end Literal

end RecordFilter
