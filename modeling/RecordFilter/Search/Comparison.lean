import RecordFilter.Query.Literal
import RecordFilter.Record.Kind
import RecordFilter.Text.WhiteSpace

/-!
# Comparing values with literals

The rules by which a value is equal to a literal, comes before or after it, holds it, is one of its
items, or contains a text.  Text that writes a number compares with numbers, and a truth value
equals the number 0 or 1.  Under `folded` the texts of values count in lower case; the literals are
then expected in lower case.
-/

namespace RecordFilter

/-- The number for a truth value. -/
def Double.ofBool (b : Bool) : Double :=
  .ofInt (if b then 1 else 0)

namespace Json

/-- A text in the letter case that counts (`fold`). -/
def caseFolded (folded : Bool) (t : Text) : Text :=
  if folded then Text.lowerCase t else t

/-- The number that a text writes, white space around it aside (`parse_number`). -/
def writtenNumber? (t : Text) : Option Double :=
  Double.ofText? (Text.trim t)

/-- Whether a value equals a literal (`loose_eq`). -/
def equals (folded : Bool) : Json → Literal → Bool
  | .string s, .text t => caseFolded folded s == t
  | .string s, .number n => (writtenNumber? s).any (·.same n)
  | .number v, .number n => v.toDouble.same n
  | .bool b, .bool l => b == l
  | .bool b, .number n => (Double.ofBool b).same n
  | .number v, .bool l => v.toDouble.same (.ofBool l)
  | _, _ => false

/-- The order of a value and a literal, when they have one (`order`). -/
def orderAgainst? (folded : Bool) : Json → Literal → Option Ordering
  | .number v, .number n => some (v.toDouble.order n)
  | .string s, .number n => (writtenNumber? s).map (·.order n)
  | .string s, .text t => some (compare (caseFolded folded s) t)
  | .bool b, .bool l => some (compare b l)
  | _, _ => none

/-- Whether an array has the literal among its items, or a string the text in it (`contains`); other
values hold nothing. -/
def holds? (folded : Bool) (literal : Literal) (text : Text) : Json → Option Bool
  | .array items => some (items.any (·.equals folded literal))
  | .string s => some (Text.occursIn text (caseFolded folded s))
  | _ => none

/-- Whether a value equals an item of a literal; a literal that is no list is its only item. -/
def equalsItem (folded : Bool) (literal : Literal) (value : Json) : Bool :=
  match literal with
  | .list items => items.any (value.equals folded)
  | single => value.equals folded single

/-- Whether a value, or some item of an array, equals an item of a literal (`member`). -/
def isAmong (folded : Bool) (literal : Literal) : Json → Bool
  | .array items => items.any (equalsItem folded literal)
  | value => equalsItem folded literal value

/-- Whether a string or a number contains a text (`substring`); nothing contains the empty one. -/
def containsText (folded : Bool) (text : Text) (value : Json) : Bool :=
  !text.isEmpty &&
    match value with
    | .string s => Text.occursIn text (caseFolded folded s)
    | .number n => Text.occursIn text n.text
    | _ => false

/-- The text in which patterns are searched (`scalar_text`). -/
def scalarText? : Json → Option Text
  | .string s => some s
  | .number n => some n.text
  | .bool true => some ['t', 'r', 'u', 'e']
  | .bool false => some ['f', 'a', 'l', 's', 'e']
  | _ => none

end Json

end RecordFilter
