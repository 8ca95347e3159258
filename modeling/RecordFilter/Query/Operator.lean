import RecordFilter.Text.Basic

/-!
# Operators

An operator compares a field's value with the literal of an argument.  An argument may begin with
the sign of its operator.  The signs stand longest first, and a sign counts only where a literal
follows it, except for the one that asks for presence and takes none.
-/

namespace RecordFilter

/-- How a value is compared with a literal (`Operator`). -/
inductive Operator
  /-- No sign: a search in text, equality elsewhere. -/
  | unspecified
  | present
  | equal
  | notEqual
  | less
  | lessOrEqual
  | greater
  | greaterOrEqual
  /-- The literal is an item of the value, or a part of its text. -/
  | holds
  | holdsNot
  /-- The value is an item of the literal's list. -/
  | among
  | notAmong
  /-- A search for a pattern. -/
  | pattern
  /-- A search for a pattern in any letter case. -/
  | patternAnyCase
  /-- A search for the literal's text. -/
  | containing
deriving DecidableEq, Repr

namespace Operator

/-- The operators in the order in which they are listed. -/
def all : List Operator :=
  [unspecified, present, equal, notEqual, less, lessOrEqual, greater, greaterOrEqual, holds,
   holdsNot, among, notAmong, pattern, patternAnyCase, containing]

/-- The name of an operator. -/
def name : Operator → String
  | unspecified => "Unspecified"
  | present => "Exists"
  | equal => "Equal"
  | notEqual => "NotEqual"
  | less => "LessThan"
  | lessOrEqual => "LessThanOrEqual"
  | greater => "GreaterThan"
  | greaterOrEqual => "GreaterThanOrEqual"
  | holds => "ArgValueInItemSeq"
  | holdsNot => "NotArgValueInItemSeq"
  | among => "ItemValueInArgSeq"
  | notAmong => "NotItemValueInArgSeq"
  | pattern => "Haystack"
  | patternAnyCase => "InsensitiveHaystack"
  | containing => "FastHaystack"

/-- The sign that writes an operator (`Operator::symbol`). -/
def sign : Operator → Text
  | unspecified => []
  | present => ['?']
  | equal => ['=']
  | notEqual => ['!', '=']
  | less => ['<']
  | lessOrEqual => ['<', '=']
  | greater => ['>']
  | greaterOrEqual => ['>', '=']
  | holds => ['h', 'a', 's', ':']
  | holdsNot => ['!', 'h', 'a', 's', ':']
  | among => ['i', 'n', ':']
  | notAmong => ['!', 'i', 'n', ':']
  | pattern => ['/']
  | patternAnyCase => ['i', '/']
  | containing => ['%']

/-- The signs an argument may begin with (`PREFIXES`), a longer one before every sign it begins
with. -/
def signs : List (Text × Operator) :=
  [(['!', 'h', 'a', 's', ':'], holdsNot), (['h', 'a', 's', ':'], holds),
   (['!', 'i', 'n', ':'], notAmong), (['i', 'n', ':'], among), (['>', '='], greaterOrEqual),
   (['<', '='], lessOrEqual), (['!', '='], notEqual), (['i', '/'], patternAnyCase),
   (['='], equal), (['!'], notEqual), (['>'], greater), (['<'], less), (['/'], pattern),
   (['~'], pattern), (['%'], containing), (['?'], present), (['$'], holds)]

/-- What an argument leaves after a sign, when the sign counts. -/
def after? (sign : Text) (op : Operator) (arg : Text) : Option Text :=
  (sign.isPrefixOf? arg).filter fun rest => !rest.isEmpty || op == present

/-- The operator of an argument and its literal's text (`Operator::parse_prefix`). -/
def parse (arg : Text) : Operator × Text :=
  (signs.findSome? fun (sign, op) => (after? sign op arg).map fun rest => (op, rest)).getD
    (unspecified, arg)

/-- Whether the literal is a pattern (`Operator::is_regex`). -/
def isPattern : Operator → Bool
  | pattern | patternAnyCase => true
  | _ => false

/-- Whether the literal is a list (`Operator::takes_list`). -/
def takesList : Operator → Bool
  | among | notAmong => true
  | _ => false

end Operator

end RecordFilter
