import RecordFilter.Query.Literal

/-!
# Conditions

A condition names a field, lists arguments, and says how they combine and what their outcome means
for a record.  A condition without arguments asks for nothing.  `Condition.text` writes a condition
as it may stand in a query, `Condition.describe` in words.
-/

namespace RecordFilter

/-- What the outcome of a condition means for a record (`Polarity`). -/
inductive Polarity
  | including
  /-- Every outcome of an argument is reversed. -/
  | excluding
  /-- One of these conditions is enough. -/
  | additive
deriving DecidableEq, Repr

namespace Polarity

/-- The name of a polarity. -/
def name : Polarity → String
  | including => "Include"
  | excluding => "Exclude"
  | additive => "Additive"

/-- The sign that stands before the field (`Polarity::symbol`). -/
def sign : Polarity → Text
  | including => []
  | excluding => ['-']
  | additive => ['+']

/-- Takes the sign of a polarity from a field as written (`Polarity::split_key`). -/
def splitKey : Text → Polarity × Text
  | '-' :: bare => (excluding, bare)
  | '+' :: bare => (additive, bare)
  | key => (including, key)

end Polarity

/-- How the arguments of a condition combine (`ComposeRule`): one of them suffices, or all are
needed. -/
inductive Combination
  | any
  | all
deriving DecidableEq, Repr

namespace Combination

/-- The name of a combination. -/
def name : Combination → String
  | any => "Or"
  | all => "And"

/-- The combination that a word or sign asks for (`ComposeRule::parse`). -/
def parse? (arg : Text) : Option Combination :=
  if arg = ['o', 'r'] ∨ arg = ['|'] then some any
  else if arg = ['a', 'n', 'd'] ∨ arg = ['&'] then some all
  else none

end Combination

/-- An operator with its literal, and the literal's text as written (`Arg`). -/
structure Argument where
  operator : Operator
  literal : Literal
  raw : Text
deriving Repr

namespace Argument

/-- Reads an argument (`Arg::parse`). -/
def parse (arg : Text) : Argument :=
  let (op, raw) := Operator.parse arg
  ⟨op, .coerce raw op, raw⟩

/-- The argument that searches for a piece of free text (`Arg::haystack`). -/
def freeText (fragment : Text) : Argument :=
  ⟨.containing, .text fragment, fragment⟩

/-- The characters for which an argument is written between quotation marks. -/
def quotedFor : List Char :=
  [' ', ',', ':', '\x22', '\x27', '(', ')', '[', ']']

/-- The sign of an argument and its literal. -/
def bare (a : Argument) : Text :=
  a.operator.sign ++ a.raw

/-- An argument as it may stand in a condition. -/
def text (a : Argument) : Text :=
  if a.bare.any quotedFor.contains then '\x60' :: a.bare ++ ['\x60'] else a.bare

end Argument

/-- A condition on one field (`ConditionToken`). -/
structure Condition where
  polarity : Polarity
  /-- The path to the field, its steps joined by points. -/
  key : Text
  combination : Combination
  arguments : List Argument
deriving Repr

namespace Condition

/-- The field that a key names: the empty key and the underscore name the one for free text. -/
def fieldOf (haystackKey key : Text) : Text :=
  if key = [] ∨ key = ['_'] then haystackKey else key

/-- The combination that the first argument asks for, and the arguments after it; without such an
argument one suffices. -/
def takeCombination : List Text → Combination × List Text
  | [] => (.any, [])
  | first :: rest =>
    match Combination.parse? first with
    | some combination => (combination, rest)
    | none => (.any, first :: rest)

/-- The condition on a key with arguments as written (`ConditionToken::compile`); empty arguments
are dropped. -/
def compile (polarity : Polarity) (key : Text) (args : List Text) (haystackKey : Text) :
    Condition :=
  let (combination, rest) := takeCombination args
  ⟨polarity, fieldOf haystackKey key, combination, (rest.filter (!·.isEmpty)).map Argument.parse⟩

/-- The condition that one of several pieces of free text is found (`ConditionToken::haystack`);
empty pieces are dropped. -/
def freeText (haystackKey : Text) (fragments : List Text) : Condition :=
  ⟨.including, haystackKey, .any, (fragments.filter (!·.isEmpty)).map Argument.freeText⟩

/-- Whether a condition asks for nothing (`is_unconstrained`). -/
def isUnconstrained (c : Condition) : Bool :=
  c.arguments.isEmpty

/-- An argument in words. -/
def describeArgument (a : Argument) : Text :=
  a.operator.name.toList ++ [' ', '|'] ++ a.raw ++ ['|']

/-- A condition in words (`describe`). -/
def describe (c : Condition) : Text :=
  if c.arguments.isEmpty then
    c.polarity.name.toList ++ " results with any ".toList ++ c.key
  else
    let joint := match c.combination with
      | .any => " or ".toList
      | .all => " and ".toList
    c.polarity.name.toList ++ " results where ".toList ++ c.key ++ " matches ".toList ++
      joint.intercalate (c.arguments.map describeArgument)

/-- A condition as it may stand in a query. -/
def text (c : Condition) : Text :=
  let lead := match c.combination with
    | .any => []
    | .all => ['a', 'n', 'd', ',']
  c.polarity.sign ++ c.key ++ ':' :: lead ++ [','].intercalate (c.arguments.map Argument.text)

end Condition

end RecordFilter
