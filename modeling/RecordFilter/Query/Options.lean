import RecordFilter.Query.Rule

/-!
# Options

Options decide how queries are read and evaluated.  Settings are the part of them that can be
written down; their aliases become condition rules.
-/

namespace RecordFilter

/-- What an argument yields when its operator cannot be applied to the value (`FaultPolicy`). -/
inductive FaultPolicy
  | opened
  | closed
deriving DecidableEq, Repr

namespace FaultPolicy

/-- The outcome of an argument with a fault (`FaultPolicy::outcome`). -/
def outcome : FaultPolicy → Bool
  | opened => true
  | closed => false

/-- The word for a policy. -/
def word : FaultPolicy → String
  | opened => "open"
  | closed => "closed"

/-- The name of a policy in reports. -/
def name : FaultPolicy → String
  | opened => "Open"
  | closed => "Closed"

end FaultPolicy

/-- The field for free text unless another is chosen. -/
def defaultHaystackKey : Text := "haystack".toList

/-- What can be set in a file (`Settings`). -/
structure Settings where
  haystackKey : Text := defaultHaystackKey
  ignoreCase : Bool := false
  /-- Whether all free text is one phrase. -/
  onePhrase : Bool := false
  faultPolicy : FaultPolicy := .closed
  /-- The greatest number of entries of a cache, if there is one. -/
  cacheCapacity : Option Nat := none
  /-- Keys with the keys that stand for them, in the order of the former. -/
  aliases : List (Text × Text) := []
deriving DecidableEq, Repr

/-- How queries are read and evaluated (`Options`). -/
structure Options where
  haystackKey : Text := defaultHaystackKey
  conditionRules : List (Text × ConditionRule) := []
  textRules : List TextRule := []
  ignoreCase : Bool := false
  onePhrase : Bool := false
  faultPolicy : FaultPolicy := .closed
  cacheCapacity : Option Nat := none

namespace Options

/-- Puts a rule under a key, in place of one that is there. -/
def setRule (key : Text) (rule : ConditionRule) :
    List (Text × ConditionRule) → List (Text × ConditionRule)
  | [] => [(key, rule)]
  | (k, r) :: rest => if k = key then (key, rule) :: rest else (k, r) :: setRule key rule rest

/-- Registers a condition rule, in place of the one for its key (`with_macro`). -/
def withConditionRule (o : Options) (key : Text) (rule : ConditionRule) : Options :=
  { o with conditionRules := setRule key rule o.conditionRules }

/-- Registers a text rule after the others (`with_haystack_macro`). -/
def withTextRule (o : Options) (rule : TextRule) : Options :=
  { o with textRules := o.textRules ++ [rule] }

/-- The condition rule for a key (`macro_for`). -/
def conditionRule? (o : Options) (key : Text) : Option ConditionRule :=
  o.conditionRules.lookup key

/-- The options that settings ask for (`Options::from_settings`). -/
def ofSettings (s : Settings) : Options :=
  let plain : Options :=
    { haystackKey := s.haystackKey, ignoreCase := s.ignoreCase, onePhrase := s.onePhrase,
      faultPolicy := s.faultPolicy, cacheCapacity := s.cacheCapacity }
  s.aliases.foldl (fun o a => o.withConditionRule a.1 (.alias a.2)) plain

theorem lookup_setRule (key k : Text) (rule : ConditionRule)
    (rules : List (Text × ConditionRule)) :
    (setRule key rule rules).lookup k = if k = key then some rule else rules.lookup k := by
  induction rules with
  | nil => simp only [setRule]; grind
  | cons r rest ih =>
    simp only [setRule]
    split
    · next h => grind
    · next h => grind

end Options

end RecordFilter
