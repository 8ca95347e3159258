import RecordFilter.Configuration.Error
import RecordFilter.Text.Digits

/-!
# Paths into configurations

The name of an entry may be a path: names joined by points, and positions in brackets.  A value is
put at the end of its path; whatever on the way is no table or list is replaced by one.  A name that
is no path stands for itself.  A list grows to hold a position past its end, but there is none
before its first item.
-/

namespace RecordFilter.Configuration

/-- One step of a path.  Positions below zero count from the end. -/
inductive Step
  | entry (name : Text)
  | item (place : Int)
deriving DecidableEq, Repr

/-- The characters of a name in a path. -/
def isNameChar (c : Char) : Bool :=
  ('a' ≤ c && c ≤ 'z') || ('A' ≤ c && c ≤ 'Z') || ('0' ≤ c && c ≤ '9') ||
    c = ' ' || c = '_' || c = '-'

/-- Whether a character is a blank or a tab. -/
def isBlank (c : Char) : Bool :=
  c = ' ' || c = '\t'

/-- Takes a name that is not empty. -/
def takeName? (t : Text) : Option (Text × Text) :=
  match t.span isNameChar with
  | ([], _) => none
  | found => some found

/-- Takes a position, blanks around it allowed, with the bracket that ends it. -/
def takePlace? (t : Text) : Option (Int × Text) :=
  let t := t.dropWhile isBlank
  let (negative, t) := match t with
    | '-' :: rest => (true, rest)
    | rest => (false, rest)
  let (digits, t) := t.span isDigit
  match Text.integer? (if negative then '-' :: digits else digits), t.dropWhile isBlank with
  | some i, ']' :: rest => some (i, rest)
  | _, _ => none

/-- Reads the steps after the first name; `fuel` bounds their number. -/
def readSteps? : Nat → Text → Option (List Step)
  | _, [] => some []
  | 0, _ :: _ => none
  | fuel + 1, '.' :: rest => do
    let (name, rest) ← takeName? rest
    return .entry name :: (← readSteps? fuel rest)
  | fuel + 1, '[' :: rest => do
    let (place, rest) ← takePlace? rest
    return .item place :: (← readSteps? fuel rest)
  | _ + 1, _ :: _ => none

/-- Reads a path. -/
def readPath? (t : Text) : Option (List Step) := do
  let (name, rest) ← takeName? t
  return .entry name :: (← readSteps? rest.length rest)

/-- The path that the name of an entry stands for. -/
def pathOf (name : Text) : List Step :=
  (readPath? name).getD [.entry name]

/-- The greatest number of items of a list. -/
def itemLimit : Nat := 0x100000000

/-- The index of a position in a list of so many items. -/
def index? (length : Nat) : Int → Option Nat
  | .ofNat n => if n < itemLimit then some n else none
  | .negSucc n => if n < length then some (length - (n + 1)) else none

/-- Changes the item of a list at a position; missing items before it are filled in. -/
def changeItem (place : Int) (change : Configuration → Except ConfigurationError Configuration)
    (base : Configuration) : Except ConfigurationError Configuration := do
  let vs := base.items
  match index? vs.length place with
  | some n =>
    let origin := match base with
      | list origin _ => origin
      | _ => none
    let item ← change (vs.getD n nothing)
    return .list origin ((vs ++ List.replicate (n + 1 - vs.length) nothing).set n item)
  | none => .error (.noPlace place)

/-- Puts a value at the end of a path. -/
def placeAt (value : Configuration) :
    List Step → Configuration → Except ConfigurationError Configuration
  | [], _ => .ok value
  | [.entry name], base => .ok (merge name value base)
  | .entry name :: rest, base => do
    let inner ← placeAt value rest ((base.entry? name).getD nothing)
    return .table (putEntry name inner base.entries)
  | .item place :: rest, base => changeItem place (placeAt value rest) base

/-- Lays a source of entries over a configuration. -/
def withSource (base : Configuration) (source : List (Text × Configuration)) :
    Except ConfigurationError Configuration :=
  source.foldlM (fun c e => placeAt e.2 (pathOf e.1) c) base

end RecordFilter.Configuration
