import RecordFilter.Unicode.Age
import RecordFilter.Unicode.CaseChange
import RecordFilter.Unicode.GraphemeBreak
import RecordFilter.Unicode.SentenceBreak
import RecordFilter.Unicode.WordBreak
import RecordFilter.Text.Basic

/-!
# Properties by name

A pattern names a set of characters by a binary property, a general category or a script, or by a
property with several values and one of them.  Names are compared without regard to letter case,
blanks, underscores and hyphens, and to a leading `is`.
-/

namespace RecordFilter.Property

/-- How a pattern asks for a set of characters. -/
inductive Query
  | name (name : Text)
  | value (property value : Text)
deriving DecidableEq, Repr

/-- Whether a name begins with `is`, in any letter case. -/
def startsWithIs : Text → Bool
  | a :: b :: _ => (a = 'i' || a = 'I') && (b = 's' || b = 'S')
  | _ => false

/-- The ASCII letters and signs that count in a name, in lower case. -/
def significant (t : Text) : Text :=
  (t.filter fun c => c.toNat < 128 && c ≠ ' ' && c ≠ '_' && c ≠ '-').map Char.toLower

/-- The form of a name that is compared. -/
def looseName (t : Text) : Text :=
  if startsWithIs t then
    let rest := significant (t.drop 2)
    if rest = ['c'] then ['i', 's', 'c'] else rest
  else significant t

/-- Whether one of an entry's names is a given loose name. -/
def answersTo (loose : Text) (names : List String) : Bool :=
  names.any fun n => looseName n.toList = loose

/-- The set an entry of a table gives for a loose name. -/
def lookup? (table : List (List String × CharSet)) (loose : Text) : Option CharSet :=
  (table.find? fun entry => answersTo loose entry.1).map (·.2)

/-- The script of a loose name. -/
def script? (loose : Text) : Option Script.Entry :=
  Script.all.find? fun entry => answersTo loose entry.names

/-- The names that stand for a category although a property has them as well. -/
def categoryFirst : List Text :=
  [['c', 'f'], ['s', 'c'], ['l', 'c']]

/-- The set of characters that a query names. -/
def find? : Query → Option CharSet
  | .name name =>
    let loose := looseName name
    let binary :=
      if loose ∈ categoryFirst then none else lookup? (named ++ CaseChange.named) loose
    (binary.or (lookup? Category.named loose)).or
      ((script? loose).map fun s => .ofHex s.own)
  | .value property value =>
    let loose := looseName value
    match String.ofList (looseName property) with
    | "generalcategory" | "gc" => lookup? Category.named loose
    | "script" | "sc" => (script? loose).map fun s => .ofHex s.own
    | "scriptextensions" | "scx" =>
      (script? loose).map fun s => .ofHex (s.extension?.getD s.own)
    | "age" =>
      (Age.upTo? (fun v => answersTo loose v.names) Age.versions).map Age.assignedBy
    | "graphemeclusterbreak" | "gcb" => lookup? GraphemeBreak.named loose
    | "wordbreak" | "wb" => lookup? WordBreak.named loose
    | "sentencebreak" | "sb" => lookup? SentenceBreak.named loose
    | _ => none

end RecordFilter.Property
