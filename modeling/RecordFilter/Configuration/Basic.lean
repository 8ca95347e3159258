import RecordFilter.Json.Value
import RecordFilter.Number.Reading

/-!
# Configurations

A configuration is a tree of tables and lists with values at its leaves.  Values from several
sources are laid over one another: a table is merged into the one below it, any other value takes
the place of what is there.
-/

namespace RecordFilter

/-- A value that has no parts. -/
inductive Leaf
  | nothing
  | bool (b : Bool)
  | integer (i : Int)
  | float (x : Reading)
  | text (t : Text)
deriving DecidableEq, Repr

/-- A configuration; values know the source they come from. -/
inductive Configuration
  | leaf (origin : Option Text) (value : Leaf)
  | list (origin : Option Text) (items : List Configuration)
  | table (entries : List (Text × Configuration))
deriving Repr

namespace Configuration

/-- The value that is there before anything is put in its place. -/
def nothing : Configuration := .leaf none .nothing

/-- The entries of a table; other values have none. -/
def entries : Configuration → List (Text × Configuration)
  | table es => es
  | _ => []

/-- The items of a list; other values have none. -/
def items : Configuration → List Configuration
  | list _ vs => vs
  | _ => []

/-- The source of a value, if it is known. -/
def origin? : Configuration → Option Text
  | leaf origin _ | list origin _ => origin
  | table _ => none

/-- The entry of a table under a name. -/
def entry? (c : Configuration) (name : Text) : Option Configuration :=
  c.entries.lookup name

/-- Puts a value under a name, in place of one that is there. -/
def putEntry (name : Text) (value : Configuration) :
    List (Text × Configuration) → List (Text × Configuration)
  | [] => [(name, value)]
  | (n, v) :: rest => if n = name then (n, value) :: rest else (n, v) :: putEntry name value rest

mutual

/-- Lays a value over the entry of a table under a name.  What is no table becomes one. -/
def merge (name : Text) (value : Configuration) (base : Configuration) : Configuration :=
  match value with
  | table es =>
    let merged := mergeAll es ((base.entry? name).getD (.table []))
    .table (putEntry name merged base.entries)
  | leaf origin v => .table (putEntry name (.leaf origin v) base.entries)
  | list origin vs => .table (putEntry name (.list origin vs) base.entries)

/-- Lays several entries over those of a table; without any, all stays as it is. -/
def mergeAll : List (Text × Configuration) → Configuration → Configuration
  | [], base => base
  | (name, value) :: rest, base => mergeAll rest (merge name value base)

end

mutual

/-- The configuration that a JSON value is.  An integer past 63 bits is rounded. -/
def ofJson (origin : Text) : Json → Configuration
  | .null => .leaf origin .nothing
  | .bool b => .leaf origin (.bool b)
  | .number (.integer i) =>
    if i.val < 0x8000000000000000 then .leaf origin (.integer i.val)
    else .leaf origin (.float (.finite (.ofInt i.val)))
  | .number (.float x) => .leaf origin (.float (.finite x))
  | .string t => .leaf origin (.text t)
  | .array vs => .list origin (ofItems origin vs)
  | .object fs => .table (ofFields origin fs)

/-- The configurations that several JSON values are. -/
def ofItems (origin : Text) : List Json → List Configuration
  | [] => []
  | v :: rest => ofJson origin v :: ofItems origin rest

/-- The entries that the fields of an object are. -/
def ofFields (origin : Text) : List (Text × Json) → List (Text × Configuration)
  | [] => []
  | (name, v) :: rest => (name, ofJson origin v) :: ofFields origin rest

end

end Configuration

end RecordFilter
