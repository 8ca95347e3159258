import RecordFilter.Query.Chain

/-!
# Tokens

A token is a condition when a colon stands in it before any quotation mark; a backslash takes the
meaning from the character after it.  The text before the colon is the key, the text after it holds
the arguments.  Every other token is free text, without the quotation marks around it.
-/

namespace RecordFilter

/-- A token of a query (`Classified`). -/
inductive Token
  | condition (key args : Text)
  | freeText (t : Text)
deriving DecidableEq, Repr

namespace Token

/-- Cuts a token at the colon that ends its key; `escaped` tells that a backslash stands before. -/
def cutKey? : Bool → Text → Option (Text × Text)
  | _, [] => none
  | true, c :: rest => (cutKey? false rest).map fun p => (c :: p.1, p.2)
  | false, c :: rest =>
    if c = ':' then some ([], rest)
    else if isQuote c then none
    else (cutKey? (c = '\\') rest).map fun p => (c :: p.1, p.2)

/-- Drops the backslash before every colon that has one. -/
def plainColons : Text → Text
  | [] => []
  | [c] => [c]
  | c :: d :: rest =>
    if c = '\\' ∧ d = ':' then ':' :: plainColons rest else c :: plainColons (d :: rest)

/-- The text between the quotation marks at both ends. -/
def unquoted? : Text → Option Text
  | [] => none
  | c :: rest => if isQuote c ∧ rest.getLast? = some c then some rest.dropLast else none

/-- The free text of a token (`unwrap_free_text`). -/
def plainText (token : Text) : Text :=
  (unquoted? token).getD (plainColons token)

/-- Reads a token (`classify`). -/
def ofText (token : Text) : Token :=
  match cutKey? false token with
  | some (key, args) => condition (plainColons key) args
  | none => freeText (plainText token)

/-- The key and the arguments of a condition. -/
def condition? : Token → Option (Text × Text)
  | condition key args => some (key, args)
  | freeText _ => none

/-- The text of a piece of free text. -/
def freeText? : Token → Option Text
  | condition _ _ => none
  | freeText t => some t

end Token

end RecordFilter
