import RecordFilter.Text.Basic

/-!
# Splitting text

A text is cut at separators, except inside a block that an opening delimiter begins and its closing
delimiter ends; a block without its end reaches to the end of the text.  `parts` tells for every
character what it is, and `split` collects what stands between the separators.
-/

namespace RecordFilter

/-- The pairs of delimiters that make a block (`Delimiters`): the three quotation marks alone, or
parentheses and brackets as well. -/
inductive Delimiters
  | quotes
  | all
deriving DecidableEq, Repr

/-- Whether a character is one of the three quotation marks. -/
def isQuote (c : Char) : Bool :=
  c = '\x22' || c = '\x27' || c = '\x60'

/-- The delimiter that ends a block begun by a character (`Delimiters::closing`). -/
def Delimiters.closing? (d : Delimiters) (c : Char) : Option Char :=
  if isQuote c then some c
  else match d with
    | .quotes => none
    | .all => if c = '(' then some ')' else if c = '[' then some ']' else none

/-- What a character of a text is. -/
inductive Part
  | separator (c : Char)
  | delimiter (c : Char)
  | content (c : Char)
deriving DecidableEq, Repr

namespace Part

/-- The character of a part. -/
def char : Part → Char
  | separator c | delimiter c | content c => c

/-- Whether a part is a separator. -/
def isSeparator : Part → Bool
  | separator _ => true
  | _ => false

/-- What a part leaves in a fragment: with `strip`, a delimiter leaves nothing. -/
def kept? (strip : Bool) : Part → Option Char
  | separator _ => none
  | delimiter c => if strip then none else some c
  | content c => some c

end Part

/-- Tells for every character what it is, where `open?` is the delimiter that ends the open block.
Outside blocks a separator counts before a delimiter. -/
def partsFrom (separators : List Char) (d : Delimiters) : Option Char → Text → List Part
  | _, [] => []
  | some close, c :: rest =>
    if c = close then .delimiter c :: partsFrom separators d none rest
    else .content c :: partsFrom separators d (some close) rest
  | none, c :: rest =>
    if c ∈ separators then .separator c :: partsFrom separators d none rest
    else match d.closing? c with
      | some close => .delimiter c :: partsFrom separators d (some close) rest
      | none => .content c :: partsFrom separators d none rest

/-- Tells for every character of a text what it is. -/
def parts (separators : List Char) (d : Delimiters) (t : Text) : List Part :=
  partsFrom separators d none t

/-- The fragments of a text between its separators, empty ones dropped (`split`).  With `strip`, the
delimiters of blocks are dropped too. -/
def split (separators : List Char) (d : Delimiters) (strip : Bool) (t : Text) : List Text :=
  (((parts separators d t).splitOnP Part.isSeparator).map
    (·.filterMap (Part.kept? strip))).filter (!·.isEmpty)

theorem map_char_partsFrom (separators : List Char) (d : Delimiters) (o : Option Char) (t : Text) :
    (partsFrom separators d o t).map Part.char = t := by
  induction t generalizing o with
  | nil => cases o <;> rfl
  | cons c rest ih =>
    cases o with
    | some close => rw [partsFrom]; split <;> simp [Part.char, ih]
    | none =>
      rw [partsFrom]
      split
      · simp [Part.char, ih]
      · split <;> simp [Part.char, ih]

/-- No character is lost or changed by telling what it is. -/
theorem map_char_parts (separators : List Char) (d : Delimiters) (t : Text) :
    (parts separators d t).map Part.char = t :=
  map_char_partsFrom separators d none t

theorem split_nil (separators : List Char) (d : Delimiters) (strip : Bool) :
    split separators d strip [] = [] := by
  simp [split, parts, partsFrom]

end RecordFilter
