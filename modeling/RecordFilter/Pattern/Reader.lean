import RecordFilter.Pattern.Tree
import RecordFilter.Unicode.Recent
import RecordFilter.Text.WhiteSpace
import RecordFilter.Text.Digits

/-!
# Reading patterns

`Tree.ofText` reads the text of a pattern.  It goes through the text once, with the groups that are
open on a stack; every step takes at least one character, so the length of the text bounds their
number.  In verbose mode blanks and comments may stand between the parts of a pattern.
-/

namespace RecordFilter.Pattern

/-! ### Blanks -/

/-- Drops blanks and comments; `comment` is set inside a comment. -/
def dropBlanks : Bool → Text → Text
  | _, [] => []
  | true, c :: rest => dropBlanks (c ≠ '\n') rest
  | false, c :: rest =>
    if isWhiteSpace c then dropBlanks false rest
    else if c = '#' then dropBlanks true rest
    else c :: rest

/-- The text from the next part on: in verbose mode blanks and comments are dropped. -/
def skip (verbose : Bool) (t : Text) : Text :=
  if verbose then dropBlanks false t else t

/-- The text after the first character and the blanks that follow it. -/
def next (verbose : Bool) (t : Text) : Text :=
  skip verbose (t.drop 1)

/-- The character after the first one, blanks and one comment sign passed over in verbose mode. -/
def peekPast (verbose : Bool) (t : Text) : Option Char :=
  let after := t.drop 1
  if verbose then
    match after.dropWhile isWhiteSpace with
    | '#' :: rest => ((rest.dropWhile isWhiteSpace).head?).or after.head?
    | c :: _ => some c
    | [] => after.head?
  else after.head?

/-! ### Numbers and characters by their code -/

/-- Takes decimal digits, between which blanks may stand in verbose mode. -/
def takeDecimal (verbose : Bool) : Nat → Text → Text → Text × Text
  | 0, seen, t => (seen.reverse, t)
  | _ + 1, seen, [] => (seen.reverse, [])
  | fuel + 1, seen, c :: rest =>
    if isDigit c then takeDecimal verbose fuel (c :: seen) (skip verbose rest)
    else (seen.reverse, c :: rest)

/-- Reads a bound of a repetition, blanks around it allowed; `none` for no digits. -/
def readBound (verbose : Bool) (t : Text) : Except Fault (Option Nat × Text) :=
  let (digits, rest) := takeDecimal verbose (t.length + 1) [] (t.dropWhile isWhiteSpace)
  let rest := skip verbose (rest.dropWhile isWhiteSpace)
  if digits.isEmpty then .ok (none, rest)
  else
    match (Text.digits? digits).filter (· < 0x100000000) with
    | some n => .ok (some n, rest)
    | none => .error .malformed

/-- The character of a code in hexadecimal digits. -/
def charOfHex (digits : Text) : Except Fault Char :=
  let n := CharSet.hexNumber digits
  if n.isValidChar then .ok (Char.ofNat n) else .error .malformed

/-- Takes so many hexadecimal digits. -/
def takeHex (verbose : Bool) : Nat → Text → Text → Except Fault (Text × Text)
  | 0, seen, t => .ok (seen.reverse, t)
  | _ + 1, _, [] => .error .malformed
  | count + 1, seen, c :: rest =>
    if (CharSet.hexDigit? c).isSome then takeHex verbose count (c :: seen) (skip verbose rest)
    else .error .malformed

/-- Takes the characters up to a closing brace, which is dropped. -/
def takeBraced (verbose : Bool) : Nat → Text → Text → Except Fault (Text × Text)
  | 0, _, _ => .error .malformed
  | _ + 1, _, [] => .error .malformed
  | fuel + 1, seen, c :: rest =>
    if c = '\x7d' then .ok (seen.reverse, rest)
    else takeBraced verbose fuel (c :: seen) (skip verbose rest)

/-- Reads a character given by its code, after the letter that announces so many digits. -/
def readCoded (verbose : Bool) (digits : Nat) (t : Text) : Except Fault (Letter × Text) :=
  match skip verbose t with
  | [] => .error .malformed
  | c :: rest =>
    if c = '\x7b' then do
      let (code, rest) ← takeBraced verbose (rest.length + 1) [] (skip verbose rest)
      if code.isEmpty || !code.all fun d => (CharSet.hexDigit? d).isSome then .error .malformed
      else
        let char ← charOfHex code
        return (⟨char, false⟩, skip verbose rest)
    else do
      let (code, rest) ← takeHex verbose digits [] (c :: rest)
      let char ← charOfHex code
      return (⟨char, digits = 2⟩, rest)

/-! ### Escapes -/

/-- The characters with a meaning of their own. -/
def isMeta (c : Char) : Bool :=
  "\\.+*?()|[]\x7b\x7d^$#&-~".toList.contains c

/-- The characters that a backslash leaves as they are: those with a meaning of their own, and every
sign of ASCII but the angles. -/
def isEscapable (c : Char) : Bool :=
  isMeta c || (c.toNat < 128 && !c.isAlphanum && c ≠ '<' && c ≠ '>')

/-- The property that the text between braces names, and whether it is negated. -/
def namedProperty (negated : Bool) (t : Text) : Property.Query × Bool :=
  let split? : Option (Text × Text × Bool) :=
    match cutAtNotEqual t with
    | some (name, value) => some (name, value, true)
    | none =>
      ((Text.cutAt? ':' t).or (Text.cutAt? '=' t)).map fun p => (p.1, p.2, false)
  match split? with
  | some (name, value, unequal) => (.value name value, negated != unequal)
  | none => (.name t, negated)
where
  /-- A text cut at its first inequality sign. -/
  cutAtNotEqual : Text → Option (Text × Text)
    | '!' :: '=' :: rest => some ([], rest)
    | c :: rest => (cutAtNotEqual rest).map fun p => (c :: p.1, p.2)
    | [] => none

/-- Reads a property after its letter. -/
def readProperty (verbose negated : Bool) (t : Text) : Except Fault (Tree × Text) :=
  match skip verbose t with
  | [] => .error .malformed
  | c :: rest =>
    if c = '\x7b' then do
      let (name, rest) ← takeBraced verbose (rest.length + 1) [] (skip verbose rest)
      let (query, negated) := namedProperty negated name
      return (.property query negated, rest)
    else if c = '\\' then .error .malformed
    else .ok (.property (.name [c]) negated, skip verbose rest)

/-- The letters of the name of a place between braces, and the text after the brace. -/
def takePlaceName (verbose : Bool) : Nat → Text → Text → Except Fault (Text × Text)
  | 0, _, _ => .error .malformed
  | _ + 1, _, [] => .error .malformed
  | fuel + 1, seen, c :: rest =>
    if c.isAlpha || c = '-' then takePlaceName verbose fuel (c :: seen) (skip verbose rest)
    else if c = '\x7d' then .ok (seen.reverse, rest)
    else .error .malformed

/-- Reads the name of a place at words, if one follows in braces. -/
def readWordPlace (verbose : Bool) (t : Text) : Except Fault (Anchor × Text) :=
  match t with
  | c :: rest =>
    if c = '\x7b' then
      match skip verbose rest with
      | [] => .error .malformed
      | d :: more =>
        if d.isAlpha || d = '-' then do
          let (name, after) ← takePlaceName verbose (t.length + 1) [] (d :: more)
          match String.ofList name with
          | "start" => return (.wordStart, after)
          | "end" => return (.wordEnd, after)
          | "start-half" => return (.wordStartHalf, after)
          | "end-half" => return (.wordEndHalf, after)
          | _ => .error .malformed
        else .ok (.wordEdge, t)
    else .ok (.wordEdge, t)
  | [] => .ok (.wordEdge, t)

/-- Reads what a backslash begins, after the backslash. -/
def readEscape (verbose : Bool) (t : Text) : Except Fault (Tree × Text) :=
  let char (n : Nat) (rest : Text) : Except Fault (Tree × Text) :=
    .ok (.letter ⟨Char.ofNat n, false⟩, rest)
  match t with
  | [] => .error .malformed
  | c :: rest =>
    if isDigit c then .error .malformed
    else if isEscapable c then .ok (.letter ⟨c, false⟩, rest)
    else match c with
      | 'x' => (readCoded verbose 2 rest).map fun p => (.letter p.1, p.2)
      | 'u' => (readCoded verbose 4 rest).map fun p => (.letter p.1, p.2)
      | 'U' => (readCoded verbose 8 rest).map fun p => (.letter p.1, p.2)
      | 'p' => readProperty verbose false rest
      | 'P' => readProperty verbose true rest
      | 'd' => .ok (.shorthand .digit false, rest)
      | 'D' => .ok (.shorthand .digit true, rest)
      | 's' => .ok (.shorthand .space false, rest)
      | 'S' => .ok (.shorthand .space true, rest)
      | 'w' => .ok (.shorthand .word false, rest)
      | 'W' => .ok (.shorthand .word true, rest)
      | 'a' => char 7 rest
      | 'f' => char 12 rest
      | 't' => char 9 rest
      | 'n' => char 10 rest
      | 'r' => char 13 rest
      | 'v' => char 11 rest
      | 'A' => .ok (.anchor .textStart, rest)
      | 'z' => .ok (.anchor .textEnd, rest)
      | 'b' => (readWordPlace verbose rest).map fun p => (.anchor p.1, p.2)
      | 'B' => .ok (.anchor .noWordEdge, rest)
      | '<' => .ok (.anchor .wordStart, rest)
      | '>' => .ok (.anchor .wordEnd, rest)
      | _ => .error .malformed

/-! ### Classes -/

/-- A class that is open: one begun by a bracket, with the members of the class around it, or the
left side of an operation. -/
inductive ClassFrame
  | bracket (negated : Bool) (around : List ClassSet)
  | left (op : SetOp) (set : ClassSet)

/-- Applies the operation that waits for its right side, if one does. -/
def closeOperation (right : ClassSet) : List ClassFrame → ClassSet × List ClassFrame
  | .left op left :: frames => (.combined op left right, frames)
  | frames => (right, frames)

/-- The class of ASCII with a name. -/
def asciiClass? (name : Text) : Option AsciiClass :=
  match String.ofList name with
  | "alnum" => some .alnum
  | "alpha" => some .alpha
  | "ascii" => some .ascii
  | "blank" => some .blank
  | "cntrl" => some .cntrl
  | "digit" => some .digit
  | "graph" => some .graph
  | "lower" => some .lower
  | "print" => some .print
  | "punct" => some .punct
  | "space" => some .space
  | "upper" => some .upper
  | "word" => some .word
  | "xdigit" => some .xdigit
  | _ => none

/-- Reads a class of ASCII by name, after its bracket; `none` when there is none. -/
def readAsciiClass? (t : Text) : Option (ClassSet × Text) :=
  match t with
  | ':' :: rest =>
    let (negated, rest) := match rest with
      | '^' :: r => (true, r)
      | r => (false, r)
    match rest.span (· ≠ ':') with
    | (name, ':' :: ']' :: after) => (asciiClass? name).map fun k => (.ascii k negated, after)
    | _ => none
  | _ => none

/-- Drops the hyphens a class begins with, counting them. -/
def leadingHyphens (verbose : Bool) : Nat → Nat → Text → Nat × Text
  | 0, count, t => (count, t)
  | fuel + 1, count, t =>
    match t with
    | '-' :: rest => leadingHyphens verbose fuel (count + 1) (skip verbose rest)
    | _ => (count, t)

/-- Reads the opening of a class after its bracket: whether it is negated, and the hyphens and the
bracket that stand for themselves at its start, in reversed order. -/
def readClassOpening (verbose : Bool) (t : Text) : Except Fault (Bool × List ClassSet × Text) :=
  let t := skip verbose t
  let (negated, t) := match t with
    | '^' :: rest => (true, skip verbose rest)
    | _ => (false, t)
  let (count, t) := leadingHyphens verbose (t.length + 1) 0 t
  let hyphens := List.replicate count (ClassSet.letter ⟨'-', false⟩)
  match t with
  | [] => .error .malformed
  | ']' :: rest =>
    if count = 0 then
      match skip verbose rest with
      | [] => .error .malformed
      | r => .ok (negated, [.letter ⟨']', false⟩], r)
    else .ok (negated, hyphens, t)
  | _ => .ok (negated, hyphens, t)

/-- Reads one member of a class, not yet a range. -/
def readMember (verbose : Bool) (t : Text) : Except Fault (Tree × Text) :=
  match t with
  | '\\' :: rest => readEscape verbose rest
  | c :: rest => .ok (.letter ⟨c, false⟩, rest)
  | [] => .error .malformed

/-- The set of a member that is no range. -/
def memberSet : Tree → Except Fault ClassSet
  | .letter l => .ok (.letter l)
  | .shorthand kind negated => .ok (.shorthand kind negated)
  | .property query negated => .ok (.property query negated)
  | _ => .error .malformed

/-- Reads a member of a class, alone or as a range. -/
def readRange (verbose : Bool) (t : Text) : Except Fault (ClassSet × Text) := do
  let (first, rest) ← readMember verbose t
  match skip verbose rest with
  | [] => .error .malformed
  | '-' :: r =>
    let after := peekPast verbose ('-' :: r)
    if after = some ']' ∨ after = some '-' then return (← memberSet first, '-' :: r)
    else
      match skip verbose r with
      | [] => .error .malformed
      | r => do
        let (last, rest) ← readMember verbose r
        match first, last with
        | .letter a, .letter b =>
          if a.char ≤ b.char then return (.range a b, rest) else .error .malformed
        | _, _ => .error .malformed
  | r => return (← memberSet first, r)

/-- Reads a class from inside its outermost bracket to the end of that bracket. -/
def readClassFrom (verbose : Bool) :
    Nat → List ClassFrame → List ClassSet → Text → Except Fault (Tree × Text)
  | 0, _, _, _ => .error .malformed
  | fuel + 1, frames, members, t =>
    let operation (op : SetOp) (rest : Text) : Except Fault (Tree × Text) :=
      let (set, frames) := closeOperation (.ofReversed members) frames
      readClassFrom verbose fuel (.left op set :: frames) [] rest
    match skip verbose t with
    | [] => .error .malformed
    | '[' :: rest =>
      match readAsciiClass? rest with
      | some (set, rest) => readClassFrom verbose fuel frames (set :: members) rest
      | none => do
        let (negated, start, rest) ← readClassOpening verbose rest
        readClassFrom verbose fuel (.bracket negated members :: frames) start rest
    | ']' :: rest =>
      match closeOperation (.ofReversed members) frames with
      | (set, [.bracket negated _]) => .ok (.bracket negated set, rest)
      | (set, .bracket negated around :: frames) =>
        readClassFrom verbose fuel frames (.bracket negated set :: around) rest
      | _ => .error .malformed
    | '&' :: '&' :: rest => operation .intersection rest
    | '-' :: '-' :: rest => operation .difference rest
    | '~' :: '~' :: rest => operation .symmetricDifference rest
    | r => do
      let (set, rest) ← readRange verbose r
      readClassFrom verbose fuel frames (set :: members) rest

/-- Reads a class after its bracket. -/
def readClass (verbose : Bool) (t : Text) : Except Fault (Tree × Text) := do
  let (negated, start, rest) ← readClassOpening verbose t
  readClassFrom verbose (t.length + 1) [.bracket negated []] start rest

/-! ### Groups and flags -/

/-- The flag of a letter. -/
def flag? (c : Char) : Option Flag :=
  match c with
  | 'i' => some .anyCase
  | 'm' => some .multiLine
  | 's' => some .dotTakesNewline
  | 'U' => some .swapGreed
  | 'u' => some .unicode
  | 'R' => some .carriageReturn
  | 'x' => some .verbose
  | _ => none

/-- Reads flags up to the colon or parenthesis after them, which is left.  `off` is set after the
hyphen that turns flags off, `dangling` right after it. -/
def readFlags (off dangling : Bool) (changes : FlagChanges) :
    Text → Except Fault (FlagChanges × Text)
  | [] => .error .malformed
  | c :: rest =>
    if c = ':' ∨ c = ')' then
      if dangling then .error .malformed else .ok (changes.reverse, c :: rest)
    else if c = '-' then
      if off then .error .malformed else readFlags true true changes rest
    else
      match flag? c with
      | some f =>
        if changes.any (·.1 = f) then .error .malformed
        else readFlags off false ((f, !off) :: changes) rest
      | none => .error .malformed

/-- Whether a character may stand in the name of a group, at its start or further on. -/
def isNameChar (first : Bool) (c : Char) : Bool :=
  if first then c = '_' || Recent.alphabetic.has c
  else c = '_' || c = '.' || c = '[' || c = ']' || Recent.alphabetic.has c || Recent.number.has c

/-- Reads the name of a group up to its closing angle. -/
def readGroupName (t : Text) : Except Fault (Text × Text) :=
  match t.span (· ≠ '>') with
  | (first :: more, _ :: rest) =>
    if isNameChar true first && more.all (isNameChar false) then .ok (first :: more, rest)
    else .error .malformed
  | _ => .error .malformed

/-- What an opening parenthesis begins: a group, or a directive that sets flags for what follows. -/
inductive Opening
  | group (captures : Bool) (changes : FlagChanges)
  | directive (changes : FlagChanges)

/-- Reads what an opening parenthesis begins, given the names of groups before it. -/
def readOpening (names : List Text) (t : Text) : Except Fault (Opening × List Text × Text) :=
  let named (rest : Text) : Except Fault (Opening × List Text × Text) := do
    let (name, rest) ← readGroupName rest
    if names.contains name then .error .malformed
    else return (.group true [], name :: names, rest)
  match t with
  | '?' :: '=' :: _ | '?' :: '!' :: _ | '?' :: '<' :: '=' :: _ | '?' :: '<' :: '!' :: _ =>
    .error .malformed
  | '?' :: 'P' :: '<' :: rest => named rest
  | '?' :: '<' :: rest => named rest
  | '?' :: rest => do
    let (changes, rest) ← readFlags false false [] rest
    match rest with
    | ')' :: r =>
      if changes.isEmpty then .error .malformed else return (.directive changes, names, r)
    | r => return (.group false changes, names, r.drop 1)
  | _ => .ok (.group true [], names, t)

/-! ### The whole pattern -/

/-- What is open around the current sequence: a group, with the sequence before it, its own opening
and the mode to return to; or a choice, with its alternatives so far. -/
inductive Frame
  | group (before : List Tree) (captures : Bool) (changes : FlagChanges) (verbose : Bool)
  | choice (alternatives : List Tree)

/-- The value a list of changes gives a flag. -/
def changeOf (f : Flag) (changes : FlagChanges) : Option Bool :=
  changes.lookup f

/-- Whether a repetition may follow a tree: not after nothing and not after a directive. -/
def isRepeatable : Tree → Bool
  | .empty | .flags _ => false
  | _ => true

/-- Reads the bounds of a repetition after their brace, with the brace that closes them. -/
def readBounds (verbose : Bool) (t : Text) : Except Fault (Nat × Option Nat × Text) := do
  let close (least : Nat) (most : Option Nat) (rest : Text) :
      Except Fault (Nat × Option Nat × Text) :=
    match rest with
    | c :: r =>
      if c ≠ '\x7d' then .error .malformed
      else if most.any (· < least) then .error .malformed
      else .ok (least, most, skip verbose r)
    | [] => .error .malformed
  let (least, rest) ← readBound verbose (skip verbose t)
  match rest with
  | ',' :: r =>
    match skip verbose r with
    | [] => .error .malformed
    | c :: more =>
      match least with
      | none => .error .malformed
      | some least =>
        if c = '\x7d' then close least none (c :: more)
        else
          match ← readBound verbose (c :: more) with
          | (some most, rest) => close least (some most) rest
          | (none, _) => .error .malformed
  | r =>
    match least with
    | some n => close n (some n) r
    | none => .error .malformed

/-- Whether a repetition asks for as much as possible, given the text after its sign or bounds, and
the text after the sign for the contrary. -/
def readGreed (t : Text) : Bool × Text :=
  match t with
  | '?' :: rest => (false, rest)
  | _ => (true, t)

/-- The sequences that are open when the text has ended, closed. -/
def finish (current : List Tree) : List Frame → Except Fault Tree
  | [] => .ok (.ofReversed current)
  | [.choice alternatives] => .ok (.choiceOfReversed (.ofReversed current :: alternatives))
  | _ => .error .malformed

/-- Closes the innermost group: the sequence around it with the group added, the mode to return to,
and the frames around it. -/
def closeGroup (current : List Tree) : List Frame → Except Fault (List Tree × Bool × List Frame)
  | .group before captures changes verbose :: frames =>
    .ok (.group captures changes (.ofReversed current) :: before, verbose, frames)
  | .choice alternatives :: .group before captures changes verbose :: frames =>
    let choice := Tree.choiceOfReversed (.ofReversed current :: alternatives)
    .ok (.group captures changes choice :: before, verbose, frames)
  | _ => .error .malformed

/-- Reads a pattern from where the frames and the current sequence, in reversed order, have come. -/
def readFrom : Nat → Bool → List Text → List Frame → List Tree → Text → Except Fault Tree
  | 0, _, _, _, _, _ => .error .malformed
  | fuel + 1, verbose, names, frames, current, t =>
    let repeated (least : Nat) (most : Option Nat) (rest : Text) : Except Fault Tree :=
      match current with
      | body :: before =>
        let (greedy, rest) := readGreed rest
        if isRepeatable body then
          readFrom fuel verbose names frames (.repetition least most greedy body :: before) rest
        else .error .malformed
      | [] => .error .malformed
    match skip verbose t with
    | [] => finish current frames
    | c :: rest =>
      match c with
      | '(' => do
        let (opening, names, rest) ← readOpening names (skip verbose rest)
        match opening with
        | .directive changes =>
          let verbose := (changeOf .verbose changes).getD verbose
          readFrom fuel verbose names frames (.flags changes :: current) rest
        | .group captures changes =>
          let inner := (changeOf .verbose changes).getD verbose
          readFrom fuel inner names (.group current captures changes verbose :: frames) [] rest
      | ')' => do
        let (current, verbose, frames) ← closeGroup current frames
        readFrom fuel verbose names frames current rest
      | '|' =>
        match frames with
        | .choice alternatives :: frames =>
          readFrom fuel verbose names (.choice (.ofReversed current :: alternatives) :: frames) []
            rest
        | _ => readFrom fuel verbose names (.choice [.ofReversed current] :: frames) [] rest
      | '[' => do
        let (tree, rest) ← readClass verbose rest
        readFrom fuel verbose names frames (tree :: current) rest
      | '?' => repeated 0 (some 1) rest
      | '*' => repeated 0 none rest
      | '+' => repeated 1 none rest
      | '\\' => do
        let (tree, rest) ← readEscape verbose rest
        readFrom fuel verbose names frames (tree :: current) rest
      | '.' => readFrom fuel verbose names frames (.dot :: current) rest
      | '^' => readFrom fuel verbose names frames (.anchor .lineStart :: current) rest
      | '$' => readFrom fuel verbose names frames (.anchor .lineEnd :: current) rest
      | c =>
        if c = '\x7b' then
          if current.head?.any isRepeatable then do
            let (least, most, rest) ← readBounds verbose rest
            repeated least most rest
          else .error .malformed
        else readFrom fuel verbose names frames (.letter ⟨c, false⟩ :: current) rest

/-- The tree of a pattern. -/
def Tree.ofText (t : Text) : Except Fault Tree := do
  let tree ← readFrom (t.length + 1) false [] [] [] t
  if depthLimit < tree.depth .none then .error .tooDeep else return tree

end RecordFilter.Pattern
