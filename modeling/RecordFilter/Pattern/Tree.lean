import RecordFilter.Unicode.Lookup

/-!
# Patterns as written

The tree of a pattern keeps what its text says: flags where they are set, classes with their
operations, repetitions with their bounds.  `Tree.depth` measures how deep constructs are nested.
-/

namespace RecordFilter.Pattern

/-- What can be wrong with the text of a pattern. -/
inductive Fault
  /-- The text follows no rule of the notation. -/
  | malformed
  /-- Constructs are nested too deep. -/
  | tooDeep
  /-- The pattern could match a part of a character, or names Unicode where it is turned off. -/
  | brokenCharacter
  /-- No property, category or script has the name. -/
  | unknownProperty
  /-- The pattern needs too much memory. -/
  | tooLarge
deriving DecidableEq, Repr

/-- A fault in a few words.  They stand for the text of the library of patterns, which also shows
the pattern and the place in it. -/
def Fault.message : Fault → String
  | malformed => "the pattern does not follow the notation"
  | tooDeep => "the pattern is nested too deep"
  | brokenCharacter => "the pattern could match a part of a character"
  | unknownProperty => "the pattern names an unknown property"
  | tooLarge => "the pattern needs too much memory"

/-- What a flag changes. -/
inductive Flag
  | anyCase
  | multiLine
  | dotTakesNewline
  | swapGreed
  | unicode
  | carriageReturn
  | verbose
deriving DecidableEq, Repr

/-- The flags a group or a directive turns on or off. -/
abbrev FlagChanges := List (Flag × Bool)

/-- The places between characters that a pattern may ask for. -/
inductive Anchor
  | lineStart
  | lineEnd
  | textStart
  | textEnd
  | wordEdge
  | noWordEdge
  | wordStart
  | wordEnd
  | wordStartHalf
  | wordEndHalf
deriving DecidableEq, Repr

/-- The classes written by a backslash and one letter. -/
inductive Shorthand
  | digit
  | space
  | word
deriving DecidableEq, Repr

/-- The classes of ASCII written by name between brackets and colons. -/
inductive AsciiClass
  | alnum | alpha | ascii | blank | cntrl | digit | graph | lower | print | punct | space | upper
  | word | xdigit
deriving DecidableEq, Repr

/-- A character as written; `byte` is set when two hexadecimal digits give it. -/
structure Letter where
  char : Char
  byte : Bool
deriving DecidableEq, Repr

/-- The operations between sets of a class. -/
inductive SetOp
  | intersection
  | difference
  | symmetricDifference
deriving DecidableEq, Repr

/-- The set between the brackets of a class. -/
inductive ClassSet
  | nothing
  | letter (l : Letter)
  | range (first last : Letter)
  | ascii (kind : AsciiClass) (negated : Bool)
  | shorthand (kind : Shorthand) (negated : Bool)
  | property (query : Property.Query) (negated : Bool)
  | bracket (negated : Bool) (set : ClassSet)
  | both (first rest : ClassSet)
  | combined (op : SetOp) (left right : ClassSet)
deriving Repr

/-- A pattern as written. -/
inductive Tree
  | empty
  | flags (changes : FlagChanges)
  | letter (l : Letter)
  | dot
  | anchor (a : Anchor)
  | shorthand (kind : Shorthand) (negated : Bool)
  | property (query : Property.Query) (negated : Bool)
  | bracket (negated : Bool) (set : ClassSet)
  /-- At least `least` and at most `most` times the body; `greedy` tells that as many as can be
  are tried first. -/
  | repetition (least : Nat) (most : Option Nat) (greedy : Bool) (body : Tree)
  | group (captures : Bool) (changes : FlagChanges) (body : Tree)
  | sequence (first rest : Tree)
  | choice (first rest : Tree)
deriving Repr

/-- The depth of a set; members joined to one another lie on one level, which `joined` tells. -/
def ClassSet.depth (joined : Bool) : ClassSet → Nat
  | .bracket _ set => set.depth false + 1
  | .both a b => max (a.depth true) (b.depth true) + if joined then 0 else 1
  | .combined _ a b => max (a.depth false) (b.depth false) + 1
  | _ => 0

/-- The kind of list a tree is an element of. -/
inductive Spine
  | none
  | sequence
  | choice
deriving DecidableEq, Repr

/-- The depth of a tree; the parts of one sequence, or of one choice, lie on one level. -/
def Tree.depth (spine : Spine) : Tree → Nat
  | .bracket _ set => set.depth false + 1
  | .repetition _ _ _ body => body.depth .none + 1
  | .group _ _ body => body.depth .none + 1
  | .sequence a b =>
    max (a.depth .none) (b.depth .sequence) + if spine = .sequence then 0 else 1
  | .choice a b => max (a.depth .none) (b.depth .choice) + if spine = .choice then 0 else 1
  | _ => 0

/-- The greatest depth of a pattern. -/
def depthLimit : Nat := 250

/-- The sequence of trees in reversed order. -/
def Tree.ofReversed : List Tree → Tree
  | [] => .empty
  | t :: rest => rest.foldl (fun acc u => .sequence u acc) t

/-- The choice between trees in reversed order. -/
def Tree.choiceOfReversed : List Tree → Tree
  | [] => .empty
  | t :: rest => rest.foldl (fun acc u => .choice u acc) t

/-- The set that joins members in reversed order. -/
def ClassSet.ofReversed : List ClassSet → ClassSet
  | [] => .nothing
  | s :: rest => rest.foldl (fun acc u => .both u acc) s

end RecordFilter.Pattern
