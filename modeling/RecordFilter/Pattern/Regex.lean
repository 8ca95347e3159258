import RecordFilter.Pattern.Tree

/-!
# Regular expressions

A regular expression says which stretches of a text it matches, where some of its parts ask only
for what stands before and after a place.  The search goes once over the text with the set of
expressions that are still to be matched: `steps` gives what is left of an expression after a
character, and a place where one of them may match nothing ends the search.
-/

namespace RecordFilter

/-- What may be asked of a place between two characters.  `unicode` tells which letters make words:
those of Unicode, or those of ASCII alone. -/
inductive Place
  | textStart
  | textEnd
  | lineStart
  | lineEnd
  | lineStartAnyBreak
  | lineEndAnyBreak
  | wordEdge (unicode : Bool)
  | noWordEdge (unicode : Bool)
  | wordStart (unicode : Bool)
  | wordEnd (unicode : Bool)
  | wordStartHalf (unicode : Bool)
  | wordEndHalf (unicode : Bool)
deriving DecidableEq, Repr

namespace Place

/-- The characters of words. -/
def wordSet (unicode : Bool) : CharSet :=
  if unicode then Property.word else ⟨[(48, 57), (65, 90), (95, 95), (97, 122)]⟩

/-- Whether there is a character and it is one of a word. -/
def isWord (unicode : Bool) (c : Option Char) : Bool :=
  c.any (wordSet unicode).has

/-- Whether a place between two neighbours, absent at the ends of the text, is as asked. -/
def holds (before after : Option Char) : Place → Bool
  | textStart => before.isNone
  | textEnd => after.isNone
  | lineStart => before.isNone || before = some '\n'
  | lineEnd => after.isNone || after = some '\n'
  | lineStartAnyBreak =>
    before.isNone || before = some '\n' || (before = some '\r' && after ≠ some '\n')
  | lineEndAnyBreak =>
    after.isNone || after = some '\r' || (after = some '\n' && before ≠ some '\r')
  | wordEdge u => isWord u before != isWord u after
  | noWordEdge u => isWord u before == isWord u after
  | wordStart u => !isWord u before && isWord u after
  | wordEnd u => isWord u before && !isWord u after
  | wordStartHalf u => !isWord u before
  | wordEndHalf u => !isWord u after

end Place

/-- A regular expression. -/
inductive Regex
  /-- The empty stretch. -/
  | empty
  /-- One character of a set. -/
  | chars (set : CharSet)
  /-- The empty stretch at a place. -/
  | place (p : Place)
  /-- A group; it may remember what it matched. -/
  | group (captures : Bool) (body : Regex)
  | seq (first rest : Regex)
  | alt (left right : Regex)
  /-- At least `least` and at most `most` times the body, one after the other; `greedy` tells that
  as many as can be are tried first. -/
  | times (least : Nat) (most : Option Nat) (greedy : Bool) (body : Regex)
deriving DecidableEq, Repr

namespace Regex

/-- Whether an expression matches the empty stretch between two neighbours. -/
def matchesEmpty (before after : Option Char) : Regex → Bool
  | empty => true
  | chars _ => false
  | place p => p.holds before after
  | group _ r => r.matchesEmpty before after
  | seq a b => a.matchesEmpty before after && b.matchesEmpty before after
  | alt a b => a.matchesEmpty before after || b.matchesEmpty before after
  | times least _ _ r => least = 0 || r.matchesEmpty before after

/-- One expression after another, nothing written for an empty first one. -/
def followedBy (first rest : Regex) : Regex :=
  match first with
  | empty => rest
  | r => seq r rest

/-- What is left of an expression after the character `c`, which follows `before`.  Where the body
of a repetition matches nothing, the repetitions that are owed can be spent on that. -/
def steps (before : Option Char) (c : Char) : Regex → List Regex
  | empty => []
  | chars set => if set.has c then [empty] else []
  | place _ => []
  | group _ r => r.steps before c
  | seq a b =>
    (a.steps before c).map (followedBy · b) ++
      if a.matchesEmpty before (some c) then b.steps before c else []
  | alt a b => a.steps before c ++ b.steps before c
  | times least most greedy r =>
    if most = some 0 then []
    else
      let owed := if r.matchesEmpty before (some c) then 0 else least - 1
      (r.steps before c).map (followedBy · (times owed (most.map (· - 1)) greedy r))

/-- Whether a match of `r` begins in the rest of a text, or one of the expressions begun earlier
goes on to match. -/
def searchFrom (r : Regex) : List Regex → Option Char → Text → Bool
  | begun, before, t =>
    let live := (r :: begun).eraseDups
    live.any (·.matchesEmpty before t.head?) ||
      match t with
      | [] => false
      | c :: rest => searchFrom r (live.flatMap (·.steps before c)) (some c) rest

/-- Whether an expression matches some stretch of a text. -/
def search (r : Regex) (t : Text) : Bool :=
  searchFrom r [] none t

end Regex

end RecordFilter
