import RecordFilter.Pattern.BytePath
import RecordFilter.Pattern.Regex

/-!
# Plans of expressions

The automaton of an expression is made from its plan: the expression with all that needs no state of
its own taken out.  In a plan no sequence stands in a sequence and no choice in a choice, texts are
as long as they can be, a choice between characters is a set, and what all alternatives begin with
stands before the choice.
-/

namespace RecordFilter

/-- A plan.  Sequences and choices have two parts or more, the rest of which is a sequence or choice
again. -/
inductive Plan
  | empty
  | text (t : Text)
  | set (s : CharSet) (paths : List BytePath)
  | place (p : Place)
  /-- A group that remembers what it matched. -/
  | group (body : Plan)
  | seq (first rest : Plan)
  | alt (first rest : Plan)
  | times (least : Nat) (most : Option Nat) (greedy : Bool) (body : Plan)
deriving Repr

namespace Plan

/-- Whether two plans may stand for one another.  No group may stand for another. -/
def sameAs : Plan → Plan → Bool
  | empty, empty => true
  | text t, text u => t = u
  | set s _, set t _ => s = t
  | place p, place q => p = q
  | seq a b, seq c d => a.sameAs c && b.sameAs d
  | alt a b, alt c d => a.sameAs c && b.sameAs d
  | times l m g a, times l' m' g' b => l = l' && m = m' && g = g' && a.sameAs b
  | _, _ => false

/-- The number of parts of a plan. -/
def size : Plan → Nat
  | group a | times _ _ _ a => a.size + 1
  | seq a b | alt a b => a.size + b.size + 1
  | _ => 1

/-- Whether a plan takes no character: whatever it matches is empty. -/
def takesNothing : Plan → Bool
  | empty | place _ => true
  | text _ | set _ _ => false
  | group a | times _ _ _ a => a.takesNothing
  | seq a b | alt a b => a.takesNothing && b.takesNothing

/-- Whether a plan takes a character wherever it matches. -/
def takesSome : Plan → Bool
  | empty | place _ => false
  | text _ | set _ _ => true
  | group a => a.takesSome
  | times least _ _ a => least ≠ 0 && a.takesSome
  | seq a b => a.takesSome || b.takesSome
  | alt a b => a.takesSome && b.takesSome

/-- Whether some part asks for a character of the empty set. -/
def asksForNothing : Plan → Bool
  | empty | place _ | text _ => false
  | set s _ => s.ranges.isEmpty
  | group a | times _ _ _ a => a.asksForNothing
  | seq a b | alt a b => a.asksForNothing || b.asksForNothing

/-- Whether every match begins at a given place. -/
def beginsAt (p : Place) : Plan → Bool
  | empty | text _ | set _ _ => false
  | place q => p = q
  | group a => a.beginsAt p
  | times least _ _ a => least ≠ 0 && a.beginsAt p
  | seq a b => a.beginsAt p || (a.takesNothing && b.beginsAt p)
  | alt a b => a.beginsAt p && b.beginsAt p

/-- Whether every match ends at a given place. -/
def endsAt (p : Place) : Plan → Bool
  | empty | text _ | set _ _ => false
  | place q => p = q
  | group a => a.endsAt p
  | times least _ _ a => least ≠ 0 && a.endsAt p
  | seq a b => b.endsAt p || (b.takesNothing && a.endsAt p)
  | alt a b => a.endsAt p && b.endsAt p

/-! ### Parts that follow one another -/

/-- The parts of a sequence. -/
def elements : Plan → List Plan
  | empty => []
  | seq a b => a :: b.elements
  | p => [p]

/-- The parts of a sequence of two or more. -/
def sequence? : Plan → Option (List Plan)
  | seq a b => some (a :: b.elements)
  | _ => none

/-- A plan with one part before it that is no sequence. -/
def attach (p rest : Plan) : Plan :=
  match p, rest with
  | p, empty => p
  | text t, text u => text (t ++ u)
  | text t, seq (text u) more => seq (text (t ++ u)) more
  | p, rest => seq p rest

/-- One plan after another. -/
def followedBy (first rest : Plan) : Plan :=
  first.elements.foldr attach rest

/-- Several parts, one after another. -/
def ofElements (ps : List Plan) : Plan :=
  ps.foldr followedBy empty

/-! ### Parts that stand for choice -/

/-- A character of a set; a set of one is a text. -/
def ofSet (s : CharSet) : Plan :=
  let s := s.normal
  match s.ranges with
  | [(a, b)] => if a = b then text [Char.ofNat a] else set s s.paths
  | _ => set s s.paths

/-- The alternatives of a choice. -/
def alternatives : Plan → List Plan
  | alt a b => a :: b.alternatives
  | p => [p]

/-- A choice between several plans. -/
def ofAlternatives : List Plan → Plan
  | [] => ofSet .empty
  | [p] => p
  | p :: rest => alt p (ofAlternatives rest)

/-- The set of a plan that is a text of one character. -/
def letter? : Plan → Option CharSet
  | text [c] => some (.singleton c)
  | _ => none

/-- The set of a plan that is a set. -/
def set? : Plan → Option CharSet
  | set s _ => some s
  | _ => none

/-- The set that a choice between characters, or between sets, is. -/
def union? (ps : List Plan) : Option CharSet :=
  ((ps.mapM letter?).or (ps.mapM set?)).map CharSet.unions

/-- How many parts two sequences begin with alike. -/
def sharedLength : List Plan → List Plan → Nat
  | p :: ps, q :: qs => if p.sameAs q then sharedLength ps qs + 1 else 0
  | _, _ => 0

/-- How many parts several plans begin with alike, if all are sequences. -/
def sharedByAll (ps : List Plan) : Nat :=
  match ps.mapM sequence? with
  | some (first :: others) => others.foldl (fun n s => min n (sharedLength first s)) first.length
  | _ => 0

/-- A choice with its common beginning put first, at most so many times. -/
def chooseWithin : Nat → List Plan → Plan
  | 0, ps => ofAlternatives ps
  | fuel + 1, ps =>
    match ps.flatMap alternatives with
    | [] => ofAlternatives []
    | [p] => p
    | first :: others =>
      match union? (first :: others) with
      | some s => ofSet s
      | none =>
        let n := sharedByAll (first :: others)
        if n = 0 then ofAlternatives (first :: others)
        else
          let rests := (first :: others).map fun p => ofElements (p.elements.drop n)
          followedBy (ofElements (first.elements.take n)) (chooseWithin fuel rests)

/-- A choice between several plans, with its common beginning put first. -/
def choose (ps : List Plan) : Plan :=
  match ps with
  | [p] => p
  | _ => chooseWithin (ps.foldr (fun p n => p.size + n) 1) ps

/-! ### Repetition -/

/-- A repetition.  What takes no character is repeated once at most. -/
def repeated (least : Nat) (most : Option Nat) (greedy : Bool) (p : Plan) : Plan :=
  let (least, most) :=
    if p.takesNothing then (min least 1, some (min (most.getD 1) 1)) else (least, most)
  if most = some 0 then empty
  else if least = 1 ∧ most = some 1 then p
  else times least most greedy p

/-! ### The plan of an expression -/

/-- The plans of the alternatives of an expression. -/
def branches : Regex → List Plan
  | .empty => [empty]
  | .chars s => [ofSet s]
  | .place p => [place p]
  | .group captures r =>
    let body := choose (branches r)
    [if captures then group body else body]
  | .seq a b => [followedBy (choose (branches a)) (choose (branches b))]
  | .alt a b => choose (branches a) :: branches b
  | .times least most greedy r => [repeated least most greedy (choose (branches r))]

/-- The plan of an expression. -/
def ofRegex (r : Regex) : Plan :=
  choose (branches r)

end Plan

end RecordFilter
