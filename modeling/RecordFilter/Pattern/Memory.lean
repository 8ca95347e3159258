import RecordFilter.Pattern.Plan
import RecordFilter.Pattern.SetStates

/-!
# The memory of a pattern

A pattern is searched for by two automata for the bytes of its matches, one that reads forwards and
one that reads backwards.  A pattern is refused when either would pass ten mebibytes.
-/

namespace RecordFilter

/-- The ways to read a text. -/
inductive Direction
  | forwards
  | backwards
deriving DecidableEq, Repr

namespace Usage

/-- The greatest memory of an automaton. -/
def limit : Nat := 10 * 1024 * 1024

/-- So many times one step after another; past the limit it does not matter how far. -/
def repeated (step : Usage → Usage) : Nat → Usage → Usage
  | 0, u => u
  | n + 1, u => if limit < u.bytes then u else repeated step n (step u)

/-- With the states that read a character of a set.  Characters of ASCII need two. -/
def addSet (d : Direction) (s : CharSet) (paths : List BytePath) (u : Usage) : Usage :=
  if s.isAscii then u.add 2 (8 * paths.length)
  else match d with
    | .forwards => u.addForwards paths
    | .backwards => u.addBackwards paths

/-! ### Choices between texts -/

/-- The words that stand between empty ones; several empty ones at the start count as one. -/
def wordRuns (words : List (List Nat)) : List (List (List Nat)) :=
  let words := match words with
    | [] :: rest => [] :: rest.dropWhile (·.isEmpty)
    | ws => ws
  words.splitOn []

/-- The words by their first numbers: each number with what follows it. -/
def byFirst (words : List (List Nat)) : List (List (List Nat)) :=
  (words.filterMap List.head?).eraseDups.map fun b =>
    words.filterMap fun w => if w.head? = some b then some w.tail else none

/-- With the states for a choice between words, some not empty, that begin at one state: a state for
every run of words and one that joins the runs, and so on for what follows the first numbers. -/
def addWords : Nat → List (List Nat) → Usage → Usage
  | 0, _, u => u
  | fuel + 1, words, u =>
    let runs := (wordRuns words).map byFirst
    let filled := runs.filter (!·.isEmpty)
    let u := filled.foldl (fun u run => u.add 1 (if run.length = 1 then 0 else 8 * run.length)) u
    let u := u.add 1 (4 * (filled.length + (runs.length - 1)))
    (filled.flatMap id).foldl (fun u rest =>
      if rest.all (·.isEmpty) then u else addWords fuel rest u) u

/-- With the states for a choice between texts. -/
def addTexts (d : Direction) (texts : List Text) (u : Usage) : Usage :=
  let words := texts.map fun t =>
    let bytes := t.flatMap fun c => utf8Bytes c.toNat
    match d with
    | .forwards => bytes
    | .backwards => bytes.reverse
  addWords (words.foldr (fun w n => w.length + n) 1) words (u.add 1 0)

end Usage

namespace Plan

/-- The texts of a choice, if all alternatives are texts. -/
def texts? (p : Plan) : Option (List Text) :=
  p.alternatives.mapM fun
    | text t => some t
    | _ => none

/-- Where a plan stands in a choice: alone, or as the second alternative or a later one. -/
inductive Standing
  | alone
  | second
  | later
deriving DecidableEq, Repr

/-- With what joins a part to the alternatives before it. -/
def Standing.join (s : Standing) (u : Usage) : Usage :=
  match s with
  | alone => u
  | second => u.add 2 8
  | later => u.add 0 4

/-- With the states of a plan. -/
def addStates (d : Direction) (standing : Standing) : Plan → Usage → Usage
  | alt a b, u =>
    match standing with
    | .alone =>
      match (alt a b).texts? with
      | some texts => u.addTexts d texts
      | none => b.addStates d .second (a.addStates d .alone u)
    | _ => b.addStates d .later (standing.join (a.addStates d .alone u))
  | empty, u => standing.join (u.add 1 0)
  | text t, u => standing.join (u.add (t.foldr (fun c n => (utf8Bytes c.toNat).length + n) 0) 0)
  | set s paths, u => standing.join (u.addSet d s paths)
  | place _, u => standing.join (u.add 1 0)
  | group a, u =>
    standing.join <| match d with
      | .forwards => (a.addStates d .alone (u.add 1 0)).add 1 0
      | .backwards => a.addStates d .alone u
  | seq a b, u =>
    standing.join <| match d with
      | .forwards => b.addStates d .alone (a.addStates d .alone u)
      | .backwards => a.addStates d .alone (b.addStates d .alone u)
  | times least most _ a, u =>
    let copy := a.addStates d .alone
    standing.join <| match least, most with
      | 0, some 1 => (copy (u.add 1 8)).add 1 0
      | 0, none => if a.takesSome && !a.asksForNothing then copy (u.add 1 8) else (copy u).add 3 16
      | _, none => (u.repeated copy least).add 1 8
      | _, some most =>
        let u := if least = 0 then u.add 1 0 else u.repeated copy least
        if most = least then u
        else (u.add 1 0).repeated (fun u => copy (u.add 1 8)) (most - least)

/-- The states of the automaton of a plan.  Unless matches begin where reading begins, the automaton
goes round at its start; forwards it remembers where the match begins and ends. -/
def usage (d : Direction) (p : Plan) : Usage :=
  let fixed := match d with
    | .forwards => p.beginsAt .textStart
    | .backwards => p.endsAt .textEnd
  let start : Usage := if fixed then ⟨1, 0⟩ else ⟨3, 16⟩
  (addStates d .alone (match d with
    | .forwards => group p
    | .backwards => p) start).add 1 0

/-- Whether both automata of a plan keep to the limit. -/
def fits (p : Plan) : Bool :=
  (p.usage .forwards).bytes ≤ Usage.limit && (p.usage .backwards).bytes ≤ Usage.limit

end Plan

end RecordFilter
