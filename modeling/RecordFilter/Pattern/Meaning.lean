import RecordFilter.Pattern.Regex
import RecordFilter.Pattern.Fold

/-!
# The meaning of a pattern

Flags decide what the parts of a pattern stand for; they hold from where they are set to the end of
the group around.  With Unicode turned off a pattern knows ASCII alone, and whatever would match a
part of a character is refused.
-/

namespace RecordFilter.Pattern

/-- The flags in force at a place of a pattern. -/
structure Modes where
  anyCase : Bool := false
  multiLine : Bool := false
  dotTakesNewline : Bool := false
  swapGreed : Bool := false
  unicode : Bool := true
  carriageReturn : Bool := false
deriving DecidableEq, Repr

/-- The modes after a flag is turned on or off. -/
def Modes.set (m : Modes) (change : Flag × Bool) : Modes :=
  match change with
  | (.anyCase, on) => { m with anyCase := on }
  | (.multiLine, on) => { m with multiLine := on }
  | (.dotTakesNewline, on) => { m with dotTakesNewline := on }
  | (.swapGreed, on) => { m with swapGreed := on }
  | (.unicode, on) => { m with unicode := on }
  | (.carriageReturn, on) => { m with carriageReturn := on }
  | (.verbose, _) => m

/-- The modes after several changes. -/
def Modes.apply (m : Modes) (changes : FlagChanges) : Modes :=
  changes.foldl Modes.set m

/-- The characters of a class of ASCII. -/
def AsciiClass.toSet : AsciiClass → CharSet
  | alnum => ⟨[(48, 57), (65, 90), (97, 122)]⟩
  | alpha => ⟨[(65, 90), (97, 122)]⟩
  | ascii => ⟨[(0, 127)]⟩
  | blank => ⟨[(9, 9), (32, 32)]⟩
  | cntrl => ⟨[(0, 31), (127, 127)]⟩
  | digit => ⟨[(48, 57)]⟩
  | graph => ⟨[(33, 126)]⟩
  | lower => ⟨[(97, 122)]⟩
  | print => ⟨[(32, 126)]⟩
  | punct => ⟨[(33, 47), (58, 64), (91, 96), (123, 126)]⟩
  | space => ⟨[(9, 13), (32, 32)]⟩
  | upper => ⟨[(65, 90)]⟩
  | word => ⟨[(48, 57), (65, 90), (95, 95), (97, 122)]⟩
  | xdigit => ⟨[(48, 57), (65, 70), (97, 102)]⟩

/-- The characters of a shorthand. -/
def Shorthand.toSet (unicode : Bool) : Shorthand → CharSet
  | digit => if unicode then Category.decimalNumber else AsciiClass.digit.toSet
  | space => if unicode then Property.whiteSpace else AsciiClass.space.toSet
  | word => if unicode then Property.word else AsciiClass.word.toSet

/-- A set closed under letter case, where the modes ask for it. -/
def Modes.fold (m : Modes) (s : CharSet) : CharSet :=
  if m.anyCase then (if m.unicode then s.caseClosure else s.asciiCaseClosure) else s

/-- The complement of a set when it is negated.  Without Unicode it would hold parts of
characters. -/
def Modes.negate (m : Modes) (negated : Bool) (s : CharSet) : Except Fault CharSet :=
  if !negated then .ok s
  else if m.unicode then .ok s.complement
  else .error .brokenCharacter

/-- A character as the modes allow it. -/
def Modes.char (m : Modes) (l : Letter) : Except Fault Char :=
  if !m.unicode && l.byte && 127 < l.char.toNat then .error .brokenCharacter else .ok l.char

/-- A character of a class: without Unicode it is one of ASCII. -/
def Modes.classChar (m : Modes) (l : Letter) : Except Fault Char :=
  if !m.unicode && 127 < l.char.toNat then .error .brokenCharacter else .ok l.char

/-- The set that a shorthand stands for. -/
def Modes.shorthand (m : Modes) (kind : Shorthand) (negated : Bool) : Except Fault CharSet :=
  m.negate negated (kind.toSet m.unicode)

/-- The set that a property stands for. -/
def Modes.property (m : Modes) (query : Property.Query) (negated : Bool) :
    Except Fault CharSet :=
  if !m.unicode then .error .brokenCharacter
  else match Property.find? query with
    | some s => m.negate negated (m.fold s)
    | none => .error .unknownProperty

/-- The result of an operation between two sets. -/
def SetOp.apply : SetOp → CharSet → CharSet → CharSet
  | intersection => .inter
  | difference => .diff
  | symmetricDifference => .symmDiff

/-- The characters of a class. -/
def ClassSet.toSet (m : Modes) : ClassSet → Except Fault CharSet
  | .nothing => .ok .empty
  | .letter l => (m.classChar l).map .singleton
  | .range a b => do return .range (← m.classChar a) (← m.classChar b)
  | .ascii kind negated => m.negate negated (m.fold kind.toSet)
  | .shorthand kind negated => m.shorthand kind negated
  | .property query negated => m.property query negated
  | .bracket negated set => do m.negate negated (m.fold (← set.toSet m))
  | .both a b => do return .union (← a.toSet m) (← b.toSet m)
  | .combined op a b => do return op.apply (m.fold (← a.toSet m)) (m.fold (← b.toSet m))

/-- The place an anchor asks for. -/
def Modes.place (m : Modes) : Anchor → Place
  | .lineStart =>
    if !m.multiLine then .textStart
    else if m.carriageReturn then .lineStartAnyBreak else .lineStart
  | .lineEnd =>
    if !m.multiLine then .textEnd
    else if m.carriageReturn then .lineEndAnyBreak else .lineEnd
  | .textStart => .textStart
  | .textEnd => .textEnd
  | .wordEdge => .wordEdge m.unicode
  | .noWordEdge => .noWordEdge m.unicode
  | .wordStart => .wordStart m.unicode
  | .wordEnd => .wordEnd m.unicode
  | .wordStartHalf => .wordStartHalf m.unicode
  | .wordEndHalf => .wordEndHalf m.unicode

/-- The characters a dot stands for. -/
def Modes.dot (m : Modes) : Except Fault CharSet :=
  if !m.unicode then .error .brokenCharacter
  else if m.dotTakesNewline then .ok .univ
  else if m.carriageReturn then .ok (.complement ⟨[(10, 10), (13, 13)]⟩)
  else .ok (.complement ⟨[(10, 10)]⟩)

/-- The expression a tree stands for, and the modes after it. -/
def Tree.meaning (m : Modes) : Tree → Except Fault (Regex × Modes)
  | .empty => .ok (.empty, m)
  | .flags changes => .ok (.empty, m.apply changes)
  | .letter l => do return (.chars (m.fold (.singleton (← m.char l))), m)
  | .dot => do return (.chars (← m.dot), m)
  | .anchor a => .ok (.place (m.place a), m)
  | .shorthand kind negated => do return (.chars (← m.shorthand kind negated), m)
  | .property query negated => do return (.chars (← m.property query negated), m)
  | .bracket negated set => do
    return (.chars (← m.negate negated (m.fold (← set.toSet m))), m)
  | .repetition least most greedy body => do
    let (r, m) ← body.meaning m
    return (.times least most (greedy != m.swapGreed) r, m)
  | .group captures changes body => do
    let (r, _) ← body.meaning (m.apply changes)
    return (.group captures r, m)
  | .sequence a b => do
    let (r, m) ← a.meaning m
    let (s, m) ← b.meaning m
    return (.seq r s, m)
  | .choice a b => do
    let (r, m) ← a.meaning m
    let (s, m) ← b.meaning m
    return (.alt r s, m)

end RecordFilter.Pattern
