import RecordFilter.Json.Value
import RecordFilter.Unicode.CharSet
import RecordFilter.Number.Rounding

/-!
# Reading JSON

A reader takes a value from the start of a text and returns the rest.  Where it stops for a fault it
says what it missed and where: columns count bytes, and a fault found at a character that was only
looked at lies one column behind it.  Values nest at most 127 deep.  An integer that does not fit 64
bits, and any number with a point or an exponent, becomes a number of double precision: its leading
digits that fit 64 bits, multiplied or divided by a power of ten.
-/

namespace RecordFilter

/-- What a reader of JSON missed. -/
inductive JsonFault
  | endInArray
  | endInObject
  | endInString
  | endInValue
  | missingColon
  | missingCommaInArray
  | missingCommaInObject
  | badWord
  | missingValue
  | badEscape
  | badNumber
  | numberTooLarge
  | controlInString
  | keyNoString
  | loneSurrogate
  | trailingComma
  | trailingText
  | brokenPair
  | tooDeep
deriving DecidableEq, Repr

/-- The wording of a fault. -/
def JsonFault.message : JsonFault → String
  | endInArray => "EOF while parsing a list"
  | endInObject => "EOF while parsing an object"
  | endInString => "EOF while parsing a string"
  | endInValue => "EOF while parsing a value"
  | missingColon => "expected `:`"
  | missingCommaInArray => "expected `,` or `]`"
  | missingCommaInObject => "expected `,` or `\x7d`"
  | badWord => "expected ident"
  | missingValue => "expected value"
  | badEscape => "invalid escape"
  | badNumber => "invalid number"
  | numberTooLarge => "number out of range"
  | controlInString => "control character (\\u0000-\\u001F) found while parsing a string"
  | keyNoString => "key must be a string"
  | loneSurrogate => "lone leading surrogate in hex escape"
  | trailingComma => "trailing comma"
  | trailingText => "trailing characters"
  | brokenPair => "unexpected end of hex escape"
  | tooDeep => "recursion limit exceeded"

/-- A fault with the place it was found at: so many bytes behind the start of `rest`. -/
structure JsonStop where
  fault : JsonFault
  rest : Text
  ahead : Nat
deriving Repr

/-- A fault with its line and column. -/
structure JsonError where
  fault : JsonFault
  line : Nat
  column : Nat
deriving DecidableEq, Repr

/-- The wording of an error, place included. -/
def JsonError.message (e : JsonError) : String :=
  e.fault.message ++ " at line " ++ toString e.line ++ " column " ++ toString e.column

namespace Json

/-- The bytes of a text in UTF-8. -/
def byteSize (t : Text) : Nat :=
  t.foldr (fun c n => c.utf8Size + n) 0

/-- Line and column reached after `left` bytes of a text, from a given line and column. -/
def placeAfter : Nat → Text → Nat → Nat → Nat × Nat
  | _, [], line, column => (line, column)
  | left, c :: rest, line, column =>
    if left < c.utf8Size then (line, column + left)
    else if c = '\n' then placeAfter (left - c.utf8Size) rest (line + 1) 0
    else placeAfter (left - c.utf8Size) rest line (column + c.utf8Size)

/-- The error of a stop in a text. -/
def locate (whole : Text) (stop : JsonStop) : JsonError :=
  let offset := byteSize whole - byteSize stop.rest + stop.ahead
  let (line, column) := placeAfter (min offset (byteSize whole)) whole 1 0
  ⟨stop.fault, line, column⟩

/-- Stops at the start of `rest`. -/
def stopHere {α : Type} (fault : JsonFault) (rest : Text) : Except JsonStop α :=
  .error ⟨fault, rest, 0⟩

/-- Stops at the first character of `rest`. -/
def stopNext {α : Type} (fault : JsonFault) (rest : Text) : Except JsonStop α :=
  .error ⟨fault, rest, 1⟩

/-- The blanks between the parts of a value. -/
def isBlank (c : Char) : Bool :=
  c = ' ' || c = '\n' || c = '\t' || c = '\r'

/-- A text without the blanks it begins with. -/
def skipBlanks (t : Text) : Text :=
  t.dropWhile isBlank

/-- Takes a word that stands for a value. -/
def readWord (value : Json) : Text → Text → Except JsonStop (Json × Text)
  | [], t => .ok (value, t)
  | _ :: _, [] => stopHere .endInValue []
  | w :: word, c :: rest =>
    if c = w then readWord value word rest else stopNext .badWord (c :: rest)

/-! ### Numbers -/

/-- Takes the digits that leave the significand below 2^64, counting them. -/
def takeSignificand : Nat → Nat → Text → Nat × Nat × Text
  | significand, count, [] => (significand, count, [])
  | significand, count, c :: rest =>
    match digit? c with
    | some d =>
      if 10 * significand + d < 0x10000000000000000 then
        takeSignificand (10 * significand + d) (count + 1) rest
      else (significand, count, c :: rest)
    | none => (significand, count, c :: rest)

/-- Whether a text begins with a digit. -/
def startsWithDigit : Text → Bool
  | c :: _ => isDigit c
  | [] => false

/-- Divides by ten to the power of `e`, in steps of 308 places until nothing is left. -/
def scaleDown : Nat → Double → Nat → Double
  | 0, _, _ => .zero
  | fuel + 1, x, e =>
    if e ≤ 308 then (x.div? (.tenPower e)).getD .zero
    else if x.code.val = 0 then x
    else scaleDown fuel ((x.div? (.tenPower 308)).getD .zero) (e - 308)

/-- The number `significand · 10 ^ e`, unless it is infinite. -/
def scaleNumber? (significand : Nat) (e : Int) : Option Double :=
  let x := Double.ofInt significand
  if e < 0 then some (scaleDown 8 x e.natAbs)
  else if e ≤ 308 then x.mul? (.tenPower e.natAbs)
  else if significand = 0 then some x
  else none

/-- A number of double precision with its sign. -/
def finish (negative : Bool) (significand : Nat) (e : Int) (rest : Text) :
    Except JsonStop (Number × Text) :=
  match scaleNumber? significand e with
  | some x => .ok (.float (if negative then x.neg else x), rest)
  | none => stopHere .numberTooLarge rest

/-- Takes the digits of an exponent; when they pass 31 bits, `none` and what follows the digit that
did it. -/
def takeExponent : Nat → Text → Option Nat × Text
  | e, [] => (some e, [])
  | e, c :: rest =>
    match digit? c with
    | some d => if 10 * e + d < 0x80000000 then takeExponent (10 * e + d) rest else (none, rest)
    | none => (some e, c :: rest)

/-- Reads an exponent after its letter. -/
def readExponent (negative : Bool) (significand : Nat) (start : Int) (t : Text) :
    Except JsonStop (Number × Text) :=
  let (down, digits) := match t with
    | '+' :: r => (false, r)
    | '-' :: r => (true, r)
    | r => (false, r)
  if digits.isEmpty then stopHere .endInValue []
  else if !startsWithDigit digits then stopNext .badNumber digits
  else
    match takeExponent 0 digits with
    | (some e, rest) => finish negative significand (if down then start - e else start + e) rest
    | (none, rest) =>
      if significand ≠ 0 ∧ down = false then stopHere .numberTooLarge rest
      else .ok (.float (.signedZero negative), rest.dropWhile isDigit)

/-- Reads what may follow the digits of a number: an exponent. -/
def readEnd (negative : Bool) (significand : Nat) (e : Int) (t : Text) :
    Except JsonStop (Number × Text) :=
  match t with
  | c :: rest =>
    if c = 'e' ∨ c = 'E' then readExponent negative significand e rest
    else finish negative significand e t
  | [] => finish negative significand e t

/-- Reads the digits after a point. -/
def readFraction (negative : Bool) (significand : Nat) (start : Int) (t : Text) :
    Except JsonStop (Number × Text) :=
  let (significand, count, rest) := takeSignificand significand 0 t
  if startsWithDigit rest then
    readEnd negative significand (start - count) (rest.dropWhile isDigit)
  else if count = 0 then
    stopNext (if rest.isEmpty then .endInValue else .badNumber) rest
  else readEnd negative significand (start - count) rest

/-- The integer of a significand, or the nearest number of double precision when it does not fit or
is a negative zero. -/
def wholeNumber (negative : Bool) (significand : Nat) : Number :=
  let i : Int := if negative then -(significand : Int) else significand
  match Integer.ofInt? i with
  | some w => if negative ∧ significand = 0 then .float (.signedZero true) else .integer w
  | none => .float (.ofInt i)

/-- Reads what follows the whole part of a number. -/
def readAfterWhole (negative : Bool) (significand : Nat) (t : Text) :
    Except JsonStop (Number × Text) :=
  match t with
  | '.' :: rest => readFraction negative significand 0 rest
  | c :: rest =>
    if c = 'e' ∨ c = 'E' then readExponent negative significand 0 rest
    else .ok (wholeNumber negative significand, t)
  | [] => .ok (wholeNumber negative significand, t)

/-- Reads a number whose whole part has more digits than the significand holds. -/
def readLong (negative : Bool) (significand : Nat) (t : Text) : Except JsonStop (Number × Text) :=
  let extra := (t.takeWhile isDigit).length
  match t.dropWhile isDigit with
  | '.' :: rest => readFraction negative significand extra rest
  | rest => readEnd negative significand extra rest

/-- Reads a number after its sign. -/
def readNumber (negative : Bool) (t : Text) : Except JsonStop (Number × Text) :=
  match t with
  | [] => stopHere .endInValue []
  | '0' :: rest =>
    if startsWithDigit rest then stopNext .badNumber rest else readAfterWhole negative 0 rest
  | c :: _ =>
    if isDigit c then
      let (significand, _, rest) := takeSignificand 0 0 t
      if startsWithDigit rest then readLong negative significand rest
      else readAfterWhole negative significand rest
    else stopNext .badNumber t

/-! ### Strings -/

/-- The number of four hexadecimal digits. -/
def hexQuad? (a b c d : Char) : Option Nat := do
  let a ← CharSet.hexDigit? a
  let b ← CharSet.hexDigit? b
  let c ← CharSet.hexDigit? c
  let d ← CharSet.hexDigit? d
  return ((a * 16 + b) * 16 + c) * 16 + d

/-- Reads four hexadecimal digits. -/
def readHex (t : Text) : Except JsonStop (Nat × Text) :=
  let bad : Except JsonStop (Nat × Text) :=
    if byteSize t < 4 then stopHere .endInString [] else .error ⟨.badEscape, t, 4⟩
  match t with
  | a :: b :: c :: d :: rest =>
    match hexQuad? a b c d with
    | some n => .ok (n, rest)
    | none => bad
  | _ => bad

/-- Reads a character given by its code after `\u`; one beyond 16 bits is given by a pair. -/
def readCode (t : Text) : Except JsonStop (Char × Text) := do
  let (n, rest) ← readHex t
  if 0xDC00 ≤ n ∧ n ≤ 0xDFFF then stopHere .loneSurrogate rest
  else if n < 0xD800 ∨ 0xDBFF < n then .ok (Char.ofNat n, rest)
  else
    match rest with
    | [] => stopHere .endInString []
    | '\\' :: r =>
      match r with
      | [] => stopHere .endInString []
      | 'u' :: r =>
        let (m, rest) ← readHex r
        if m < 0xDC00 ∨ 0xDFFF < m then stopHere .loneSurrogate rest
        else .ok (Char.ofNat (0x10000 + (n - 0xD800) * 1024 + (m - 0xDC00)), rest)
      | _ => stopNext .brokenPair r
    | _ => stopNext .brokenPair rest

/-- Reads an escaped character after its backslash. -/
def readEscape (t : Text) : Except JsonStop (Char × Text) :=
  match t with
  | [] => stopHere .endInString []
  | c :: rest =>
    if c = '\x22' ∨ c = '\\' ∨ c = '/' then .ok (c, rest)
    else if c = 'b' then .ok (Char.ofNat 8, rest)
    else if c = 'f' then .ok (Char.ofNat 12, rest)
    else if c = 'n' then .ok ('\n', rest)
    else if c = 'r' then .ok ('\r', rest)
    else if c = 't' then .ok ('\t', rest)
    else if c = 'u' then readCode rest
    else stopNext .badEscape t

/-- Reads a string after its opening quotation mark, the characters so far reversed. -/
def readChars : Nat → Text → Text → Except JsonStop (Text × Text)
  | 0, _, t => stopHere .endInString t
  | _ + 1, _, [] => stopHere .endInString []
  | fuel + 1, seen, c :: rest =>
    if c = '\x22' then .ok (seen.reverse, rest)
    else if c = '\\' then do
      let (d, rest) ← readEscape rest
      readChars fuel (d :: seen) rest
    else if c.toNat < 32 then stopHere .controlInString rest
    else readChars fuel (c :: seen) rest

/-- Reads a string after its opening quotation mark. -/
def readString (t : Text) : Except JsonStop (Text × Text) :=
  readChars (t.length + 1) [] t

/-! ### Arrays and objects -/

/-- Reads the items of an array after its bracket, the items so far reversed.  `first` is set until
the first item has been read. -/
def readItems (item : Text → Except JsonStop (Json × Text)) :
    Nat → Bool → List Json → Text → Except JsonStop (List Json × Text)
  | 0, _, _, t => stopHere .endInArray t
  | fuel + 1, first, seen, t =>
    match skipBlanks t with
    | [] => stopNext .endInArray []
    | ']' :: rest => .ok (seen.reverse, rest)
    | c :: rest =>
      if first then do
        let (v, rest) ← item (c :: rest)
        readItems item fuel false (v :: seen) rest
      else if c = ',' then
        match skipBlanks rest with
        | [] => stopNext .endInValue []
        | ']' :: r => stopNext .trailingComma (']' :: r)
        | r => do
          let (v, rest) ← item r
          readItems item fuel false (v :: seen) rest
      else stopNext .missingCommaInArray (c :: rest)

/-- Reads a field: its name after the quotation mark, a colon, its value. -/
def readField (item : Text → Except JsonStop (Json × Text)) (t : Text) :
    Except JsonStop ((Text × Json) × Text) := do
  let (name, rest) ← readString t
  match skipBlanks rest with
  | ':' :: r => do
    let (v, rest) ← item r
    return ((name, v), rest)
  | [] => stopNext .endInObject []
  | r => stopNext .missingColon r

/-- Reads the fields of an object after its brace. -/
def readFields (item : Text → Except JsonStop (Json × Text)) :
    Nat → Bool → List (Text × Json) → Text → Except JsonStop ((List (Text × Json)) × Text)
  | 0, _, _, t => stopHere .endInObject t
  | fuel + 1, first, seen, t =>
    match skipBlanks t with
    | [] => stopNext .endInObject []
    | c :: rest =>
      if c = '\x7d' then .ok (seen, rest)
      else if first then
        if c = '\x22' then do
          let ((name, v), rest) ← readField item rest
          readFields item fuel false (insertField name v seen) rest
        else stopNext .keyNoString (c :: rest)
      else if c = ',' then
        match skipBlanks rest with
        | [] => stopNext .endInValue []
        | d :: r =>
          if d = '\x22' then do
            let ((name, v), rest) ← readField item r
            readFields item fuel false (insertField name v seen) rest
          else if d = '\x7d' then stopNext .trailingComma (d :: r)
          else stopNext .keyNoString (d :: r)
      else stopNext .missingCommaInObject (c :: rest)

/-- Reads a value that may nest `depth - 1` levels of arrays and objects. -/
def readValue : Nat → Text → Except JsonStop (Json × Text)
  | 0, t => stopNext .tooDeep t
  | depth + 1, t =>
    match skipBlanks t with
    | [] => stopNext .endInValue []
    | c :: rest =>
      if c = 'n' then readWord .null ['u', 'l', 'l'] rest
      else if c = 't' then readWord (.bool true) ['r', 'u', 'e'] rest
      else if c = 'f' then readWord (.bool false) ['a', 'l', 's', 'e'] rest
      else if c = '-' then (readNumber true rest).map fun p => (.number p.1, p.2)
      else if isDigit c then (readNumber false (c :: rest)).map fun p => (.number p.1, p.2)
      else if c = '\x22' then (readString rest).map fun p => (.string p.1, p.2)
      else if c = '[' then
        if depth = 0 then stopNext .tooDeep (c :: rest)
        else (readItems (readValue depth) (rest.length + 1) true [] rest).map
          fun p => (.array p.1, p.2)
      else if c = '\x7b' then
        if depth = 0 then stopNext .tooDeep (c :: rest)
        else (readFields (readValue depth) (rest.length + 1) true [] rest).map
          fun p => (.object p.1, p.2)
      else stopNext .missingValue (c :: rest)

/-- The number of levels at which a value is refused. -/
def depthLimit : Nat := 128

/-- Reads a text that holds one value and nothing else. -/
def readAll (t : Text) : Except JsonStop Json := do
  let (v, rest) ← readValue depthLimit t
  match skipBlanks rest with
  | [] => return v
  | r => stopNext .trailingText r

/-- Reads one value. -/
def ofText (t : Text) : Except JsonError Json :=
  (readAll t).mapError (locate t)

/-- Whether a value that ends with a letter or a digit may be followed by this text. -/
def endsValue : Text → Bool
  | [] => true
  | c :: _ => isBlank c || ['\x22', '[', ']', '\x7b', '\x7d', ',', ':'].contains c

/-- Reads the values of a text one after the other; a stop comes with the number of values before
it. -/
def readStream : Nat → Nat → Text → Except (Nat × JsonStop) (List Json)
  | 0, _, _ => .ok []
  | fuel + 1, count, t =>
    match skipBlanks t with
    | [] => .ok []
    | c :: r =>
      match readValue depthLimit (c :: r) with
      | .error stop => .error (count, stop)
      | .ok (v, rest) =>
        if ['\x22', '[', '\x7b'].contains c || endsValue rest then
          (readStream fuel (count + 1) rest).map (v :: ·)
        else .error (count, ⟨.trailingText, rest, 1⟩)

/-- Reads the values of a text; an error comes with the number of values before it. -/
def streamOfText (t : Text) : Except (Nat × JsonError) (List Json) :=
  (readStream (t.length + 1) 0 t).mapError fun p => (p.1, locate t p.2)

end Json

end RecordFilter
