import Provisioner.Decimal.Numeral
import Provisioner.Json.Mismatch
import Provisioner.Text.Cursor

/-!
Reading JSON text from left to right.

A reader moves a cursor and ends with a value, or with the reason why it stopped. What is wrong with
the text has a place from the start; what is wrong with a value gets the place that the reading has
reached when the value has been left behind.
-/

namespace Provisioner

/-- What is wrong with a text. -/
inductive Slip where
  | endInList
  | endInObject
  | endInString
  | endInValue
  | noColon
  | noCommaInList
  | noCommaInObject
  | noWord
  | noValue
  | badEscape
  | badNumber
  | tooLarge
  | control
  | noKey
  | loneSurrogate
  | trailingComma
  | trailingText
  | halfEscape
  | tooDeep
  deriving Repr, DecidableEq

def Slip.message : Slip → String
  | .endInList => "EOF while parsing a list"
  | .endInObject => "EOF while parsing an object"
  | .endInString => "EOF while parsing a string"
  | .endInValue => "EOF while parsing a value"
  | .noColon => "expected \x60:\x60"
  | .noCommaInList => "expected \x60,\x60 or \x60]\x60"
  | .noCommaInObject => "expected \x60,\x60 or \x60\x7d\x60"
  | .noWord => "expected ident"
  | .noValue => "expected value"
  | .badEscape => "invalid escape"
  | .badNumber => "invalid number"
  | .tooLarge => "number out of range"
  | .control => "control character (\\u0000-\\u001F) found while parsing a string"
  | .noKey => "key must be a string"
  | .loneSurrogate => "lone leading surrogate in hex escape"
  | .trailingComma => "trailing comma"
  | .trailingText => "trailing characters"
  | .halfEscape => "unexpected end of hex escape"
  | .tooDeep => "recursion limit exceeded"

/-- Why a reading stopped, and where if that is settled. -/
structure Misreading where
  cause : Slip ⊕ Mismatch
  place : Option Place := none
  deriving Repr

namespace Misreading

def message (m : Misreading) : String :=
  (match m.cause with
    | .inl s => s.message
    | .inr v => v.message) ++
  match m.place with
  | some p => " at " ++ p.text
  | none => ""

/-- A place is settled once. -/
def settle (m : Misreading) (p : Place) : Misreading := { m with place := m.place.or (some p) }

end Misreading

abbrev Reader (α : Type) := EStateM Misreading Cursor α

namespace Reader

variable {α : Type}

def failHere (s : Slip) : Reader α := fun c => .error ⟨.inl s, some c.place⟩ c

/-- The next byte is wrong, or there is none. -/
def failAhead (s : Slip) : Reader α := fun c => .error ⟨.inl s, some c.ahead⟩ c

/-- The value is wrong; where, is settled by those who read around it. -/
def mismatch (m : Mismatch) : Reader α := fun c => .error ⟨.inr m, none⟩ c

/-- What goes wrong inside without a place is put where the reading has got to. -/
def located (r : Reader α) : Reader α := fun c =>
  match r c with
  | .ok a c => .ok a c
  | .error m c => .error (m.settle c.place) c

/-- What ends a list or an object is read in any case, but the first fault counts. -/
def closedBy (r : Reader α) (close : Reader Unit) : Reader α := fun c =>
  match r c with
  | .ok a c =>
    match close c with
    | .ok () c => .ok a c
    | .error m c => .error m c
  | .error m c =>
    match close c with
    | .ok () c | .error _ c => .error m c

/-! ### Characters -/

def isSpace (c : Char) : Bool := c == ' ' || c == '\t' || c == '\n' || c == '\r'

def peek? : Reader (Option Char) := return (← get).rest.head?

def skip : Reader Unit := modify Cursor.advance

/-- The first character after blanks, which is not taken. -/
def next? : Reader (Option Char) := do
  modify (Cursor.dropWhile isSpace)
  peek?

/-- The characters must follow one after the other. -/
def word : List Char → Reader Unit
  | [] => pure ()
  | c :: cs => do
    match ← peek? with
    | none => failAhead .endInValue
    | some d => if d = c then skip; word cs else failAhead .noWord

/-- Nothing but blanks may follow. -/
def finish : Reader Unit := do
  if (← next?).isSome then failAhead .trailingText

/-- Reading a whole text. -/
def run (r : Reader α) (s : String) : Except Misreading α :=
  match (do let a ← r; finish; return a : Reader α) (.ofString s) with
  | .ok a _ => .ok a
  | .error m _ => .error m

/-! ### Strings -/

def hexValue? (c : Char) : Option Nat :=
  if '0' ≤ c ∧ c ≤ '9' then some (c.toNat - 48)
  else if 'a' ≤ c ∧ c ≤ 'f' then some (c.toNat - 87)
  else if 'A' ≤ c ∧ c ≤ 'F' then some (c.toNat - 55)
  else none

def hexUnit? : List Char → Option (Nat × List Char)
  | a :: b :: c :: d :: rest => do
    let a ← hexValue? a
    let b ← hexValue? b
    let c ← hexValue? c
    let d ← hexValue? d
    return (4096 * a + 256 * b + 16 * c + d, rest)
  | _ => none

/-- Four hexadecimal digits. -/
def hexUnit : Reader Nat := fun c =>
  match hexUnit? c.rest with
  | some (n, rest) => .ok n ⟨rest, c.place.right 4⟩
  | none =>
    if c.bytesLeft < 4 then .error ⟨.inl .endInString, some c.toEnd.place⟩ c
    else .error ⟨.inl .badEscape, some (c.place.skip 4 c.rest)⟩ c

def isFirstHalf (unit : Nat) : Bool := 0xd800 ≤ unit && unit < 0xdc00

def isSecondHalf (unit : Nat) : Bool := 0xdc00 ≤ unit && unit < 0xe000

def secondHalfMark (c : Char) : Reader Unit := do
  match ← peek? with
  | none => failAhead .endInString
  | some d => if d = c then skip else failAhead .halfEscape

/-- A code point above `0xffff` is written as two halves, each after `\u`. -/
def codePoint : Reader Char := do
  let unit ← hexUnit
  if isSecondHalf unit then failHere .loneSurrogate
  else if isFirstHalf unit then
    secondHalfMark '\\'
    secondHalfMark 'u'
    let half ← hexUnit
    if isSecondHalf half then
      return Char.ofNat (0x10000 + 1024 * (unit - 0xd800) + (half - 0xdc00))
    else failHere .loneSurrogate
  else return Char.ofNat unit

def shortEscape? : Char → Option Char
  | '"' => some '"'
  | '\\' => some '\\'
  | '/' => some '/'
  | 'b' => some '\x08'
  | 'f' => some '\x0c'
  | 'n' => some '\n'
  | 'r' => some '\r'
  | 't' => some '\t'
  | _ => none

/-- What stands after a backslash, with `unicode` for what follows the letter for a code point. -/
def escape (unicode : Reader Char) : Reader Char := do
  match ← peek? with
  | none => failAhead .endInString
  | some 'u' => skip; unicode
  | some c =>
    match shortEscape? c with
    | some d => skip; return d
    | none => failAhead .badEscape

def stringBody : Nat → List Char → Reader String
  | 0, _ => failAhead .endInString
  | fuel + 1, acc => do
    match ← peek? with
    | none => failAhead .endInString
    | some '"' => skip; return String.ofList acc.reverse
    | some '\\' => skip; stringBody fuel ((← escape codePoint) :: acc)
    | some c => if c < ' ' then failAhead .control else skip; stringBody fuel (c :: acc)

/-- A string, from its opening quote on. -/
def string : Reader String := do
  skip
  stringBody ((← get).rest.length + 1) []

def passStringBody : Nat → Reader Unit
  | 0 => failAhead .endInString
  | fuel + 1 => do
    match ← peek? with
    | none => failAhead .endInString
    | some '"' => skip
    | some '\\' =>
      skip
      let _ ← escape do
        let _ ← hexUnit
        return ' '
      passStringBody fuel
    | some c => if c < ' ' then failHere .control else skip; passStringBody fuel

/-- A string that is not looked at; the halves of code points may stand alone in it. -/
def passString : Reader Unit := do
  skip
  passStringBody ((← get).rest.length + 1)

/-! ### Numbers -/

def isDigit (c : Char) : Bool := (Decimal.digit? c).isSome

def digits : Reader (List Char) := do
  let ds := (← get).rest.takeWhile isDigit
  modify (Cursor.dropWhile isDigit)
  return ds

/-- At least one digit. -/
def someDigits (atEnd : Slip) : Reader (List Char) := do
  match ← peek? with
  | none => failAhead atEnd
  | some c => if isDigit c then digits else failAhead .badNumber

/-- The part before the point, in which no zero stands before another digit. -/
def wholeDigits (atEnd : Slip) : Reader (List Char) := do
  match ← peek? with
  | some '0' =>
    skip
    if (← peek?).any isDigit then failAhead .badNumber
    return ['0']
  | _ => someDigits atEnd

/-- Whether the character is the next one, and then it is taken. -/
def took (p : Char → Bool) : Reader Bool := do
  if (← peek?).any p then
    skip
    return true
  else return false

def isExponentMark (c : Char) : Bool := c == 'e' || c == 'E'

/-- Whether there is a minus sign; a plus sign is passed over. -/
def exponentSign : Reader Bool := do
  if ← took (· == '-') then return true
  let _ ← took (· == '+')
  return false

/-- The leading digits that fit 64 bits together with `acc`, and how many are left out. -/
def keepDigits : Nat → List Char → Nat × Nat
  | acc, [] => (acc, 0)
  | acc, c :: cs =>
    let next := 10 * acc + (Decimal.digit? c).getD 0
    if UInt64.size ≤ next then (acc, cs.length + 1) else keepDigits next cs

/-- `m * 10 ^ e` by one multiplication or division with a power of ten. -/
def scaled? (m : Nat) (e : Int) : Option Float :=
  let f := m.toFloat
  let f := if e < -308 then f / Float.ofScientific 1 false 308 else f
  let e := if e < -308 then e + 308 else e
  if f == 0.0 ∨ e < -308 then some 0.0
  else if 308 < e then none
  else
    let power := Float.ofScientific 1 false e.natAbs
    let x := if 0 ≤ e then f * power else f / power
    if x == 1.0 / 0.0 then none else some x

def maxExponent : Nat := Int32.maxValue.toInt.toNat

/-- The value of an exponent. Where it can only be too large, the rest of it is not read. -/
def exponentValue (bounded : Bool) : Nat → List Char → Reader Nat
  | acc, [] => return acc
  | acc, c :: cs => do
    skip
    let next := 10 * acc + (Decimal.digit? c).getD 0
    if bounded && maxExponent < next then failHere .tooLarge
    else exponentValue bounded next cs

def exponent (isZero : Bool) : Reader Int := do
  if ← took isExponentMark then
    let negative ← exponentSign
    match ← peek? with
    | none => failAhead .endInValue
    | some c =>
      if isDigit c then
        let e ← exponentValue (!isZero && !negative) 0 ((← get).rest.takeWhile isDigit)
        return if negative then -(e : Int) else e
      else failAhead .badNumber
  else return 0

def decimal (negative : Bool) (kept dropped : Nat) : Reader Json := do
  let places ← if ← took (· == '.') then someDigits .endInValue else pure []
  let (kept, rest) := keepDigits kept places
  let e ← exponent (kept == 0)
  match scaled? kept (dropped + rest - places.length + e) with
  | some x => return .double (if negative then -x else x).toBits
  | none => failHere .tooLarge

/-- A number without its sign: an integer if it is written as one and fits 64 bits. -/
def magnitude (negative : Bool) : Reader Json := do
  let whole ← wholeDigits .endInValue
  let value := Decimal.valueOf whole
  let fits := if negative then value ≠ 0 ∧ value ≤ Decimal.maxInt64 + 1 else value < UInt64.size
  if fits && !(← peek?).any (fun c => c == '.' || isExponentMark c) then
    return .integer (if negative then -(value : Int) else value)
  else
    let (kept, dropped) := keepDigits 0 whole
    decimal negative kept dropped

def number : Reader Json := do magnitude (← took (· == '-'))

/-- A number that is not looked at, of any size. -/
def passNumber : Reader Unit := do
  let _ ← took (· == '-')
  let _ ← wholeDigits .badNumber
  if ← took (· == '.') then
    let _ ← someDigits .badNumber
  if ← took isExponentMark then
    let _ ← exponentSign
    let _ ← someDigits .badNumber

/-! ### Lists and objects -/

/-- Whether another element follows in a list. -/
def hasElement (first : Bool) : Reader Bool := do
  let another : Reader Bool := do
    match ← next? with
    | none => failAhead .endInValue
    | some ']' => failAhead .trailingComma
    | some _ => return true
  match ← next? with
  | none => failAhead .endInList
  | some ']' => return false
  | some c =>
    if first then return true
    else if c = ',' then
      skip
      another
    else failAhead .noCommaInList

/-- Whether another key follows in an object. -/
def hasKey (first : Bool) : Reader Bool := do
  let another : Reader Bool := do
    match ← next? with
    | none => failAhead .endInValue
    | some '"' => return true
    | some '\x7d' => failAhead .trailingComma
    | some _ => failAhead .noKey
  match ← next? with
  | none => failAhead .endInObject
  | some '\x7d' => return false
  | some c =>
    if first then another
    else if c = ',' then
      skip
      another
    else failAhead .noCommaInObject

def colon : Reader Unit := do
  match ← next? with
  | none => failAhead .endInObject
  | some ':' => skip
  | some _ => failAhead .noColon

/-- The end of a list of which no more elements are wanted. -/
def endList : Reader Unit := do
  match ← next? with
  | none => failAhead .endInList
  | some ']' => skip
  | some ',' =>
    skip
    if (← next?) = some ']' then failAhead .trailingComma else failAhead .trailingText
  | some _ => failAhead .trailingText

def endObject : Reader Unit := do
  match ← next? with
  | none => failAhead .endInObject
  | some '\x7d' => skip
  | some ',' => failAhead .trailingComma
  | some _ => failAhead .trailingText

/-- The elements of a list up to its end, which is not taken. -/
def elementsFrom (item : Reader α) : Nat → Bool → Reader (List α)
  | 0, _ => return []
  | fuel + 1, first => do
    if ← hasElement first then
      let a ← item
      return a :: (← elementsFrom item fuel false)
    else return []

/-- The text bounds the number of elements. -/
def elements (item : Reader α) : Reader (List α) := do
  elementsFrom item ((← get).rest.length + 1) true

def foldFrom {σ : Type} (step : σ → String → Reader σ) : Nat → Bool → σ → Reader σ
  | 0, _, s => return s
  | fuel + 1, first, s => do
    if ← hasKey first then
      let name ← string
      foldFrom step fuel false (← step s name)
    else return s

/-- The members of an object up to its end. The step is given the name and reads on from there. -/
def foldMembers {σ : Type} (step : σ → String → Reader σ) (s : σ) : Reader σ := do
  foldFrom step ((← get).rest.length + 1) true s

/-! ### Values that are passed over -/

inductive Bracket where
  | list
  | object
  deriving Repr, DecidableEq

namespace Bracket

def closing : Bracket → Char
  | .list => ']'
  | .object => '\x7d'

def ended : Bracket → Slip
  | .list => .endInList
  | .object => .endInObject

def noComma : Bracket → Slip
  | .list => .noCommaInList
  | .object => .noCommaInObject

end Bracket

/-- What stands before a value: in an object its key. -/
def passKey : Bracket → Reader Unit
  | .list => pure ()
  | .object => do
    match ← next? with
    | none => failAhead .endInObject
    | some '"' =>
      passString
      colon
    | some _ => failAhead .noKey

def passScalar (c : Char) : Reader Unit :=
  match c with
  | '"' => passString
  | 'n' => word ['n', 'u', 'l', 'l']
  | 't' => word ['t', 'r', 'u', 'e']
  | 'f' => word ['f', 'a', 'l', 's', 'e']
  | c => if c == '-' || isDigit c then passNumber else failAhead .noValue

mutual

/-- A value inside the brackets, and all up to the end of the outermost of them. -/
def passFrom : Nat → List Bracket → Reader Unit
  | 0, _ => pure ()
  | fuel + 1, within => do
    match ← next? with
    | none => failAhead .endInValue
    | some '[' =>
      skip
      passRest fuel false (.list :: within)
    | some '\x7b' =>
      skip
      passRest fuel false (.object :: within)
    | some c =>
      passScalar c
      passRest fuel true within

/-- What follows after an opening bracket or after a value. -/
def passRest : Nat → Bool → List Bracket → Reader Unit
  | 0, _, _ => pure ()
  | _ + 1, _, [] => pure ()
  | fuel + 1, afterValue, b :: within => do
    match ← next? with
    | none => failAhead b.ended
    | some c =>
      if afterValue && c == ',' then
        skip
        passKey b
        passFrom fuel (b :: within)
      else if c == b.closing then
        skip
        passRest fuel true within
      else if afterValue then failAhead b.noComma
      else
        passKey b
        passFrom fuel (b :: within)

end

/-- A value that is not looked at, however deep it is. -/
def passValue : Reader Unit := do passFrom (2 * (← get).rest.length + 2) []

end Reader

end Provisioner
