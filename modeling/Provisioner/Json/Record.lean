import Provisioner.Json.Parser
import Provisioner.Text.Moment

/-!
Reading JSON text for which it is known what it should hold.

What comes out of a reader for a record is the JSON of its fields and of nothing else; members that
are no fields are passed over, whatever they hold.
-/

namespace Provisioner.Reader

variable {α : Type}

/-- The value that comes next is of another type. A list or an object is not entered. -/
def unexpected (expected : String) : Reader α := located do
  match ← next? with
  | none => failAhead .endInValue
  | some '[' => mismatch (.wrongType (.array []) expected)
  | some '\x7b' => mismatch (.wrongType (.object []) expected)
  | some c => mismatch (.wrongType (← scalar c) expected)

def text (expected : String) : Reader String := do
  if (← next?) = some '"' then string else unexpected expected

def anyText : Reader String := text "a string"

/-- A text that must be the given one. -/
def exactly (s : String) : Reader String := do
  let t ← anyText
  if t = s then return t
  else mismatch (.wrongValue (Json.string t).kind s)

/-- An integer within bounds. -/
def integer (least greatest : Int) (expected : String) : Reader Int := located do
  if (← next?).any fun c => c == '-' || isDigit c then
    match ← number with
    | .integer n =>
      if least ≤ n ∧ n ≤ greatest then return n
      else mismatch (.wrongValue (Json.integer n).kind expected)
    | j => mismatch (.wrongType j expected)
  else unexpected expected

def int64 : Reader Int := integer Int64.minValue.toInt Int64.maxValue.toInt "i64"

def int32 : Reader Int := integer Int32.minValue.toInt Int32.maxValue.toInt "i32"

def nat16 : Reader Int := integer 0 (UInt16.size - 1) "u16"

def flag : Reader Bool := located do
  match ← next? with
  | some 't' => do
    word ['t', 'r', 'u', 'e']
    return true
  | some 'f' => do
    word ['f', 'a', 'l', 's', 'e']
    return false
  | _ => unexpected "a boolean"

/-- A text that tells a moment. -/
def moment : Reader String := located do
  let s ← text "an RFC 3339 formatted date and time string"
  match Moment.read s with
  | .ok _ => return s
  | .error f => mismatch (.unreadable f.message)

/-- Nothing for null. -/
def optional (item : Reader Json) : Reader Json := do
  if (← next?) = some 'n' then
    word ['n', 'u', 'l', 'l']
    return .null
  else item

/-- A list or an object, which is read to its end in any case. -/
def bracketed (body : Reader α) (close : Reader Unit) : Reader α := do
  skip
  located (closedBy body close)

def list (item : Reader Json) : Reader Json := do
  if (← next?) = some '[' then return .array (← bracketed (elements item) endList)
  else unexpected "a sequence"

/-- An object as a map from names; of two members of one name the later stays. -/
def map (item : Reader Json) : Reader Json := do
  if (← next?) = some '\x7b' then
    let member (ms : Json.Members) (name : String) : Reader Json.Members := do
      colon
      return ms.put name (← item)
    return .object (← bracketed (foldMembers member []) endObject)
  else unexpected "a map"

/-! ### Words -/

/-- A null. Where values were set aside before they are looked at, an empty object does as well. -/
def nothing (setAside : Bool) : Reader Unit := do
  match ← next? with
  | some 'n' => word ['n', 'u', 'l', 'l']
  | some '\x7b' =>
    if setAside then
      skip
      endObject
    else unexpected "unit"
  | _ => unexpected "unit"

/-- A word, or an object whose only member has the word as its name and nothing as its value. -/
def keyword (setAside : Bool) : Reader String := do
  let expected := "variant identifier"
  match ← next? with
  | none => failAhead .endInValue
  | some '"' => text expected
  | some '\x7b' =>
    skip
    match ← next? with
    | none | some '"' | some '\x7d' => pure ()
    | some _ => failAhead .noKey
    let s ← text expected
    colon
    nothing setAside
    match ← next? with
    | none => failHere .endInObject
    | some '\x7d' =>
      skip
      return s
    | some _ => failHere .noValue
  | some _ => failAhead .noValue

/-! ### Records -/

/-- Whether a field may be absent. -/
inductive Presence where
  | required
  /-- It may be absent where it goes by its name. -/
  | optional
  | defaulted
  deriving Repr, DecidableEq

structure Field where
  name : String
  read : Reader Json
  presence : Presence := .required

/-- A record is written as an object, or as an array of its fields in order. -/
structure Record where
  expected : String
  fields : List Field

namespace Record

def isMissing (found : Json.Members) (f : Field) : Bool :=
  f.presence == .required && (found.lookup f.name).isNone

/-- No field is given twice. -/
def member (r : Record) (found : Json.Members) (name : String) : Reader Json.Members := do
  match r.fields.find? (·.name == name) with
  | none =>
    colon
    passValue
    return found
  | some f =>
    if (found.lookup name).isSome then mismatch (.repeated name)
    else
      colon
      return found.put name (← f.read)

/-- No field is missing. -/
def complete (r : Record) (found : Json.Members) : Reader Json.Members :=
  match r.fields.find? (isMissing found) with
  | some f => mismatch (.missing f.name)
  | none => return found

def ofMembers (r : Record) : Reader Json.Members := do r.complete (← foldMembers r.member [])

/-- The fields from the one at the place `i` on. -/
def ofElements (r : Record) : Nat → List Field → Reader Json.Members
  | _, [] => return []
  | i, f :: fs => do
    if ← hasElement (i == 0) then
      let j ← f.read
      return (← r.ofElements (i + 1) fs).put f.name j
    else if f.presence = .defaulted then r.ofElements (i + 1) fs
    else mismatch (.wrongLength i
      (r.expected ++ " with " ++ toString r.fields.length ++ " elements"))

def read (r : Record) : Reader Json.Members := do
  match ← next? with
  | some '[' => bracketed (r.ofElements 0 r.fields) endList
  | some '\x7b' => bracketed r.ofMembers endObject
  | _ => unexpected r.expected

/-- Only as an object; of a field that is given twice the later one stays. -/
def readOpen (r : Record) : Reader Json.Members := do
  let member (found : Json.Members) (name : String) : Reader Json.Members := do
    colon
    match r.fields.find? (·.name == name) with
    | none =>
      passValue
      return found
    | some f => return found.put name (← f.read)
  match ← next? with
  | some '[' => bracketed (mismatch (.wrongType (.array []) r.expected)) endList
  | some '\x7b' => bracketed (do r.complete (← foldMembers member [])) endObject
  | _ => unexpected r.expected

end Record

end Provisioner.Reader
