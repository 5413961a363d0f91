import Provisioner.Json.Reader

/-!
JSON text as a value.

Arrays and objects nest to a depth of 127. Of two members of one name the later stays.
-/

namespace Provisioner

namespace Reader

/-- A value that is neither an array nor an object, by its first character. -/
def scalar (c : Char) : Reader Json :=
  match c with
  | '"' => return .string (← string)
  | 'n' => do
    word ['n', 'u', 'l', 'l']
    return .null
  | 't' => do
    word ['t', 'r', 'u', 'e']
    return .bool true
  | 'f' => do
    word ['f', 'a', 'l', 's', 'e']
    return .bool false
  | c => if c == '-' || isDigit c then number else failAhead .noValue

/-- A value, with `inner` for what stands in brackets; without it brackets are too deep. -/
def valueWith (inner? : Option (Reader Json)) : Reader Json := do
  match ← next? with
  | none => failAhead .endInValue
  | some c =>
    match c, inner? with
    | '[', none | '\x7b', none => failAhead .tooDeep
    | '[', some inner =>
      skip
      return .array (← closedBy (elements inner) endList)
    | '\x7b', some inner =>
      skip
      let member (ms : Json.Members) (name : String) : Reader Json.Members := do
        colon
        return ms.put name (← inner)
      return .object (← closedBy (foldMembers member []) endObject)
    | c, _ => scalar c

/-- A value of at most that depth. -/
def value : Nat → Reader Json
  | 0 => valueWith none
  | depth + 1 => valueWith (some (value depth))

end Reader

namespace Json

def maxDepth : Nat := 127

def parse (s : String) : Option Json := ((Reader.value maxDepth).run s).toOption

end Json

end Provisioner
