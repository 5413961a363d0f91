import Provisioner.Decimal.Shortest
import Provisioner.Text.Quoted

/-!
JSON values.

A number is an integer that fits a signed or unsigned 64-bit word, or a double kept by its bits.
The members of an object stand in a list; a value that was read has them in the order of their
names, each name once.
-/

namespace Provisioner

inductive Json where
  | null
  | bool (b : Bool)
  | integer (n : Int)
  | double (bits : UInt64)
  | string (s : String)
  | array (items : List Json)
  | object (members : List (String × Json))
  deriving Repr, BEq, Inhabited

namespace Json

abbrev Members := List (String × Json)

/-- The member of that name. -/
def Members.get? (ms : Members) (name : String) : Option Json := ms.lookup name

/-- Members in the order of their names; of two of one name the later stays. -/
def Members.put (name : String) (value : Json) : Members → Members
  | [] => [(name, value)]
  | (n, v) :: ms =>
    if name < n then (name, value) :: (n, v) :: ms
    else if name = n then (name, value) :: ms
    else (n, v) :: Members.put name value ms

def get? (j : Json) (name : String) : Option Json :=
  match j with
  | .object ms => ms.lookup name
  | _ => none

def text? : Json → Option String
  | .string s => some s
  | _ => none

/-- The members that are there, the absent ones left out. -/
def compact (ms : List (String × Option Json)) : Json :=
  .object (ms.filterMap fun m => m.2.map (m.1, ·))

/-- What a reader calls a value that it did not expect. -/
def kind : Json → String
  | .null => "null"
  | .bool b => "boolean `" ++ (if b then "true" else "false") ++ "`"
  | .integer n => "integer `" ++ toString n ++ "`"
  | .double bits => "floating point `" ++ Decimal.textOfBits bits ++ "`"
  | .string s => "string " ++ Text.quoted s
  | .array _ => "sequence"
  | .object _ => "map"

end Json

end Provisioner
