import Provisioner.Json.Basic

/-!
Values that are well-formed JSON and still not what is asked for.
-/

namespace Provisioner

/-- Why a value is not what it should be. -/
inductive Mismatch where
  | wrongType (found : Json) (expected : String)
  | wrongValue (found expected : String)
  | wrongLength (length : Nat) (expected : String)
  /-- A text that says nothing to those who read it. -/
  | unreadable (why : String)
  | missing (field : String)
  | repeated (field : String)
  deriving Repr

def Mismatch.message : Mismatch → String
  | .wrongType found expected => "invalid type: " ++ found.kind ++ ", expected " ++ expected
  | .wrongValue found expected => "invalid value: " ++ found ++ ", expected " ++ expected
  | .wrongLength n expected => "invalid length " ++ toString n ++ ", expected " ++ expected
  | .unreadable why => why
  | .missing field => "missing field \x60" ++ field ++ "\x60"
  | .repeated field => "duplicate field \x60" ++ field ++ "\x60"

end Provisioner
