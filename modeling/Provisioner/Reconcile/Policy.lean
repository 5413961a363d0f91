/-!
What to do with a resource whose last attempt failed.
-/

namespace Provisioner

inductive Policy where
  /-- It is left alone until its status is reset. -/
  | hold
  /-- It is provisioned again. -/
  | retry
  deriving Repr, DecidableEq, Inhabited

namespace Policy

def text : Policy → String
  | .hold => "hold"
  | .retry => "retry"

/-- Letters count the same in either case; the fault names the text in small ones. -/
def parse (s : String) : Except String Policy :=
  let s := s.map Char.toLower
  if s = "hold" then .ok .hold
  else if s = "retry" then .ok .retry
  else .error ("unknown error policy '" ++ s ++ "', expected hold or retry")

end Policy

end Provisioner
