import Provisioner.Decimal.Numeral
import Provisioner.Json.Basic

/-!
Paths into a JSON value: steps after slashes, in which `~1` stands for a slash and `~0` for a tilde.
-/

namespace Provisioner.Json

def unescapeStep : List Char → List Char
  | '~' :: '1' :: cs => '/' :: unescapeStep cs
  | '~' :: '0' :: cs => '~' :: unescapeStep cs
  | c :: cs => c :: unescapeStep cs
  | [] => []

/-- An index has no sign and no zero in front. -/
def index? (step : String) : Option Nat :=
  match step.toList with
  | '+' :: _ => none
  | ['0'] => some 0
  | '0' :: _ => none
  | _ => (Decimal.readNat (UInt64.size - 1) step).toOption

def child? (j : Json) (step : String) : Option Json :=
  match j with
  | .object ms => ms.lookup step
  | .array js => (index? step).bind fun i => js[i]?
  | _ => none

/-- The value at the end of a path; the empty path leads to the whole value. -/
def pointer? (j : Json) (path : String) : Option Json :=
  if path = "" then some j
  else match path.splitOn "/" with
    | "" :: steps =>
      steps.foldlM (fun j step => child? j (String.ofList (unescapeStep step.toList))) j
    | _ => none

end Provisioner.Json
