import Provisioner.Failure
import Provisioner.Resource.Basic

/-!
The identity of a resource, and its one-line form in the work queue.

A key is written `scope/name`, or `name` alone when there is no scope. Reading takes both forms and
refuses a text with more than one slash or without a name.
-/

namespace Provisioner

structure Key where
  scope : String
  name : String
  deriving Repr, DecidableEq, Inhabited

namespace Key

def text (k : Key) : String := if k.scope = "" then k.name else k.scope ++ "/" ++ k.name

/-- The parts of a text between its slashes. -/
def segments (cs : List Char) : List (List Char) :=
  cs.foldr (fun c parts =>
    match parts with
    | [] => [[c]]
    | p :: ps => if c = '/' then [] :: p :: ps else (c :: p) :: ps) [[]]

def ofSegments? : List (List Char) → Option Key
  | [name] => if name = [] then none else some ⟨"", String.ofList name⟩
  | [scope, name] => if name = [] then none else some ⟨String.ofList scope, String.ofList name⟩
  | _ => none

def parse (s : String) : Except Failure Key :=
  match ofSegments? (segments s.toList) with
  | some k => .ok k
  | none => .error (.invalidKey s)

/-- The key under which a resource is queued; without a name there is none. -/
def ofResource (r : Resource) : Except Failure Key :=
  match r.metadata.name with
  | some name =>
    if name = "" then .error (.invalidKey "object has no name")
    else .ok ⟨r.metadata.scope.getD "", name⟩
  | none => .error (.invalidKey "object has no name")

/-- By scope and then by name. -/
def le (a b : Key) : Bool := a.scope < b.scope || (a.scope == b.scope && !(b.name < a.name))

/-- The keys in order, each once, and how many repeats were left out. -/
def sortUnique (ks : List Key) : List Key × Nat :=
  let sorted := ks.mergeSort le
  let unique := sorted.foldr (fun k acc => if acc.head? = some k then acc else k :: acc) []
  (unique, ks.length - unique.length)

end Key

end Provisioner
