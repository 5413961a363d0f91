import Provisioner.Table
import Provisioner.Watch.Event

/-!
The store that a watch keeps in step with the API server.

What a list delivers goes into a buffer, which takes the place of the store when the list ends; all
other changes are immediate. A resource without a scope and one whose scope is empty are different.
-/

namespace Provisioner

/-- The identity of a resource as the API server has it. -/
structure Ref where
  scope : Option String
  name : String
  deriving Repr, DecidableEq

namespace Ref

/-- The identity of a resource that has a name. -/
def of? (r : Resource) : Option Ref := r.metadata.name.map fun name => ⟨r.metadata.scope, name⟩

/-- What has no scope comes first; then by scope and by name. -/
def le (a b : Ref) : Bool :=
  match a.scope, b.scope with
  | none, some _ => true
  | some _, none => false
  | none, none => !(b.name < a.name)
  | some s, some t => s < t || (s == t && !(b.name < a.name))

end Ref

structure Store where
  entries : Table Ref Resource := {}
  buffer : Table Ref Resource := {}
  deriving Repr

namespace Store

/-- The resource of that identity, or else one of its name that has no scope. -/
def get? (s : Store) (k : Ref) : Option Resource :=
  (s.entries.find? k).or (s.entries.find? { k with scope := none })

/-- An event about the resource with the identity `k`. -/
def applyTo (s : Store) (k : Ref) : Event → Store
  | .listed r => { s with buffer := s.buffer.insert k r }
  | .changed r => { s with entries := s.entries.insert k r }
  | .removed _ => { s with entries := s.entries.erase k }
  | .listBegins => { s with buffer := {} }
  | .listEnds => { entries := s.buffer, buffer := {} }

end Store

end Provisioner
