import Provisioner.Watch.Store

/-!
From events to notifications.

A watch that was interrupted lists everything anew. Whatever was in the store when the list began
and is not part of it was deleted meanwhile, and is notified from the store's last snapshot.
-/

namespace Provisioner

structure Relist where
  /-- What was in the store when the list began. -/
  before : Table Ref Resource := {}
  /-- What the list has delivered so far. -/
  seen : List Ref := []
  deriving Repr

namespace Relist

/-- The notification for a resource of which `old` was known. -/
def applied (old : Option Resource) (new : Resource) : Notification :=
  match old with
  | some old => .updated old new
  | none => .added new

/-- What was there before and was not seen, in order. -/
def missing (t : Relist) : List (Ref × Resource) :=
  (t.before.entries.filter fun e => !t.seen.contains e.1).mergeSort fun a b => a.1.le b.1

/-- The notifications for an event about `k`. The store does not have the event yet. -/
def step (t : Relist) (s : Store) (k : Ref) : Event → List Notification × Relist
  | .listBegins => ([], { before := s.entries, seen := [] })
  | .listed r => ([applied (s.get? k) r], { t with seen := k :: t.seen })
  | .listEnds => (t.missing.map fun e => .deleted e.2, {})
  | .changed r => ([applied (s.get? k) r], t)
  | .removed r => ([.deleted r], t)

end Relist

end Provisioner
