import Provisioner.Resource.Key
import Provisioner.Watch.Relist

/-!
The task that follows a watch: each event is compared with the store, then stored, and what it
changes is notified.

The task ends when a notification cannot be sent because nobody receives any more, when it is
killed, and at a resource without a name, which it cannot store.
-/

namespace Provisioner

structure Watch where
  store : Store := {}
  relist : Relist := {}
  /-- A list has come to its end. -/
  listed : Bool := false
  receiving : Bool := true
  stopped : Bool := false
  deriving Repr

namespace Watch

/-- The events that are about no resource have no use for an identity. -/
def refOf? (e : Event) : Option Ref :=
  match e.subject? with
  | some r => Ref.of? r
  | none => some ⟨none, ""⟩

/-- The effect of an event before anything is sent. -/
def apply (w : Watch) (k : Ref) (e : Event) : List Notification × Watch :=
  let (ns, relist) := w.relist.step w.store k e
  (ns, { w with relist, store := w.store.applyTo k e, listed := w.listed || e == .listEnds })

/-- An event with the notifications that are sent for it. -/
def deliver (w : Watch) (e : Event) : List Notification × Watch :=
  if w.stopped then ([], w)
  else match refOf? e with
    | none => ([], { w with stopped := true })
    | some k =>
      let (ns, w) := w.apply k e
      if w.receiving then (ns, w)
      else ([], { w with stopped := !ns.isEmpty })

def deliverAll (w : Watch) : List Event → List Notification × Watch
  | [] => ([], w)
  | e :: es =>
    let (ns, w) := w.deliver e
    let (ms, w) := w.deliverAll es
    (ns ++ ms, w)

/-- Whether a first list was stored: nothing while it may still come, false if it never will. -/
def synced? (w : Watch) : Option Bool :=
  if w.listed then some true else if w.stopped then some false else none

/-- An empty scope in a key stands for no scope. -/
def lookup (w : Watch) (k : Key) : Option Resource :=
  w.store.get? ⟨if k.scope = "" then none else some k.scope, k.name⟩

end Watch

end Provisioner
