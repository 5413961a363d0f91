import Provisioner.Reconcile.Basic
import Provisioner.Sql.Server
import Provisioner.Table

/-!
The world that the operator acts on, held in memory: resources, a SQL server, a journal.

A statement takes time, so it comes in two halves: `begin` enters it into the journal, `complete`
has the effect. Statements and status writes can be made to fail.
-/

namespace Provisioner

/-- What was done to the world, each kind in order. -/
structure Journal where
  statements : List (Except Failure String) := []
  updates : List Resource := []
  notices : List (Resource × Notice) := []

structure World where
  objects : Table Key Resource := {}
  server : Sql.Server := {}
  /-- Without this every statement succeeds and the server stays as it is. -/
  tracking : Bool := false
  /-- A status that was written shows up among the resources. -/
  storesWrites : Bool := false
  /-- The statements that are made to fail, by what they do. -/
  faults : Table String Failure := {}
  writeFault : Option Failure := none
  /-- How many milliseconds a statement takes, by the name that it is about. -/
  delays : Table String Nat := {}
  inFlight : Nat := 0
  maxInFlight : Nat := 0
  journal : Journal := {}

/-- A statement that is under way. -/
structure Launch where
  statement : Sql.Statement
  /-- Why it will fail, if that is already known. -/
  fault : Option Failure
  millis : Option Nat

namespace World

/-- The journal since the last time, which starts afresh. -/
def flush (w : World) : Journal × World := (w.journal, { w with journal := {} })

def lookup (k : Key) (w : World) : Option Resource := w.objects.find? k

/-- The resource is stored under its key. -/
def put (r : Resource) (w : World) : Except Failure Key × World :=
  match Key.ofResource r with
  | .ok k => (.ok k, { w with objects := w.objects.insert k r })
  | .error f => (.error f, w)

def remove (k : Key) (w : World) : Bool × World :=
  (w.objects.contains k, { w with objects := w.objects.erase k })

def fault? (w : World) (t : Sql.Statement) : Option Failure :=
  match t.render? with
  | .error f => some f
  | .ok _ => w.faults.find? t.action

/-- The text goes into the journal, and it is settled now how long the statement takes and whether
it is made to fail. -/
def begin (t : Sql.Statement) (w : World) : Launch × World :=
  (⟨t, w.fault? t, w.delays.find? t.subject⟩,
    { w with
      journal := { w.journal with statements := w.journal.statements ++ [t.render?] }
      inFlight := w.inFlight + 1
      maxInFlight := max w.maxInFlight (w.inFlight + 1) })

def complete (l : Launch) (w : World) : Except Failure Unit × World :=
  let w := { w with inFlight := w.inFlight - 1 }
  match l.fault with
  | some f => (.error f, w)
  | none =>
    if w.tracking then
      let (outcome, server) := w.server.run l.statement
      (outcome, { w with server })
    else (.ok (), w)

def execute (t : Sql.Statement) (w : World) : Except Failure Unit × World :=
  let (l, w) := w.begin t
  w.complete l

/-- The whole resource replaces what is stored. -/
def write (r : Resource) (w : World) : Except Failure Unit × World :=
  match w.writeFault with
  | some f => (.error f, w)
  | none =>
    let w := { w with journal := { w.journal with updates := w.journal.updates ++ [r] } }
    (.ok (), if w.storesWrites then (w.put r).2 else w)

def publish (r : Resource) (n : Notice) (w : World) : World :=
  { w with journal := { w.journal with notices := w.journal.notices ++ [(r, n)] } }

def surroundings : Surroundings World where
  lookup := lookup
  execute := execute
  write := write
  publish := publish

/-- The keys in order. -/
def keys (w : World) : List Key := (Key.sortUnique w.objects.keys).1

end World

end Provisioner
