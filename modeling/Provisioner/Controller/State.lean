import Provisioner.Queue.WorkQueue
import Provisioner.Watch.Event
import Provisioner.World.Basic

/-!
The controller between two moments at which something happens.

Workers fetch keys and reconcile them; the pump turns notifications into keys, and cleans up after
deleted resources itself; the main task starts them and sees to an orderly end. Whoever is in the
middle of a statement is `running` it.
-/

namespace Provisioner

inductive Worker where
  /-- It will look into the queue. -/
  | idle
  /-- It waits at the queue, or was woken there. -/
  | waiting
  /-- It has fetched a key. -/
  | handed (key : String)
  /-- It is reconciling, and the effect of the stage comes next. -/
  | reconciling (key : String) (stage : Stage)
  | running (key : String) (r : Resource) (b : Sql.Batch) (l : Launch)
  /-- All that is left is to give the key back. -/
  | releasing (key : String)
  | ended
  /-- It broke down with the key in its hands. -/
  | dead (key : String)

namespace Worker

def isOver : Worker → Bool
  | .ended | .dead _ => true
  | _ => false

/-- The key in its hands. -/
def key? : Worker → Option String
  | .handed k | .reconciling k _ | .running k .. | .releasing k | .dead k => some k
  | .idle | .waiting | .ended => none

end Worker

/-- How far someone has come with a notification. -/
inductive Handling where
  | free
  | cleaning (b : Sql.Batch)
  | running (b : Sql.Batch) (l : Launch)

inductive Pump where
  | unborn
  | at (h : Handling)
  | ended

inductive Main where
  | unborn
  /-- It waits for the first list, to start that many workers. -/
  | syncing (workers : Nat)
  | serving
  /-- It waits for the workers to end. -/
  | joining
  /-- It waits for the pump to end. -/
  | ending (result : Except Failure Unit)
  | finished (result : Except Failure Unit)

structure Metrics where
  reconciliations : Nat := 0
  errors : Nat := 0
  /-- How many durations were recorded. -/
  durations : Nat := 0
  deletions : Nat := 0
  deletionErrors : Nat := 0
  deriving Repr, DecidableEq

structure Controller (ρ : Type) where
  policy : Policy := .hold
  work : WorkQueue ρ String Nat
  world : World := {}
  workers : List Worker := []
  pump : Pump := .unborn
  /-- Someone outside who hands in a notification and waits until it is handled. -/
  caller : Handling := .free
  main : Main := .unborn
  /-- The notifications that the pump has not taken. -/
  inbox : List Notification := []
  /-- Nobody will send any more. -/
  inboxClosed : Bool := false
  /-- The pump is to take no more. -/
  pumpStopped : Bool := false
  /-- Whether the first list has arrived, or never will; nothing while that is open. -/
  synced : Option Bool := none
  stopped : Bool := false
  ready : Bool := false
  metrics : Metrics := {}

namespace Controller

variable {ρ : Type}

def queueName : String := "Databases"

def worker (c : Controller ρ) (i : Nat) : Worker := c.workers.getD i .ended

def setWorker (c : Controller ρ) (i : Nat) (w : Worker) : Controller ρ :=
  { c with workers := c.workers.set i w }

/-- A worker that waits was called. -/
def isWoken (c : Controller ρ) (i : Nat) : Bool :=
  c.work.dispatch.signal.woken.any fun w => w.1 == i

def result? (c : Controller ρ) : Option (Except Failure Unit) :=
  match c.main with
  | .finished r => some r
  | _ => none

/-- The receiving end of the inbox lives as long as the pump. -/
def accepts (c : Controller ρ) : Bool :=
  !c.inboxClosed && (match c.pump with
    | .ended => false
    | _ => true)

/-- A stop signal reaches the main task once, and only while there is one. -/
def canStop (c : Controller ρ) : Bool := !c.stopped && c.result?.isNone

end Controller

end Provisioner
