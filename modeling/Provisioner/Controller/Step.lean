import Provisioner.Controller.State

/-!
What can happen to a controller, one indivisible step at a time.

Any order of the actions is a run: tasks take turns as they like, statements take as long as they
like, and between any two steps the world may be changed from outside. An action that does not fit
the state changes nothing.
-/

namespace Provisioner

/-- Who executes statements. -/
inductive Executor where
  | worker (i : Nat)
  | pump
  | caller
  deriving Repr, DecidableEq

inductive Action where
  /-- Someone stores a resource, or takes one away. -/
  | put (r : Resource)
  | remove (k : Key)
  /-- From now on these statements and writes are made to fail. -/
  | breakStatements (faults : Table String Failure)
  | breakWrites (fault : Option Failure)
  /-- A resource is queued, or a key as it stands. -/
  | enqueue (r : Resource)
  | addKey (key : String)
  /-- A notification is handed in, or put into the inbox. -/
  | call (n : Notification)
  | send (n : Notification)
  | closeInbox
  | start (workers : Nat)
  | sync (success : Bool)
  | stop
  /-- The clock shows that moment, and the alarms set for it go off. -/
  | clock (moment : Nat)
  /-- A task goes on. The limiter's clock shows `reading`. -/
  | worker (i : Nat) (reading : Nat)
  | pump
  | caller
  /-- With both at hand, the stop signal or the news of the first list comes first. -/
  | main (stopFirst : Bool)
  /-- A statement is through. -/
  | complete (e : Executor)

namespace Controller

variable {ρ : Type}

def addKey (c : Controller ρ) (key : String) : Controller ρ := { c with work := c.work.add key }

/-- A resource without a name cannot be queued. -/
def enqueue (c : Controller ρ) (r : Resource) : Controller ρ :=
  match Key.ofResource r with
  | .ok k => c.addKey k.text
  | .error _ => c

/-! ### Notifications -/

/-- The first step with a notification. -/
def take (c : Controller ρ) : Notification → Handling × Controller ρ
  | .added r | .updated _ r => (.free, c.enqueue r)
  | .deleted r =>
    (.cleaning (Surroundings.cleanup r.spec),
      { c with metrics := { c.metrics with deletions := c.metrics.deletions + 1 } })

/-- The next statement of a clean-up is begun. -/
def clean (c : Controller ρ) : Handling → Handling × Controller ρ
  | .cleaning b =>
    let (l, world) := c.world.begin b.current
    (.running b l, { c with world })
  | h => (h, c)

/-- A clean-up that left something behind counts as an error. -/
def concludeCleanup (c : Controller ρ) (r : Sql.Report) : Controller ρ :=
  if r.isSuccess then c
  else { c with metrics := { c.metrics with deletionErrors := c.metrics.deletionErrors + 1 } }

def completeCleanup (c : Controller ρ) : Handling → Handling × Controller ρ
  | .running b l =>
    let (outcome, world) := c.world.complete l
    let c := { c with world }
    match b.advance? outcome with
    | some b => (.cleaning b, c)
    | none => (.free, c.concludeCleanup (b.reportWith outcome))
  | h => (h, c)

def ofPump (r : Handling × Controller ρ) : Controller ρ := { r.2 with pump := .at r.1 }

/-- The pump sees the stop signal only between two notifications. -/
def pumpStep (c : Controller ρ) : Controller ρ :=
  match c.pump with
  | .at .free =>
    if c.pumpStopped then { c with pump := .ended }
    else match c.inbox with
      | n :: inbox => ofPump ({ c with inbox }.take n)
      | [] => if c.inboxClosed then { c with pump := .ended } else c
  | .at h => ofPump (c.clean h)
  | .unborn | .ended => c

def callerStep (c : Controller ρ) : Controller ρ :=
  let (caller, c) := c.clean c.caller
  { c with caller }

/-! ### Workers -/

/-- A worker looks into the queue. -/
def fetch (c : Controller ρ) (i : Nat) : Controller ρ :=
  let (f, work) := c.work.get i
  { c with work }.setWorker i (match f with
    | .item key => .handed key
    | .closed => .ended
    | .nothing => .waiting)

/-- A woken worker goes on. -/
def rouse (c : Controller ρ) (i : Nat) : Controller ρ :=
  { c with work := { c.work with dispatch := c.work.dispatch.rouse i } }

/-- A key that cannot be read is dropped; trying again would not help. -/
def lookUp (c : Controller ρ) (i : Nat) (key : String) : Controller ρ :=
  match Key.parse key with
  | .error _ => { c with work := c.work.forget key }.setWorker i (.releasing key)
  | .ok k =>
    { c with metrics := { c.metrics with reconciliations := c.metrics.reconciliations + 1 } }
      |>.setWorker i (.reconciling key (.start c.policy (c.world.lookup k)))

def recordDuration (c : Controller ρ) : Controller ρ :=
  { c with metrics := { c.metrics with durations := c.metrics.durations + 1 } }

/-- The end of an attempt: a failure is put off, a success wipes out earlier failures. -/
def conclude [Quantity ρ] (c : Controller ρ) (i : Nat) (key : String) (reading : Nat) :
    Attempt → Controller ρ
  | .ok _ => { c with work := c.work.forget key }.recordDuration.setWorker i (.releasing key)
  | .error _ =>
    let c := { c with metrics := { c.metrics with errors := c.metrics.errors + 1 } }
    match c.work.addRateLimited key reading with
    | (none, work) => { c with work }.setWorker i (.dead key)
    | (some _, work) => { c with work }.recordDuration.setWorker i (.releasing key)

def perform [Quantity ρ] (c : Controller ρ) (i : Nat) (key : String) (reading : Nat) :
    Stage → Controller ρ
  | .execute r b =>
    let (l, world) := c.world.begin b.current
    { c with world }.setWorker i (.running key r b l)
  | .write r v =>
    let (outcome, world) := c.world.write (r.withStatus v.status)
    { c with world }.setWorker i (.reconciling key (.afterWrite r v outcome))
  | .publish r a =>
    { c with world := c.world.publish r (Stage.notice a) }
      |>.setWorker i (.reconciling key (.finished a))
  | .finished a => c.conclude i key reading a

def workerStep [Quantity ρ] (c : Controller ρ) (i : Nat) (reading : Nat) : Controller ρ :=
  match c.worker i with
  | .idle => c.fetch i
  | .waiting => if c.isWoken i then (c.rouse i).fetch i else c
  | .handed key => c.lookUp i key
  | .reconciling key stage => c.perform i key reading stage
  | .releasing key => { c with work := c.work.finish key }.setWorker i .idle
  | .running .. | .ended | .dead _ => c

def completeWorker (c : Controller ρ) (i : Nat) : Controller ρ :=
  match c.worker i with
  | .running key r b l =>
    let (outcome, world) := c.world.complete l
    { c with world }.setWorker i (.reconciling key (.afterStatement r b outcome))
  | _ => c

def complete (c : Controller ρ) : Executor → Controller ρ
  | .worker i => c.completeWorker i
  | .pump =>
    match c.pump with
    | .at h => ofPump (c.completeCleanup h)
    | .unborn | .ended => c
  | .caller =>
    let (caller, c) := c.completeCleanup c.caller
    { c with caller }

/-! ### The main task -/

/-- The workers come to the queue, each as if it had been called. -/
def startWorkers (c : Controller ρ) (n : Nat) : Controller ρ :=
  { c with
    workers := List.replicate n .waiting
    work := { c.work with dispatch := c.work.dispatch.welcome (List.range n) }
    ready := true
    main := .serving }

/-- Without a first list no worker is started. -/
def giveUp (c : Controller ρ) : Controller ρ :=
  { c with work := c.work.close, pumpStopped := true, main := .ending (.error .cacheSync) }

def mainStep (c : Controller ρ) (stopFirst : Bool) : Controller ρ :=
  match c.main with
  | .syncing n =>
    if c.stopped && (stopFirst || c.synced.isNone) then c.giveUp
    else match c.synced with
      | some true => c.startWorkers (max n 1)
      | some false => c.giveUp
      | none => c
  | .serving =>
    if c.stopped then { c with ready := false, work := c.work.close, main := .joining } else c
  | .joining =>
    if c.workers.all Worker.isOver then { c with pumpStopped := true, main := .ending (.ok ()) }
    else c
  | .ending result =>
    match c.pump with
    | .ended => { c with main := .finished result }
    | _ => c
  | .unborn | .finished _ => c

def start (c : Controller ρ) (workers : Nat) : Controller ρ :=
  match c.main with
  | .unborn => { c with main := .syncing workers, pump := .at .free }
  | _ => c

/-- The latest news of the first list counts, until the main task has acted on it. -/
def sync (c : Controller ρ) (success : Bool) : Controller ρ :=
  match c.main with
  | .unborn | .syncing _ => { c with synced := some success }
  | _ => c

/-! ### All together -/

/-- The clock never goes back, and passes no alarm without ringing it. -/
def setClock (c : Controller ρ) (moment : Nat) : Controller ρ :=
  if moment < c.work.now || (c.work.timers.first?.any (· < moment)) then c
  else { c with work := c.work.ring moment }

def step [Quantity ρ] (c : Controller ρ) : Action → Controller ρ
  | .put r => { c with world := (c.world.put r).2 }
  | .remove k => { c with world := (c.world.remove k).2 }
  | .breakStatements faults => { c with world := { c.world with faults } }
  | .breakWrites fault => { c with world := { c.world with writeFault := fault } }
  | .enqueue r => c.enqueue r
  | .addKey key => c.addKey key
  | .call n =>
    match c.caller with
    | .free =>
      let (caller, c) := c.take n
      { c with caller }
    | _ => c
  | .send n => if c.accepts then { c with inbox := c.inbox ++ [n] } else c
  | .closeInbox => { c with inboxClosed := true }
  | .start workers => c.start workers
  | .sync success => c.sync success
  | .stop => { c with stopped := true }
  | .clock moment => c.setClock moment
  | .worker i reading => c.workerStep i reading
  | .pump => c.pumpStep
  | .caller => c.callerStep
  | .main stopFirst => c.mainStep stopFirst
  | .complete e => c.complete e

/-- A run: any actions in any order. -/
def run [Quantity ρ] (c : Controller ρ) (as : List Action) : Controller ρ := as.foldl step c

end Controller

end Provisioner
