import Provisioner.Proofs.Controller.Custody

/-!
The part of a controller that has to do with keys that come and go, and what can happen to it in a
step.

The docket leaves out the world, and how far an attempt has come; it has the limiter, the moments of
the alarms and the sleep that sets them, which the desk leaves out. `Docket.Step` lists all that a
step can do to it, and an entry is what such a step means for a key.
-/

namespace Provisioner

/-- What a worker has to do with a key. -/
inductive Duty where
  | free
  | handed (key : String)
  /-- It is in the middle of an attempt. -/
  | busy (key : String)
  | releasing (key : String)
  | dead (key : String)
  deriving DecidableEq

def Duty.key? : Duty → Option String
  | .free => none
  | .handed key | .busy key | .releasing key | .dead key => some key

def Worker.duty : Worker → Duty
  | .idle | .waiting | .ended => .free
  | .handed key => .handed key
  | .reconciling key _ | .running key .. => .busy key
  | .releasing key => .releasing key
  | .dead key => .dead key

lemma Worker.key?_duty (w : Worker) : w.duty.key? = w.key? := by
  cases w <;> rfl

inductive Entry where
  /-- The key comes from outside, by itself or with a notification. -/
  | queued (key : String)
  /-- The worker comes away from the queue with the key. -/
  | took (i : Nat) (key : String)
  /-- The key cannot be read. -/
  | dropped (i : Nat) (key : String)
  /-- The attempt is over, and did not fail. -/
  | succeeded (i : Nat) (key : String)
  /-- The attempt has failed, and this is the delay that the limiter gives, if it gives one. -/
  | failed (i : Nat) (key : String) (delay : Option Delay)
  /-- The worker gives the key back. -/
  | gave (i : Nat) (key : String)
  deriving DecidableEq

structure Docket (ρ : Type) where
  duty : Nat → Duty
  queue : Queue String
  limiter : Limiter ρ String
  /-- The alarms, each with its moment. -/
  alarms : List (Nat × String)
  now : Nat
  sleep : Nat → Delay → Nat

namespace Docket

variable {ρ : Type} [Quantity ρ]

def assign (d : Docket ρ) (i : Nat) (w : Duty) : Docket ρ :=
  { d with duty := Function.update d.duty i w }

omit [Quantity ρ] in
lemma duty_assign_self (d : Docket ρ) (i : Nat) (w : Duty) : (d.assign i w).duty i = w :=
  Function.update_self ..

omit [Quantity ρ] in
lemma duty_assign_of_ne (d : Docket ρ) {i j : Nat} (h : j ≠ i) (w : Duty) :
    (d.assign i w).duty j = d.duty j :=
  Function.update_of_ne h ..

omit [Quantity ρ] in
lemma assign_self {d : Docket ρ} {i : Nat} {w : Duty} (h : d.duty i = w) : d.assign i w = d := by
  rw [assign, ← h, Function.update_eq_self]

inductive Step (d : Docket ρ) : Option Entry → Docket ρ → Prop
  | aside : Step d none d
  | queued (key : String) : Step d (some (.queued key)) { d with queue := d.queue.add key }
  /-- The alarms set for that moment go off. -/
  | rang {moment : Nat} {due : List String} {later : List (Nat × String)} (hm : d.now ≤ moment)
      (hp : d.alarms.Perm (due.map (moment, ·) ++ later)) :
      Step d none { d with queue := due.foldl Queue.add d.queue, alarms := later, now := moment }
  | closed : Step d none { d with queue := d.queue.close }
  | took (i : Nat) {key : String} {q : Queue String} (hi : d.duty i = .free)
      (hq : d.queue.take = (some key, q)) :
      Step d (some (.took i key)) ({ d with queue := q }.assign i (.handed key))
  | dropped (i : Nat) {key : String} {f : Failure} (hi : d.duty i = .handed key)
      (hk : Key.parse key = .error f) :
      Step d (some (.dropped i key))
        ({ d with limiter := d.limiter.forget key }.assign i (.releasing key))
  | began (i : Nat) {key : String} {k : Key} (hi : d.duty i = .handed key)
      (hk : Key.parse key = .ok k) : Step d none (d.assign i (.busy key))
  | succeeded (i : Nat) {key : String} (hi : d.duty i = .busy key) :
      Step d (some (.succeeded i key))
        ({ d with limiter := d.limiter.forget key }.assign i (.releasing key))
  /-- The limiter gives no delay. -/
  | died (i reading : Nat) {key : String} (hi : d.duty i = .busy key)
      (hn : (d.limiter.next key reading).1 = none) :
      Step d (some (.failed i key none))
        ({ d with limiter := (d.limiter.next key reading).2 }.assign i (.dead key))
  | retries (i reading : Nat) {key : String} {delay : Delay} (hi : d.duty i = .busy key)
      (hn : (d.limiter.next key reading).1 = some delay)
      (hd : d.queue.closed = true ∨ delay.nanos = 0) :
      Step d (some (.failed i key (some delay)))
        ({ d with limiter := (d.limiter.next key reading).2, queue := d.queue.add key }.assign i
          (.releasing key))
  | putOff (i reading : Nat) {key : String} {delay : Delay} (hi : d.duty i = .busy key)
      (hn : (d.limiter.next key reading).1 = some delay) :
      Step d (some (.failed i key (some delay)))
        ({ d with
          limiter := (d.limiter.next key reading).2
          alarms := d.alarms ++ [(d.now + d.sleep d.now delay, key)] }.assign i
          (.releasing key))
  | released (i : Nat) {key : String} (hi : d.duty i = .releasing key) :
      Step d (some (.gave i key)) ({ d with queue := d.queue.finish key }.assign i .free)

lemma Step.stays {d : Docket ρ} {i : Nat} {w : Duty} (h : d.duty i = w) :
    Step d none (d.assign i w) := by
  rw [assign_self h]
  exact .aside

/-- Each key in a worker's hands is active in the queue, and in no other hands. -/
structure Custody (d : Docket ρ) : Prop where
  tidy : d.queue.Tidy
  active : ∀ i x, (d.duty i).key? = some x → x ∈ d.queue.active
  alone : ∀ i j x, (d.duty i).key? = some x → (d.duty j).key? = some x → i = j

end Docket

namespace Controller

variable {ρ : Type} (c : Controller ρ)

def docket : Docket ρ where
  duty i := (c.worker i).duty
  queue := c.work.queue
  limiter := c.work.limiter
  alarms := c.work.timers.alarms
  now := c.work.now
  sleep := c.work.sleep

/-- The first key in the line is for whoever looks into the queue. -/
def taken? (i : Nat) : Option Entry := c.work.queue.line.head?.map (.took i)

/-- What an action means for a key. -/
def noted? [Quantity ρ] : Action → Option Entry
  | .enqueue r => (Key.ofResource r).toOption.map fun k => .queued k.text
  | .addKey key => some (.queued key)
  | .call n =>
    match c.caller with
    | .free => n.key?.map fun k => .queued k.text
    | _ => none
  | .pump =>
    match c.pump, c.pumpStopped, c.inbox with
    | .at .free, false, n :: _ => n.key?.map fun k => .queued k.text
    | _, _, _ => none
  | .worker i reading =>
    match c.worker i with
    | .idle => c.taken? i
    | .waiting => if c.isWoken i then c.taken? i else none
    | .handed key =>
      match Key.parse key with
      | .ok _ => none
      | .error _ => some (.dropped i key)
    | .reconciling key (.finished (.ok _)) => some (.succeeded i key)
    | .reconciling key (.finished (.error _)) =>
      some (.failed i key (c.work.limiter.next key reading).1)
    | .releasing key => some (.gave i key)
    | _ => none
  | _ => none

def entries [Quantity ρ] (c : Controller ρ) : List Action → List Entry
  | [] => []
  | a :: as => (c.noted? a).toList ++ (c.step a).entries as

end Controller

end Provisioner
