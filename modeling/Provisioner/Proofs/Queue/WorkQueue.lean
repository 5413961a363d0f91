import Mathlib.Tactic.Common
import Provisioner.Proofs.Queue.Tidy
import Provisioner.Queue.WorkQueue

/-!
What the operations of a work queue do to the three collections of its queue.

The getters, the limiter and the alarms come and go around the queue; it changes only by an
addition, by an item that is handed out, by one that is finished, and by closing.
-/

namespace Provisioner

variable {ρ α ι : Type} [BEq α]

/-- One look at a queue: its first item goes out, or there is none and nothing changes. -/
inductive Queue.Look (q : Queue α) : Fetch α → Queue α → Prop where
  | item {x : α} {q' : Queue α} (h : q.take = (some x, q')) : Look q (.item x) q'
  | closed (hl : q.line = []) (hc : q.closed = true) : Look q .closed q
  | nothing (hl : q.line = []) (hc : q.closed = false) : Look q .nothing q

namespace Dispatch

@[simp] lemma queue_add (d : Dispatch α ι) (x : α) : (d.add x).queue = d.queue.add x := rfl

@[simp] lemma queue_finish (d : Dispatch α ι) (x : α) : (d.finish x).queue = d.queue.finish x := rfl

omit [BEq α] in
@[simp] lemma queue_close (d : Dispatch α ι) : d.close.queue = d.queue.close := rfl

omit [BEq α] in
@[simp] lemma queue_rouse [BEq ι] (d : Dispatch α ι) (i : ι) : (d.rouse i).queue = d.queue := rfl

omit [BEq α] in
@[simp] lemma queue_leave [BEq ι] (d : Dispatch α ι) (i : ι) : (d.leave i).queue = d.queue := rfl

omit [BEq α] in
@[simp] lemma queue_welcome (d : Dispatch α ι) (is : List ι) : (d.welcome is).queue = d.queue := rfl

lemma look_tryGet (d : Dispatch α ι) : d.queue.Look d.tryGet.1 d.tryGet.2.queue := by
  unfold tryGet
  split
  · rename_i x q' ht
    exact .item ht
  · rename_i q' ht
    obtain ⟨hl, rfl⟩ := Queue.take_eq_none ht
    split_ifs with hc
    · exact .closed hl hc
    · exact .nothing hl (by simpa using hc)

/-- Whoever waits afterwards has come away with nothing. -/
lemma look_get (d : Dispatch α ι) (i : ι) : d.queue.Look (d.get i).1 (d.get i).2.queue := by
  have h := d.look_tryGet
  unfold get
  split
  · rename_i e
    rwa [e] at h
  · exact h

end Dispatch

namespace WorkQueue

@[simp] lemma queue_add (w : WorkQueue ρ α ι) (x : α) : (w.add x).queue = w.queue.add x := rfl

@[simp] lemma queue_finish (w : WorkQueue ρ α ι) (x : α) :
    (w.finish x).queue = w.queue.finish x := rfl

omit [BEq α] in
@[simp] lemma queue_close (w : WorkQueue ρ α ι) : w.close.queue = w.queue.close := rfl

@[simp] lemma queue_forget (w : WorkQueue ρ α ι) (x : α) : (w.forget x).queue = w.queue := rfl

lemma look_tryGet (w : WorkQueue ρ α ι) : w.queue.Look w.tryGet.1 w.tryGet.2.queue :=
  w.dispatch.look_tryGet

lemma look_get (w : WorkQueue ρ α ι) (i : ι) : w.queue.Look (w.get i).1 (w.get i).2.queue :=
  w.dispatch.look_get i

lemma queue_addAfter (w : WorkQueue ρ α ι) (x : α) (d : Delay) :
    (w.addAfter x d).queue = w.queue ∨ (w.addAfter x d).queue = w.queue.add x := by
  unfold addAfter
  split_ifs
  · exact Or.inl rfl
  · exact Or.inr rfl
  · exact Or.inl rfl

lemma queue_addRateLimited [Quantity ρ] (w : WorkQueue ρ α ι) (x : α) (reading : Nat) :
    (w.addRateLimited x reading).2.queue = w.queue ∨
      (w.addRateLimited x reading).2.queue = w.queue.add x := by
  unfold addRateLimited
  split
  · exact Or.inl rfl
  · exact queue_addAfter ..

/-- The limiter is asked once, whatever it answers, no time passes, and sleeps are as before. -/
lemma limiter_addRateLimited [Quantity ρ] (w : WorkQueue ρ α ι) (x : α) (reading : Nat) :
    (w.addRateLimited x reading).1 = (w.limiter.next x reading).1 ∧
    (w.addRateLimited x reading).2.limiter = (w.limiter.next x reading).2 ∧
    (w.addRateLimited x reading).2.now = w.now ∧
    (w.addRateLimited x reading).2.sleep = w.sleep := by
  unfold addRateLimited
  split
  · rename_i hn
    simp [hn]
  · rename_i hn
    unfold addAfter
    split_ifs <;> simp [hn, add]

/-- Without a delay the item is not put off, and what is put off is added now or waits for an
alarm at the end of the sleep over the delay; once the queue is closed it is lost. -/
lemma addRateLimited_cases [Quantity ρ] (w : WorkQueue ρ α ι) (x : α) (reading : Nat) :
    let r := w.addRateLimited x reading
    (r.1 = none ∧ r.2.queue = w.queue ∧ r.2.timers = w.timers) ∨
    (∃ d, r.1 = some d ∧ (w.queue.closed = true ∨ d.nanos = 0) ∧
      r.2.queue = w.queue.add x ∧ r.2.timers = w.timers) ∨
    (∃ d, r.1 = some d ∧ r.2.queue = w.queue ∧
      r.2.timers.alarms = w.timers.alarms ++ [(w.now + w.sleep w.now d, x)]) := by
  unfold addRateLimited
  split
  · exact .inl ⟨rfl, rfl, rfl⟩
  · rename_i d limiter _
    unfold addAfter
    split_ifs with hc hz
    · exact .inr (.inl ⟨d, rfl, .inl hc, (Queue.add_of_closed hc x).symm, rfl⟩)
    · exact .inr (.inl ⟨d, rfl, .inr hz, rfl, rfl⟩)
    · exact .inr (.inr ⟨d, rfl, rfl, rfl⟩)

lemma foldl_add (xs : List α) (w : WorkQueue ρ α ι) :
    xs.foldl add w = { w with dispatch := xs.foldl Dispatch.add w.dispatch } := by
  induction xs generalizing w with
  | nil => rfl
  | cons x xs ih => exact ih (w.add x)

lemma queue_foldl_add (xs : List α) (w : WorkQueue ρ α ι) :
    (xs.foldl add w).queue = xs.foldl Queue.add w.queue := by
  induction xs generalizing w with
  | nil => rfl
  | cons x xs ih => exact ih (w.add x)

/-- What is due goes through `add` like everything else. -/
lemma queue_ring (w : WorkQueue ρ α ι) (m : Nat) :
    (w.ring m).queue = (w.timers.ring m).1.foldl Queue.add w.queue :=
  queue_foldl_add _ _

end WorkQueue

end Provisioner
