import Mathlib.Data.List.Perm.Basic
import Provisioner.Proofs.Queue.WorkQueue

/-!
Clients of a work queue, and that no two of them ever have the same item.

Anyone may add, wait, give up waiting, forget or close at any time, and an alarm goes off whenever
it likes. A client finishes an item only if the item was handed to it, and once for each time.
-/

namespace Provisioner

structure Clients (ρ α ι : Type) where
  work : WorkQueue ρ α ι
  /-- What was handed out and is not finished yet, each item with the getter that took it. -/
  held : List (ι × α) := []

namespace Clients

inductive Move (α ι : Type) where
  | add (x : α)
  /-- One look by `i`, without waiting. -/
  | look (i : ι)
  /-- `i` comes, and waits if there is nothing. -/
  | get (i : ι)
  /-- `i`, who was woken, looks again. -/
  | resume (i : ι)
  /-- `i` gives up waiting. -/
  | leave (i : ι)
  | finish (i : ι) (x : α)
  | addAfter (x : α) (d : Delay)
  /-- The limiter's clock shows `reading`. -/
  | addRateLimited (x : α) (reading : Nat)
  | forget (x : α)
  | close
  /-- One alarm goes off. -/
  | alarm (a : Nat × α)
  /-- All alarms set for that moment go off. -/
  | ring (moment : Nat)

variable {ρ α ι : Type}

/-- `i` comes away with something, or with nothing. -/
def receive (s : Clients ρ α ι) (i : ι) (r : Fetch α × WorkQueue ρ α ι) : Clients ρ α ι where
  work := r.2
  held := match r.1 with
    | .item x => (i, x) :: s.held
    | .closed | .nothing => s.held

/-- A new queue, and nobody has anything. -/
def opening (limiter : Limiter ρ α) : Clients ρ α ι where
  work := { limiter }

/-- The items in the clients' hands are those that the queue takes for active. -/
structure Sound (s : Clients ρ α ι) : Prop where
  tidy : s.work.queue.Tidy
  held : (s.held.map (·.2)).Perm s.work.queue.active

lemma sound_opening (limiter : Limiter ρ α) : Sound (opening limiter : Clients ρ α ι) :=
  ⟨Queue.tidy_empty, .nil⟩

lemma Sound.of_queue {s : Clients ρ α ι} {w : WorkQueue ρ α ι} (h : s.Sound)
    (hw : w.queue = s.work.queue) : Sound { s with work := w } :=
  ⟨by simpa [hw] using h.tidy, by simpa [hw] using h.held⟩

variable [DecidableEq α] [DecidableEq ι]

/-- A move that does not fit the state changes nothing. -/
def step [Quantity ρ] (s : Clients ρ α ι) : Move α ι → Clients ρ α ι
  | .add x => { s with work := s.work.add x }
  | .look i => s.receive i s.work.tryGet
  | .get i => s.receive i (s.work.get i)
  | .resume i =>
    if s.work.dispatch.signal.woken.any (·.1 == i) then
      s.receive i ({ s.work with dispatch := s.work.dispatch.rouse i }.get i)
    else s
  | .leave i => { s with work := { s.work with dispatch := s.work.dispatch.leave i } }
  | .finish i x =>
    if (i, x) ∈ s.held then { work := s.work.finish x, held := s.held.erase (i, x) } else s
  | .addAfter x d => { s with work := s.work.addAfter x d }
  | .addRateLimited x reading => { s with work := (s.work.addRateLimited x reading).2 }
  | .forget x => { s with work := s.work.forget x }
  | .close => { s with work := s.work.close }
  | .alarm a =>
    if a ∈ s.work.timers.alarms then
      { s with work := { s.work with timers := ⟨s.work.timers.alarms.erase a⟩ }.add a.2 }
    else s
  | .ring m => { s with work := s.work.ring m }

def run [Quantity ρ] (s : Clients ρ α ι) (ms : List (Move α ι)) : Clients ρ α ι := ms.foldl step s

/-! ### Every move keeps the hands and the queue in agreement -/

section

omit [DecidableEq ι]
variable {s : Clients ρ α ι}

lemma Sound.of_add {w : WorkQueue ρ α ι} {x : α} (h : s.Sound)
    (hw : w.queue = s.work.queue.add x) : Sound { s with work := w } :=
  ⟨by simpa [hw] using h.tidy.add x, by simpa [hw] using h.held⟩

lemma Sound.of_adds {w : WorkQueue ρ α ι} (xs : List α) (h : s.Sound)
    (hw : w.queue = xs.foldl Queue.add s.work.queue) : Sound { s with work := w } := by
  induction xs generalizing s with
  | nil => exact h.of_queue hw
  | cons x xs ih => exact ih (s := { s with work := s.work.add x }) (h.of_add (x := x) rfl) hw

lemma Sound.receive {r : Fetch α × WorkQueue ρ α ι} (h : s.Sound) (i : ι)
    (hl : s.work.queue.Look r.1 r.2.queue) : (s.receive i r).Sound := by
  obtain ⟨f, w⟩ := r
  change s.work.queue.Look f w.queue at hl
  generalize hq : w.queue = q' at hl
  cases hl with
  | @item x _ ht =>
    obtain ⟨xs, hline, e⟩ := Queue.take_eq_some ht
    -- what stands in the line is in nobody's hands
    have hx : x ∉ s.work.queue.active := ((h.tidy.mem_line x).1 (by simp [hline])).2
    rw [if_neg hx] at e
    refine ⟨hq ▸ h.tidy.take ht, ?_⟩
    change List.Perm (x :: s.held.map (·.2)) w.queue.active
    rw [hq, e]
    exact (h.held.cons x).trans (List.perm_append_singleton x _).symm
  | closed _ _ => exact h.of_queue hq
  | nothing _ _ => exact h.of_queue hq

end

variable {s : Clients ρ α ι}

lemma Sound.finish {i : ι} {x : α} (h : s.Sound) (hx : (i, x) ∈ s.held) :
    Sound { work := s.work.finish x, held := s.held.erase (i, x) } := by
  have hxa : x ∈ s.work.queue.active := h.held.mem_iff.1 (List.mem_map.2 ⟨_, hx, rfl⟩)
  refine ⟨h.tidy.finish hxa, ?_⟩
  change List.Perm _ (s.work.queue.active.filter (· != x))
  rw [← h.tidy.active_nodup.erase_eq_filter]
  have hp := ((List.perm_cons_erase hx).map Prod.snd).symm.trans h.held
  simpa using hp.erase x

variable [Quantity ρ]

lemma Sound.step (h : s.Sound) (m : Move α ι) : (s.step m).Sound := by
  cases m with
  | add x => exact h.of_add rfl
  | look i => exact h.receive i s.work.look_tryGet
  | get i => exact h.receive i (s.work.look_get i)
  | resume i =>
    simp only [Clients.step]
    split_ifs
    · exact h.receive i (WorkQueue.look_get { s.work with dispatch := s.work.dispatch.rouse i } i)
    · exact h
  | leave i => exact h.of_queue rfl
  | finish i x =>
    simp only [Clients.step]
    split_ifs with hx
    · exact h.finish hx
    · exact h
  | addAfter x d =>
    rcases s.work.queue_addAfter x d with e | e
    · exact h.of_queue e
    · exact h.of_add e
  | addRateLimited x reading =>
    rcases s.work.queue_addRateLimited x reading with e | e
    · exact h.of_queue e
    · exact h.of_add e
  | forget x => exact h.of_queue rfl
  | close => exact ⟨h.tidy.close, h.held⟩
  | alarm a =>
    simp only [Clients.step]
    split_ifs
    · exact h.of_add rfl
    · exact h
  | ring m => exact h.of_adds _ (s.work.queue_ring m)

lemma Sound.run (h : s.Sound) (ms : List (Move α ι)) : (s.run ms).Sound := by
  induction ms generalizing s with
  | nil => exact h
  | cons m ms ih => exact ih (h.step m)

end Clients

/-! ### Mutual exclusion -/

/-- **Mutual exclusion**: after any moves of any clients the line holds exactly the dirty items that
nobody has, no item is in two hands, and none waits twice. -/
theorem Clients.run_exclusive {ρ α ι : Type} [DecidableEq α] [DecidableEq ι] [Quantity ρ]
    (limiter : Limiter ρ α) (ms : List (Move α ι)) :
    let s := (opening limiter).run ms
    let q := s.work.queue
    q.line.Nodup ∧ (∀ x, x ∈ q.line ↔ x ∈ q.dirty ∧ x ∉ q.active) ∧ q.line.Disjoint q.active ∧
      (s.held.map (·.2)).Nodup ∧ (∀ x, x ∈ q.active ↔ ∃ i, (i, x) ∈ s.held) ∧
      ∀ x, q.line.count x + q.deferred.count x ≤ 1 := by
  intro s q
  have h : s.Sound := (sound_opening limiter).run ms
  refine ⟨h.tidy.line_nodup, h.tidy.mem_line, h.tidy.disjoint, ?_, fun x => ?_, h.tidy.count_le⟩
  · exact h.held.nodup_iff.2 h.tidy.active_nodup
  · rw [← h.held.mem_iff]
    simp

end Provisioner
