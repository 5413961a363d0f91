import Provisioner.Proofs.Queue.Drain

/-!
What may be handed out after someone was told that the queue is closed.

The line is empty then, but an item that was marked before the queue was closed may be in someone's
hands. It goes back into the line when it is finished, and to whoever looks next.
-/

namespace Provisioner

/-- When the line is empty all that is marked is in someone's hands. -/
lemma Queue.Tidy.deferred_eq {α : Type} [DecidableEq α] {q : Queue α} (h : q.Tidy)
    (hline : q.line = []) : q.deferred = q.dirty := by
  refine List.filter_eq_self.2 fun x hx => ?_
  by_contra hactive
  have hmem : x ∈ q.line := (h.mem_line x).2 ⟨hx, by simpa using hactive⟩
  simp [hline] at hmem

namespace Clients

variable {ρ α ι : Type} [DecidableEq α] [DecidableEq ι] {s : Clients ρ α ι}

/-- What stands in front of the line goes to whoever looks. -/
lemma receipt_look {x : α} {xs : List α} (h : s.work.queue.line = x :: xs) (i : ι) :
    s.receipt (.look i) = [(i, x)] := by
  have hline : s.work.dispatch.queue.line = x :: xs := h
  simp [receipt, fetch?, WorkQueue.tryGet, Dispatch.tryGet, Queue.take, hline]

variable [Quantity ρ]

/-- A marked item that is finished comes to whoever looks next. -/
lemma receipts_finish_look {i : ι} {x : α} (hline : s.work.queue.line = [])
    (hheld : (i, x) ∈ s.held) (hdirty : x ∈ s.work.queue.dirty) (j : ι) :
    s.receipts [.finish i x, .look j] = [(j, x)] := by
  have hstep : s.step (.finish i x) =
      { work := s.work.finish x, held := s.held.erase (i, x) } := if_pos hheld
  have hback : (s.step (.finish i x)).work.queue.line = x :: [] := by
    rw [hstep, WorkQueue.queue_finish]
    simp [Queue.finish, hline, hdirty]
  have hnone : s.receipt (.finish i x) = [] := rfl
  simp [receipts, trace, hnone, receipt_look hback]

/-- **The end is not always final**: when someone has been told that the queue is closed, in whatever
state any moves of any clients have led to, what is handed out afterwards was marked while someone had
it, and is handed out at most once, whatever is done. Such an item does come to whoever looks once it is
finished; so nothing is ever handed out again if and only if nothing was marked that someone had. -/
theorem run_after_closed (limiter : Limiter ρ α) (before : List (Move α ι)) (m : Move α ι) (i : ι)
    (h : ((opening limiter).run before).fetch? m = some (i, .closed)) :
    let s : Clients ρ α ι := (opening limiter).run before
    let deferred := s.work.queue.deferred
    (∀ after, let handed := ((s.step m).receipts after).map (·.2)
      handed.Nodup ∧ ∀ x ∈ handed, x ∈ deferred) ∧
      (∀ x ∈ deferred, ∃ j, (j, x) ∈ s.held ∧
        ∀ k, (s.step m).receipts [.finish j x, .look k] = [(k, x)]) ∧
      ((∀ after, (s.step m).receipts after = []) ↔ deferred = []) := by
  intro s deferred
  have hs : s.Sound := (sound_opening limiter).run before
  obtain ⟨hline, hclosed, hqueue, hheld⟩ := fetch_closed h
  have hdeferred : deferred = s.work.queue.dirty := hs.tidy.deferred_eq hline
  have bound (after : List (Move α ι)) :
      let handed := ((s.step m).receipts after).map (·.2)
      handed.Nodup ∧ ∀ x ∈ handed, x ∈ deferred := by
    intro handed
    have hperm := dirty_perm (hs.step m) (by rw [hqueue]; exact hclosed) after
    rw [hqueue] at hperm
    refine ⟨(hperm.nodup_iff.1 hs.tidy.dirty_nodup).of_append_left, fun x hx => ?_⟩
    rw [hdeferred]
    exact hperm.mem_iff.2 (List.mem_append_left _ hx)
  have reached (x : α) (hx : x ∈ deferred) : ∃ j, (j, x) ∈ s.held ∧
      ∀ k, (s.step m).receipts [.finish j x, .look k] = [(k, x)] := by
    obtain ⟨hdirty, hactive⟩ := List.mem_filter.1 hx
    obtain ⟨⟨j, _⟩, hj, rfl⟩ := List.mem_map.1 (hs.held.mem_iff.2 (List.contains_iff_mem.1 hactive))
    refine ⟨j, hj, receipts_finish_look ?_ ?_ ?_⟩
    · rw [hqueue, hline]
    · rwa [hheld]
    · rwa [hqueue]
  refine ⟨bound, reached, fun hnone => ?_, fun hempty after => ?_⟩
  · refine List.eq_nil_iff_forall_not_mem.2 fun x hx => ?_
    obtain ⟨j, -, hreceipt⟩ := reached x hx
    have hlook := hreceipt j
    simp [hnone] at hlook
  · refine List.eq_nil_iff_forall_not_mem.2 fun r hr => ?_
    have hr' : r.2 ∈ deferred := (bound after).2 r.2 (List.mem_map_of_mem hr)
    simp [hempty] at hr'

/-- `orders` is marked while the first getter has it, and `ledger` is not. -/
theorem run_after_closed_orders :
    let before : List (Move String Nat) :=
      [.add "orders", .add "ledger", .look 0, .look 1, .add "orders", .close]
    let s : Clients Rat String Nat := (opening (.worst [])).run before
    s.fetch? (.get 2) = some (2, .closed) ∧ s.work.queue.deferred = ["orders"] ∧
      ¬ ∀ after, (s.step (.get 2)).receipts after = [] := by
  intro before s
  have hclosed : s.fetch? (.get 2) = some (2, .closed) := by decide
  have hdeferred : s.work.queue.deferred = ["orders"] := by decide
  refine ⟨hclosed, hdeferred, fun hnone => ?_⟩
  have hempty := (run_after_closed (.worst []) before (.get 2) 2 hclosed).2.2.1 hnone
  exact absurd (hdeferred.symm.trans hempty) (by simp)

/-- The second getter is told that the queue is closed, and later it is handed an item. -/
theorem orders_handed_after_closed :
    let s : Clients Rat String Nat := (opening (.worst [])).run
      [.add "orders", .look 0, .add "orders", .close]
    s.fetch? (.look 1) = some (1, .closed) ∧
      (s.step (.look 1)).receipts [.finish 0 "orders", .look 1] = [(1, "orders")] := by decide

end Clients

end Provisioner
