import Provisioner.Proofs.Queue.Receipts

/-!
A closed work queue runs empty.

Nothing is marked any more once the queue is closed, so what is still handed out was dirty then, and
each hand-out uses a mark up. Items that were marked while someone had them go back into the line even
now; when nobody has anything and the line is empty, no mark is left.
-/

namespace Provisioner

namespace Queue

variable {α : Type} [DecidableEq α] {q q' : Queue α}

lemma entries_of_closed (h : q.closed = true) (xs : List α) : (q.entries xs).marked = [] := by
  induction xs with
  | nil => rfl
  | cons x xs ih =>
    have hx : (q.entry x).marked = [] := by simp [entry, add_of_closed h]
    change (q.entry x).marked ++ ((q.add x).entries xs).marked = []
    rw [hx, add_of_closed h, ih, List.append_nil]

lemma Look.closed_eq {f : Fetch α} (h : q.Look f q') : q'.closed = q.closed := by
  cases h with
  | item ht => exact closed_take ht
  | closed | nothing => rfl

end Queue

/-- The books of a queue that starts out as it is: all that is dirty has been marked before. -/
lemma Ledger.balances_of_tidy {α : Type} [DecidableEq α] {q : Queue α} (h : q.Tidy) :
    Balances { marked := q.dirty, lined := q.line } q where
  marks x := by simpa using h.dirty_nodup.count
  order := rfl

namespace Clients

variable {ρ α ι : Type} [Quantity ρ] [DecidableEq α] [DecidableEq ι] {s : Clients ρ α ι}

/-! ### A closed queue -/

/-- **Step**: a closed queue stays closed. -/
lemma closed_step (h : s.work.queue.closed = true) (m : Move α ι) :
    (s.step m).work.queue.closed = true := by
  have adds {w : WorkQueue ρ α ι} (xs : List α) (hw : w.queue = xs.foldl Queue.add s.work.queue) :
      w.queue.closed = true := by rw [hw, Queue.closed_adds, h]
  cases m with
  | add x => exact adds [x] rfl
  | look i => exact s.work.look_tryGet.closed_eq.trans h
  | get i => exact (s.work.look_get i).closed_eq.trans h
  | resume i =>
    simp only [step]
    split_ifs
    · exact (WorkQueue.look_get
        { s.work with dispatch := s.work.dispatch.rouse i } i).closed_eq.trans h
    · exact h
  | leave i => exact h
  | finish i x =>
    simp only [step]
    split_ifs <;> exact h
  | addAfter x d => exact adds _ (s.work.queue_addAfter_eq x d)
  | addRateLimited x reading => exact adds _ (s.queue_addRateLimited_eq x reading)
  | forget x => exact h
  | close => rfl
  | alarm a =>
    simp only [step]
    split_ifs
    · exact adds [a.2] rfl
    · exact h
  | ring m => exact adds _ (s.work.queue_ring m)

lemma marked_entry (h : s.work.queue.closed = true) (m : Move α ι) : (s.entry m).marked = [] := by
  have fetched (f : Fetch α) : (Ledger.ofFetch f).marked = [] := by cases f <;> rfl
  cases m with
  | look i => exact fetched _
  | get i => exact fetched _
  | resume i =>
    simp only [entry]
    split_ifs
    · exact fetched _
    · rfl
  | finish i x =>
    simp only [entry]
    split_ifs <;> rfl
  | add | leave | addAfter | addRateLimited | forget | close | alarm | ring =>
    exact Queue.entries_of_closed h _

/-- **Run**: nothing is marked after the queue was closed. -/
lemma marked_ledger (h : s.work.queue.closed = true) (ms : List (Move α ι)) :
    (s.ledger ms).marked = [] := by
  induction ms generalizing s with
  | nil => rfl
  | cons m ms ih =>
    change (s.entry m).marked ++ ((s.step m).ledger ms).marked = []
    rw [marked_entry h, ih (closed_step h m), List.append_nil]

/-- What was dirty when the queue was closed has been handed out since, or is still dirty. -/
lemma dirty_perm (h : s.Sound) (hc : s.work.queue.closed = true) (ms : List (Move α ι)) :
    s.work.queue.dirty.Perm
      ((s.receipts ms).map (·.2) ++ (s.run ms).work.queue.dirty) := by
  have hl := (balances_run h (Ledger.balances_of_tidy h.tidy) ms).marks
  refine List.perm_iff_count.2 fun x => ?_
  have hx : (s.work.queue.dirty ++ (s.ledger ms).marked).count x =
      ([] ++ (s.ledger ms).handed).count x +
        if x ∈ (s.run ms).work.queue.dirty then 1 else 0 := hl x
  rw [marked_ledger hc, List.append_nil, List.nil_append, handed_ledger] at hx
  rw [hx, List.count_append, (h.run ms).tidy.dirty_nodup.count]

/-- **Draining**: whatever is done after any clients' queue was closed, nothing becomes dirty that was
not dirty when it was closed, and what is handed out was dirty then, each item at most once, so that
there are no more hand-outs than dirty items. When nobody has an item and someone who looks is told
that the queue is closed, all items that were dirty have been handed out, each exactly once. -/
theorem run_drains (limiter : Limiter ρ α) (before after : List (Move α ι)) :
    let s : Clients ρ α ι := (opening limiter).run before
    let s' := (s.step .close).run after
    let handed := ((s.step .close).receipts after).map (·.2)
    (∀ x ∈ s'.work.queue.dirty, x ∈ s.work.queue.dirty) ∧
      handed.Nodup ∧ (∀ x ∈ handed, x ∈ s.work.queue.dirty) ∧
      handed.length ≤ s.work.queue.dirty.length ∧
      (s'.held = [] → ∀ m i, s'.fetch? m = some (i, .closed) →
        handed.Perm s.work.queue.dirty) := by
  intro s s' handed
  have hs : (s.step .close).Sound := ((sound_opening limiter).run before).step .close
  have hperm : s.work.queue.dirty.Perm (handed ++ s'.work.queue.dirty) := dirty_perm hs rfl after
  have hnodup : (handed ++ s'.work.queue.dirty).Nodup :=
    hperm.nodup_iff.1 hs.tidy.dirty_nodup
  refine ⟨fun x hx => ?_, hnodup.of_append_left, fun x hx => ?_, ?_, fun hheld m i hm => ?_⟩
  · exact hperm.mem_iff.2 (List.mem_append_right _ hx)
  · exact hperm.mem_iff.2 (List.mem_append_left _ hx)
  · rw [hperm.length_eq, List.length_append]
    exact Nat.le_add_right _ _
  · have hs' : s'.Sound := hs.run after
    have hactive : s'.work.queue.active = [] := by
      have hp := hs'.held
      rwa [hheld, List.map_nil, List.nil_perm] at hp
    rw [hs'.tidy.dirty_eq_nil (fetch_closed hm).1 hactive, List.append_nil] at hperm
    exact hperm.symm

/-- One item waits, one is marked while someone has it; two more come too late. -/
example :
    let s : Clients Rat String Nat :=
      (opening (.worst [])).run [.add "a", .add "b", .look 0, .add "a"]
    let after : List (Move String Nat) :=
      [.close, .add "c", .look 1, .addAfter "d" .zero, .finish 1 "b", .finish 0 "a", .look 0,
        .finish 0 "a"]
    s.receipts after = [(1, "b"), (0, "a")] ∧ (s.run after).held = [] ∧
      (s.run after).fetch? (.look 2) = some (2, .closed) := by decide

end Clients

end Provisioner
