import Provisioner.Proofs.Queue.Receipts

/-!
No getter is overlooked.

As long as someone waits and there is something in the line, a getter has been called that has not
looked yet; nobody waits at a closed queue, and a call is kept only if nobody waits. A getter that looks
passes the call on if it leaves something behind, so it does not matter which of the getters look, and
when, and which of them give up.
-/

namespace Provisioner

namespace Signal

variable {ι : Type}

/-- A call is kept, or wakes the one who has waited longest. -/
lemma call_cases (s : Signal ι) :
    (s.waiting = [] ∧ s.call = { s with kept := true }) ∨
      ∃ i rest, s.waiting = i :: rest ∧
        s.call = { s with waiting := rest, woken := s.woken ++ [(i, true)] } := by
  unfold call
  split
  · exact .inl ⟨by assumption, rfl⟩
  · exact .inr ⟨_, _, by assumption, rfl⟩

/-- Those who give up neither wait nor look, and what they were called for is passed on. -/
lemma leave_cases [BEq ι] (s : Signal ι) (i : ι) :
    let t := { s with
      waiting := s.waiting.filter (· != i)
      woken := s.woken.filter (·.1 != i) }
    ((∃ w ∈ s.woken, w.1 == i ∧ w.2) ∧ s.leave i = t.call) ∨
      ((∀ w ∈ s.woken, ¬ (w.1 == i ∧ w.2)) ∧ s.leave i = t) := by
  unfold leave
  by_cases h : s.woken.any fun w => w.1 == i && w.2
  · exact .inl ⟨by simpa using h, if_pos h⟩
  · exact .inr ⟨by simpa using h, if_neg h⟩

end Signal

namespace Dispatch

variable {α ι : Type} {d : Dispatch α ι}

/-- Nobody waits beside a call that was kept, or at a closed queue. -/
structure Sane (d : Dispatch α ι) : Prop where
  kept : d.signal.kept = true → d.signal.waiting = []
  closed : d.queue.closed = true → d.signal.waiting = []

/-- Whenever someone waits beside items in the line, a getter has been called. -/
structure Alert (d : Dispatch α ι) : Prop extends d.Sane where
  called : d.signal.waiting ≠ [] → d.queue.line ≠ [] → ∃ i, (i, true) ∈ d.signal.woken

lemma alert_empty : ({} : Dispatch α ι).Alert :=
  ⟨⟨nofun, nofun⟩, fun h => absurd rfl h⟩

lemma Sane.consume (h : d.Sane) : Sane { d with signal := d.signal.consume } := ⟨nofun, h.closed⟩

/-- Where nobody is on the way to look, getters wait only for items to come. -/
lemma Alert.line_eq_nil (h : d.Alert) (hq : d.signal.woken = []) (hw : d.signal.waiting ≠ []) :
    d.queue.line = [] := by
  by_contra hl
  obtain ⟨i, hi⟩ := h.called hw hl
  simp [hq] at hi

/-- After a call there may be anything in the line. -/
lemma Sane.call {q : Queue α} (h : d.Sane) (hq : q.closed = d.queue.closed) :
    Alert { queue := q, signal := d.signal.call } := by
  rcases d.signal.call_cases with ⟨hw, e⟩ | ⟨i, rest, hw, e⟩
  · rw [e]
    exact ⟨⟨fun _ => hw, fun _ => hw⟩, fun hwait => absurd hw hwait⟩
  · have hk : d.signal.kept ≠ true := fun hk => by simp [h.kept hk] at hw
    have hc : q.closed ≠ true := fun hc => by simp [h.closed (hq ▸ hc)] at hw
    rw [e]
    exact ⟨⟨fun h => absurd h hk, fun h => absurd h hc⟩, fun _ _ => ⟨i, by simp⟩⟩

lemma Alert.change {q : Queue α} (h : d.Alert) (hq : q.closed = d.queue.closed) :
    (d.change q).Alert := by
  unfold Dispatch.change
  split_ifs with hgrown
  · exact h.toSane.call hq
  · -- the line is no longer than before, so if it holds something it did so before
    refine ⟨⟨h.kept, fun hc => h.closed (hq ▸ hc)⟩, fun hwait hline => h.called hwait fun hnil => ?_⟩
    simp only [Queue.hasGrown, hnil, List.length_nil, decide_eq_true_eq, Nat.not_lt, Nat.le_zero,
      List.length_eq_zero_iff] at hgrown
    exact hline hgrown

lemma alert_close (d : Dispatch α ι) : d.close.Alert :=
  ⟨⟨fun _ => rfl, fun _ => rfl⟩, fun hwait => absurd rfl hwait⟩

/-- One who gives up passes on what it was called for. -/
lemma Alert.leave [BEq ι] [LawfulBEq ι] (h : d.Alert) (i : ι) : (d.leave i).Alert := by
  have hsane : Sane { d with signal := { d.signal with
      waiting := d.signal.waiting.filter (· != i)
      woken := d.signal.woken.filter (·.1 != i) } } :=
    ⟨fun hk => by simp [h.kept hk], fun hc => by simp [h.closed hc]⟩
  unfold Dispatch.leave
  rcases d.signal.leave_cases i with ⟨-, e⟩ | ⟨hnone, e⟩
  · rw [e]
    exact hsane.call rfl
  · rw [e]
    refine ⟨hsane, fun hwait hline => ?_⟩
    obtain ⟨j, hj⟩ := h.called (fun hnil => hwait (by simp [hnil])) hline
    have hji : j ≠ i := fun e => hnone _ hj ⟨by simp [e], rfl⟩
    exact ⟨j, List.mem_filter.2 ⟨hj, by simpa using hji⟩⟩

/-- What a getter that gives up leaves to the others. -/
structure Spares (d d' : Dispatch α ι) [BEq ι] (i : ι) : Prop where
  queue : d'.queue = d.queue
  woken : ∀ w ∈ d.signal.woken, w.1 ≠ i → w ∈ d'.signal.woken
  waiting : ∀ j ∈ d.signal.waiting, j ≠ i → j ∈ d'.signal.waiting ∨ (j, true) ∈ d'.signal.woken
  /-- A call for it alone is for the one who has waited longest, or is kept. -/
  passed : (i, true) ∈ d.signal.woken →
    match d.signal.waiting.filter (· != i) with
    | [] => d'.signal.kept = true
    | j :: _ => (j, true) ∈ d'.signal.woken

lemma spares_leave [BEq ι] [LawfulBEq ι] (d : Dispatch α ι) (i : ι) : d.Spares (d.leave i) i := by
  unfold Dispatch.leave
  rcases d.signal.leave_cases i with ⟨-, e⟩ | ⟨hnone, e⟩
  · rw [e]
    rcases Signal.call_cases { d.signal with
        waiting := d.signal.waiting.filter (· != i)
        woken := d.signal.woken.filter (·.1 != i) } with ⟨hw, e⟩ | ⟨j, rest, hw, e⟩
    all_goals rw [e]; simp only at hw
    · refine ⟨rfl, fun w hwoken hi => ?_, fun j hj hi => ?_, fun _ => ?_⟩
      · exact List.mem_filter.2 ⟨hwoken, by simpa using hi⟩
      · exact .inl (List.mem_filter.2 ⟨hj, by simpa using hi⟩)
      · rw [hw]
    · refine ⟨rfl, fun w hwoken hi => ?_, fun k hk hi => ?_, fun _ => ?_⟩
      · exact List.mem_append_left _ (List.mem_filter.2 ⟨hwoken, by simpa using hi⟩)
      · have hmem : k ∈ j :: rest := hw ▸ List.mem_filter.2 ⟨hk, by simpa using hi⟩
        rcases List.mem_cons.1 hmem with rfl | hrest
        · exact .inr (by simp)
        · exact .inl hrest
      · rw [hw]
        simp
  · rw [e]
    refine ⟨rfl, fun w hwoken hi => ?_, fun j hj hi => ?_, fun hi => ?_⟩
    · exact List.mem_filter.2 ⟨hwoken, by simpa using hi⟩
    · exact .inl (List.mem_filter.2 ⟨hj, by simpa using hi⟩)
    · exact absurd ⟨by simp, rfl⟩ (hnone _ hi)

/-! ### What a look does to those who wait -/

section

variable [BEq α]

/-- An item goes out, and if others are left the next getter is called; or nothing is there. -/
lemma tryGet_cases (d : Dispatch α ι) :
    (∃ x q, d.queue.take = (some x, q) ∧ d.tryGet = (.item x,
        { queue := q, signal := if q.line = [] then d.signal.consume else d.signal.consume.call })) ∨
      (d.queue.line = [] ∧ d.queue.closed = true ∧
        d.tryGet = (.closed, { d with signal := d.signal.consume })) ∨
      (d.queue.line = [] ∧ d.queue.closed = false ∧
        d.tryGet = (.nothing, { d with signal := d.signal.consume })) := by
  unfold tryGet
  split
  · rename_i x q ht
    exact .inl ⟨x, q, ht, by simp⟩
  · rename_i q ht
    obtain ⟨hline, rfl⟩ := Queue.take_eq_none ht
    cases hc : d.queue.closed
    · exact .inr (.inr ⟨hline, rfl, by simp⟩)
    · exact .inr (.inl ⟨hline, rfl, by simp⟩)

/-- Only a getter that finds nothing waits. -/
lemma get_cases (d : Dispatch α ι) (i : ι) :
    (∃ x q, d.queue.take = (some x, q) ∧ d.get i = (.item x,
        { queue := q, signal := if q.line = [] then d.signal.consume else d.signal.consume.call })) ∨
      (d.queue.line = [] ∧ d.queue.closed = true ∧
        d.get i = (.closed, { d with signal := d.signal.consume })) ∨
      (d.queue.line = [] ∧ d.queue.closed = false ∧
        d.get i = (.nothing, { d with signal := d.signal.consume.wait i })) := by
  unfold get
  rcases d.tryGet_cases with ⟨x, q, ht, e⟩ | ⟨hl, hc, e⟩ | ⟨hl, hc, e⟩ <;> rw [e]
  · exact .inl ⟨x, q, ht, rfl⟩
  · exact .inr (.inl ⟨hl, hc, rfl⟩)
  · exact .inr (.inr ⟨hl, hc, rfl⟩)

end

variable [BEq α] [LawfulBEq α]

lemma Sane.take (h : d.Sane) {x : α} {q : Queue α} (ht : d.queue.take = (some x, q)) :
    Alert { queue := q,
            signal := if q.line = [] then d.signal.consume else d.signal.consume.call } := by
  have hq : q.closed = d.queue.closed := Queue.closed_take ht
  split_ifs with hline
  · exact ⟨⟨nofun, fun hc => h.closed (hq ▸ hc)⟩, fun _ hne => absurd hline hne⟩
  · exact h.consume.call hq

/-- It does not matter who had been called before. -/
lemma Sane.tryGet (h : d.Sane) : d.tryGet.2.Alert := by
  rcases d.tryGet_cases with ⟨x, q, ht, e⟩ | ⟨hline, -, e⟩ | ⟨hline, -, e⟩ <;> rw [e]
  · exact h.take ht
  · exact ⟨h.consume, fun _ hne => absurd hline hne⟩
  · exact ⟨h.consume, fun _ hne => absurd hline hne⟩

lemma Sane.get (h : d.Sane) (i : ι) : (d.get i).2.Alert := by
  rcases d.get_cases i with ⟨x, q, ht, e⟩ | ⟨hline, -, e⟩ | ⟨hline, hopen, e⟩ <;> rw [e]
  · exact h.take ht
  · exact ⟨h.consume, fun _ hne => absurd hline hne⟩
  · refine ⟨⟨nofun, fun hc => ?_⟩, fun _ hne => absurd hline hne⟩
    rw [hopen] at hc
    cases hc

lemma Alert.add (h : d.Alert) (x : α) : (d.add x).Alert := h.change (d.queue.closed_add x)

lemma Alert.adds (h : d.Alert) (xs : List α) : (xs.foldl Dispatch.add d).Alert := by
  induction xs generalizing d with
  | nil => exact h
  | cons x xs ih => exact ih (h.add x)

end Dispatch

/-! ### The work queue and its clients -/

namespace WorkQueue

variable {ρ α ι : Type} [BEq α]

lemma dispatch_addAfter (w : WorkQueue ρ α ι) (x : α) (d : Delay) :
    (w.addAfter x d).dispatch = w.dispatch ∨ (w.addAfter x d).dispatch = w.dispatch.add x := by
  unfold addAfter
  split_ifs
  · exact .inl rfl
  · exact .inr rfl
  · exact .inl rfl

lemma dispatch_addRateLimited [Quantity ρ] (w : WorkQueue ρ α ι) (x : α) (reading : Nat) :
    (w.addRateLimited x reading).2.dispatch = w.dispatch ∨
      (w.addRateLimited x reading).2.dispatch = w.dispatch.add x := by
  unfold addRateLimited
  split
  · exact .inl rfl
  · exact dispatch_addAfter ..

end WorkQueue

namespace Clients

variable {ρ α ι : Type} [DecidableEq α] [DecidableEq ι] [Quantity ρ] {s : Clients ρ α ι}

/-- **Step**: no move of any client makes a getter be overlooked. -/
lemma alert_step (h : s.work.dispatch.Alert) (m : Move α ι) : (s.step m).work.dispatch.Alert := by
  cases m with
  | add x => exact h.add x
  | look i => exact h.tryGet
  | get i => exact h.get i
  | resume i =>
    simp only [step]
    split_ifs
    · -- the one who looks has been called no longer, but it will call another one
      have hsane : (s.work.dispatch.rouse i).Sane := ⟨h.kept, h.closed⟩
      exact hsane.get i
    · exact h
  | leave i => exact h.leave i
  | finish i x =>
    simp only [step]
    split_ifs
    · exact h.change rfl
    · exact h
  | addAfter x d =>
    rcases s.work.dispatch_addAfter x d with e | e
    · exact e ▸ h
    · exact e ▸ h.add x
  | addRateLimited x reading =>
    rcases s.work.dispatch_addRateLimited x reading with e | e
    · exact e ▸ h
    · exact e ▸ h.add x
  | forget x => exact h
  | close => exact s.work.dispatch.alert_close
  | alarm a =>
    simp only [step]
    split_ifs
    · exact h.add a.2
    · exact h
  | ring m =>
    have e : (s.work.ring m).dispatch = (s.work.timers.ring m).1.foldl Dispatch.add s.work.dispatch :=
      congrArg WorkQueue.dispatch (WorkQueue.foldl_add _ _)
    exact e ▸ h.adds _

/-- **Run**: no getter is ever overlooked. -/
lemma alert_run (h : s.work.dispatch.Alert) (ms : List (Move α ι)) :
    (s.run ms).work.dispatch.Alert := by
  induction ms generalizing s with
  | nil => exact h
  | cons m ms ih => exact ih (alert_step h m)

end Clients

end Provisioner
