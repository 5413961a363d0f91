import Provisioner.Proofs.Queue.Conservation

/-!
Who came away with what.

A look ends with an item, with the word that the queue is closed, or with nothing. The receipts of a
run are the items that were handed out in it, each with the one getter that took it.
-/

namespace Provisioner

/-- Nothing is handed out by additions. -/
lemma Queue.handed_entries {α : Type} [DecidableEq α] (q : Queue α) (xs : List α) :
    (q.entries xs).handed = [] := by
  induction xs generalizing q with
  | nil => rfl
  | cons x xs ih => exact ih (q.add x)

namespace Clients

variable {ρ α ι : Type} [DecidableEq α] [DecidableEq ι] {s : Clients ρ α ι}

/-- Who looks in a move, and what it comes away with. -/
def fetch? (s : Clients ρ α ι) : Move α ι → Option (ι × Fetch α)
  | .look i => some (i, s.work.tryGet.1)
  | .get i => some (i, (s.work.get i).1)
  | .resume i =>
    if s.work.dispatch.signal.woken.any (·.1 == i) then
      some (i, ({ s.work with dispatch := s.work.dispatch.rouse i }.get i).1)
    else none
  | _ => none

/-- What is handed out in a move, and to whom. -/
def receipt (s : Clients ρ α ι) (m : Move α ι) : List (ι × α) :=
  match s.fetch? m with
  | some (i, .item x) => [(i, x)]
  | _ => []

variable [Quantity ρ]

/-- Whoever looks sees the queue as it is, and has what it comes away with. -/
lemma look_of_fetch {m : Move α ι} {i : ι} {f : Fetch α} (h : s.fetch? m = some (i, f)) :
    ∃ w, s.step m = s.receive i (f, w) ∧ s.work.queue.Look f w.queue := by
  cases m with
  | look j =>
    simp only [fetch?, Option.some.injEq, Prod.mk.injEq] at h
    obtain ⟨rfl, rfl⟩ := h
    exact ⟨s.work.tryGet.2, rfl, s.work.look_tryGet⟩
  | get j =>
    simp only [fetch?, Option.some.injEq, Prod.mk.injEq] at h
    obtain ⟨rfl, rfl⟩ := h
    exact ⟨(s.work.get j).2, rfl, s.work.look_get j⟩
  | resume j =>
    simp only [fetch?, Option.ite_none_right_eq_some, Option.some.injEq, Prod.mk.injEq] at h
    obtain ⟨hwoken, rfl, rfl⟩ := h
    let w : WorkQueue ρ α ι := { s.work with dispatch := s.work.dispatch.rouse j }
    exact ⟨(w.get j).2, by rw [step, if_pos hwoken], w.look_get j⟩
  | add | leave | finish | addAfter | addRateLimited | forget | close | alarm | ring =>
    simp [fetch?] at h

/-- Whoever is told that the queue is closed has found the line empty, and leaves everything as it is. -/
lemma fetch_closed {m : Move α ι} {i : ι} (h : s.fetch? m = some (i, .closed)) :
    s.work.queue.line = [] ∧ s.work.queue.closed = true ∧
      (s.step m).work.queue = s.work.queue ∧ (s.step m).held = s.held := by
  obtain ⟨w, hstep, hlook⟩ := look_of_fetch h
  generalize hw : w.queue = q at hlook
  cases hlook with
  | closed hline hclosed =>
    rw [hstep]
    exact ⟨hline, hclosed, hw, rfl⟩

/-- What the moves of a run tell, in order. -/
def trace {τ : Type} (tell : Clients ρ α ι → Move α ι → List τ) (s : Clients ρ α ι) :
    List (Move α ι) → List τ
  | [] => []
  | m :: ms => tell s m ++ trace tell (s.step m) ms

lemma trace_append {τ : Type} (tell : Clients ρ α ι → Move α ι → List τ) (s : Clients ρ α ι)
    (ms ns : List (Move α ι)) :
    s.trace tell (ms ++ ns) = s.trace tell ms ++ (s.run ms).trace tell ns := by
  induction ms generalizing s with
  | nil => rfl
  | cons m ms ih =>
    rw [List.cons_append, trace, trace, ih (s.step m), List.append_assoc]
    rfl

/-- What is handed out in a run, and to whom. -/
def receipts (s : Clients ρ α ι) (ms : List (Move α ι)) : List (ι × α) := s.trace receipt ms

lemma handed_entry (s : Clients ρ α ι) (m : Move α ι) :
    (s.entry m).handed = (s.receipt m).map (·.2) := by
  have fetched (i : ι) (f : Fetch α) (h : s.fetch? m = some (i, f)) :
      (Ledger.ofFetch f).handed = (s.receipt m).map (·.2) := by
    cases f <;> simp [receipt, h, Ledger.ofFetch]
  cases m with
  | look i => exact fetched i _ rfl
  | get i => exact fetched i _ rfl
  | resume i =>
    by_cases hw : s.work.dispatch.signal.woken.any (·.1 == i)
    · rw [entry, if_pos hw]
      exact fetched i _ (if_pos hw)
    · simp only [entry, receipt, fetch?, if_neg hw]
      rfl
  | finish i x =>
    simp only [entry]
    split_ifs <;> rfl
  | add | leave | addAfter | addRateLimited | forget | close | alarm | ring =>
    exact Queue.handed_entries _ _

/-- The items that were handed out, in order, with the names of those who took them. -/
lemma handed_ledger (s : Clients ρ α ι) (ms : List (Move α ι)) :
    (s.ledger ms).handed = (s.receipts ms).map (·.2) := by
  induction ms generalizing s with
  | nil => rfl
  | cons m ms ih =>
    rw [receipts, trace, List.map_append, ← handed_entry]
    exact congrArg _ (ih (s.step m))

end Clients

end Provisioner
