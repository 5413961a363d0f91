import Provisioner.Proofs.Queue.Clients

/-!
The books of a work queue, and that they balance.

Entered are the items that an addition marks, those that are put into the line and those that are
handed out, each in order. Every mark has been used up by a hand-out or is still there, and the
items go out in the order in which they were put into the line.
-/

namespace Provisioner

structure Ledger (α : Type) where
  /-- Marked by an addition, and not marked before. -/
  marked : List α := []
  /-- Put at the end of the line. -/
  lined : List α := []
  handed : List α := []
  deriving DecidableEq

namespace Ledger

variable {α : Type}

instance : Append (Ledger α) where
  append l m := ⟨l.marked ++ m.marked, l.lined ++ m.lined, l.handed ++ m.handed⟩

lemma append_assoc (l m n : Ledger α) : l ++ m ++ n = l ++ (m ++ n) := by
  change Ledger.mk _ _ _ = Ledger.mk _ _ _
  simp only [mk.injEq]
  exact ⟨List.append_assoc .., List.append_assoc .., List.append_assoc ..⟩

lemma append_empty (l : Ledger α) : l ++ ({} : Ledger α) = l := by
  change Ledger.mk _ _ _ = l
  simp

def ofFetch : Fetch α → Ledger α
  | .item x => { handed := [x] }
  | .closed | .nothing => {}

/-- The books agree with what is in the queue. -/
structure Balances [DecidableEq α] (l : Ledger α) (q : Queue α) : Prop where
  marks : ∀ x, l.marked.count x = l.handed.count x + if x ∈ q.dirty then 1 else 0
  order : l.handed ++ q.line = l.lined

end Ledger

namespace Queue

variable {α : Type}

/-- What an operation puts at the end of the line. -/
def appended (q q' : Queue α) : List α := q'.line.drop q.line.length

variable [DecidableEq α] {q q' : Queue α} {x : α} {l : Ledger α}

/-- The entry for an addition. -/
def entry (q : Queue α) (x : α) : Ledger α where
  marked := if x ∉ q.dirty ∧ x ∈ (q.add x).dirty then [x] else []
  lined := q.appended (q.add x)

/-- The entries for additions in a row. -/
def entries (q : Queue α) : List α → Ledger α
  | [] => {}
  | x :: xs => q.entry x ++ (q.add x).entries xs

end Queue

namespace Ledger.Balances

open Queue

variable {α : Type} [DecidableEq α] {q q' : Queue α} {x : α} {l : Ledger α}

lemma add (h : l.Balances q) (x : α) : (l ++ q.entry x).Balances (q.add x) := by
  have marked (hx : x ∉ q.dirty) (y : α) : (l.marked ++ [x]).count y =
      (l.handed ++ []).count y + if y ∈ q.dirty ++ [x] then 1 else 0 := by
    have hy := h.marks y
    grind
  rcases q.add_cases x with ⟨-, e⟩ | ⟨-, hx, -, e⟩ | ⟨-, hx, -, e⟩
  · -- nothing is taken in
    have he : q.entry x = {} := by simp [entry, appended, e]
    rw [he, append_empty, e]
    exact h
  · have he : q.entry x = { marked := [x] } := by simp [entry, appended, e, hx]
    rw [he, e]
    refine ⟨marked hx, ?_⟩
    change l.handed ++ [] ++ q.line = l.lined ++ []
    simpa using h.order
  · have he : q.entry x = { marked := [x], lined := [x] } := by simp [entry, appended, e, hx]
    rw [he, e]
    refine ⟨marked hx, ?_⟩
    change l.handed ++ [] ++ (q.line ++ [x]) = l.lined ++ [x]
    rw [List.append_nil, ← List.append_assoc, h.order]

lemma adds (h : l.Balances q) (xs : List α) :
    (l ++ q.entries xs).Balances (xs.foldl Queue.add q) := by
  induction xs generalizing q l with
  | nil => simpa [entries, append_empty] using h
  | cons x xs ih =>
    rw [entries, ← append_assoc]
    exact ih (h.add x)

/-- What is handed out was first in the line, and marked. -/
lemma look {f : Fetch α} (h : l.Balances q) (ht : q.Tidy) (hl : q.Look f q') :
    (l ++ ofFetch f).Balances q' := by
  cases hl with
  | @item x _ hx =>
    obtain ⟨xs, hline, e⟩ := take_eq_some hx
    have hdirty : x ∈ q.dirty := ((ht.mem_line x).1 (by simp [hline])).1
    refine ⟨fun y => ?_, ?_⟩
    · have hy := h.marks y
      have hd : y ∈ q'.dirty ↔ y ∈ q.dirty ∧ y ≠ x := mem_dirty_take hx
      change (l.marked ++ []).count y = (l.handed ++ [x]).count y + if y ∈ q'.dirty then 1 else 0
      grind
    · change l.handed ++ [x] ++ q'.line = l.lined ++ []
      rw [e, List.append_assoc, List.append_nil]
      simpa [hline] using h.order
  | closed | nothing => simpa [ofFetch, append_empty] using h

/-- Only what was marked meanwhile goes back into the line. -/
lemma finish (h : l.Balances q) (x : α) :
    (l ++ { lined := q.appended (q.finish x) }).Balances (q.finish x) := by
  refine ⟨fun y => ?_, ?_⟩
  · change (l.marked ++ []).count y = (l.handed ++ []).count y + if y ∈ q.dirty then 1 else 0
    simpa using h.marks y
  · change l.handed ++ [] ++ (q.finish x).line = l.lined ++ q.appended (q.finish x)
    by_cases hx : x ∈ q.dirty
    · have e : (q.finish x).line = q.line ++ [x] := by simp [Queue.finish, hx]
      rw [appended, e, List.append_nil, ← List.append_assoc, h.order]
      simp
    · have e : (q.finish x).line = q.line := by simp [Queue.finish, hx]
      rw [appended, e, List.append_nil, h.order]
      simp

end Ledger.Balances

namespace Clients

variable {ρ α ι : Type} [Quantity ρ] [DecidableEq α]

/-- The additions that a move comes to: with a delay there is none before the alarm. -/
def additions (s : Clients ρ α ι) : Move α ι → List α
  | .add x => [x]
  | .addAfter x d => if d.nanos = 0 then [x] else []
  | .addRateLimited x reading =>
    match (s.work.limiter.next x reading).1 with
    | some d => if d.nanos = 0 then [x] else []
    | none => []
  | .alarm a => if s.work.timers.alarms.contains a then [a.2] else []
  | .ring m => (s.work.timers.ring m).1
  | _ => []

variable [DecidableEq ι]

/-- What is entered for a move. -/
def entry (s : Clients ρ α ι) : Move α ι → Ledger α
  | .look _ => .ofFetch s.work.tryGet.1
  | .get i => .ofFetch (s.work.get i).1
  | .resume i =>
    if s.work.dispatch.signal.woken.any (·.1 == i) then
      .ofFetch ({ s.work with dispatch := s.work.dispatch.rouse i }.get i).1
    else {}
  | .finish i x =>
    if s.held.contains (i, x) then { lined := s.work.queue.appended (s.work.queue.finish x) }
    else {}
  | m => s.work.queue.entries (s.additions m)

/-- The books after the moves. -/
def ledger (s : Clients ρ α ι) : List (Move α ι) → Ledger α
  | [] => {}
  | m :: ms => s.entry m ++ (s.step m).ledger ms

end Clients

namespace WorkQueue

variable {ρ α ι : Type} [DecidableEq α]

lemma queue_addAfter_eq (w : WorkQueue ρ α ι) (x : α) (d : Delay) :
    (w.addAfter x d).queue = (if d.nanos = 0 then [x] else []).foldl Queue.add w.queue := by
  unfold addAfter
  split_ifs with hc hd
  · simp [Queue.add, hc]
  · rfl
  · rfl
  · rfl

end WorkQueue

namespace Clients

variable {ρ α ι : Type} [Quantity ρ] [DecidableEq α] [DecidableEq ι] {s : Clients ρ α ι}
  {l : Ledger α}

omit [DecidableEq ι] in
lemma queue_addRateLimited_eq (s : Clients ρ α ι) (x : α) (reading : Nat) :
    (s.work.addRateLimited x reading).2.queue =
      (s.additions (.addRateLimited x reading)).foldl Queue.add s.work.queue := by
  simp only [additions, WorkQueue.addRateLimited]
  split
  · rename_i hn
    simp [hn, WorkQueue.queue]
  · rename_i d limiter hn
    simp only [hn]
    exact WorkQueue.queue_addAfter_eq _ x d

/-- **Step**: a move keeps the books in balance. -/
lemma balances_step (h : s.Sound) (hl : l.Balances s.work.queue) (m : Move α ι) :
    (l ++ s.entry m).Balances (s.step m).work.queue := by
  have looked {w w' : WorkQueue ρ α ι} {f : Fetch α} (hw : w.queue = s.work.queue)
      (hf : w.queue.Look f w'.queue) : (l ++ .ofFetch f).Balances w'.queue :=
    hl.look h.tidy (hw ▸ hf)
  have idle {q : Queue α} (hd : q.dirty = s.work.queue.dirty) (hq : q.line = s.work.queue.line) :
      (l ++ ({} : Ledger α)).Balances q := by
    rw [Ledger.append_empty]
    exact ⟨fun x => by rw [hd]; exact hl.marks x, by rw [hq]; exact hl.order⟩
  cases m with
  | add x => exact hl.adds [x]
  | look i => exact looked rfl s.work.look_tryGet
  | get i => exact looked rfl (s.work.look_get i)
  | resume i =>
    simp only [Clients.step, entry]
    split_ifs
    · exact looked rfl (WorkQueue.look_get { s.work with dispatch := s.work.dispatch.rouse i } i)
    · exact idle rfl rfl
  | leave i => exact idle rfl rfl
  | finish i x =>
    simp only [Clients.step, entry, List.contains_iff_mem]
    split_ifs
    · exact hl.finish x
    · exact idle rfl rfl
  | addAfter x d =>
    change (l ++ s.work.queue.entries (s.additions _)).Balances (s.work.addAfter x d).queue
    rw [WorkQueue.queue_addAfter_eq]
    exact hl.adds _
  | addRateLimited x reading =>
    change (l ++ s.work.queue.entries (s.additions _)).Balances
      (s.work.addRateLimited x reading).2.queue
    rw [queue_addRateLimited_eq]
    exact hl.adds _
  | forget x => exact idle rfl rfl
  | close => exact idle rfl rfl
  | alarm a =>
    simp only [Clients.step, entry, additions, List.contains_iff_mem]
    split_ifs
    · exact hl.adds [a.2]
    · exact hl.adds []
  | ring m =>
    change (l ++ s.work.queue.entries (s.additions _)).Balances (s.work.ring m).queue
    rw [WorkQueue.queue_ring]
    exact hl.adds _

/-- **Run**: the books stay in balance. -/
lemma balances_run (h : s.Sound) (hl : l.Balances s.work.queue) (ms : List (Move α ι)) :
    (l ++ s.ledger ms).Balances (s.run ms).work.queue := by
  induction ms generalizing s l with
  | nil =>
    rw [ledger, Ledger.append_empty]
    exact hl
  | cons m ms ih =>
    rw [ledger, ← Ledger.append_assoc]
    exact ih (h.step m) (balances_step h hl m)

/-- **Conservation**: after any moves of any clients, each item was marked by an addition as often
as it was handed out, and once more if it is marked now; and the items that were handed out,
followed by those in the line, are the items that were put into the line, in that order. -/
theorem run_conserves (limiter : Limiter ρ α) (ms : List (Move α ι)) :
    let s : Clients ρ α ι := (opening limiter).run ms
    let l := (opening limiter : Clients ρ α ι).ledger ms
    (∀ x, l.marked.count x = l.handed.count x + if x ∈ s.work.queue.dirty then 1 else 0) ∧
      l.handed ++ s.work.queue.line = l.lined := by
  intro s l
  have hopen : ({} : Ledger α).Balances (opening limiter : Clients ρ α ι).work.queue :=
    ⟨fun x => rfl, rfl⟩
  have hl : l.Balances s.work.queue := balances_run (sound_opening limiter) hopen ms
  exact ⟨hl.marks, hl.order⟩

/-- An item is added twice before it is handed out, and again while someone has it. -/
example : (opening (.worst []) : Clients Rat String Nat).ledger
    [.add "a", .add "b", .add "a", .look 0, .add "a", .finish 0 "a"] =
      { marked := ["a", "b", "a"], lined := ["a", "b", "a"], handed := ["a"] } := by decide

end Clients

end Provisioner
