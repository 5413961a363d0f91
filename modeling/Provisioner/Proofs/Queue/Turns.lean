import Mathlib.Data.List.Permutation
import Provisioner.Proofs.Queue.Alert
import Provisioner.Queue.Session

/-!
Getters that look in turn.

When every getter that was woken has its turn before the next operation, those who wait are served in
the order in which they came: an operation puts at most one item into the line, and whoever is called
for it finds it there.
-/

namespace Provisioner

namespace Dispatch

variable {α ι : Type} [BEq α] {d : Dispatch α ι}

/-! ### The turns of the woken getters -/

lemma resume?_of_woken {i : ι} {b : Bool} {rest : List (ι × Bool)}
    (h : d.signal.woken = (i, b) :: rest) :
    let d' : Dispatch α ι := { d with signal := { d.signal with woken := rest } }
    d.resume? = some ((i, (d'.get i).1), (d'.get i).2) := by
  simp [resume?, Signal.next?, h]

lemma settle_of_quiet (h : d.signal.woken = []) : d.settle = ([], d) := by
  have hr : d.resume? = none := by simp [resume?, Signal.next?, h]
  rw [settle]
  split <;> simp_all

lemma settle_of_resume? {r : ι × Fetch α} {e : Dispatch α ι} (h : d.resume? = some (r, e)) :
    d.settle = (r :: e.settle.1, e.settle.2) := by
  rw [settle]
  split <;> simp_all

/-- What holds of what is left when nobody is woken, and is handed back from turn to turn. -/
lemma settle_induction {P : Dispatch α ι → Prop} (d : Dispatch α ι)
    (quiet : ∀ d : Dispatch α ι, d.signal.woken = [] → P d)
    (turn : ∀ (d : Dispatch α ι) (i : ι) (b : Bool) (rest : List (ι × Bool)),
      d.signal.woken = (i, b) :: rest →
      P (({ d with signal := { d.signal with woken := rest } } : Dispatch α ι).get i).2 → P d) :
    P d := by
  induction hn : d.signal.pending using Nat.strongRecOn generalizing d with
  | _ n ih =>
    subst hn
    rcases hw : d.signal.woken with _ | ⟨⟨i, b⟩, rest⟩
    · exact quiet d hw
    · exact turn d i b rest hw (ih _ (pending_resume? (resume?_of_woken hw)) _ rfl)

/-- Nobody is left who was woken and has not looked. -/
lemma woken_settle (d : Dispatch α ι) : d.settle.2.signal.woken = [] := by
  induction d using settle_induction with
  | quiet d h => rw [settle_of_quiet h, h]
  | turn d i b rest h ih => rw [settle_of_resume? (resume?_of_woken h), ih]

/-! ### One operation and the turns after it -/

/-- After the turns, those who were served in them and then those who still wait are these. -/
def Serves (d : Dispatch α ι) (is : List ι) : Prop :=
  (d.settle.1.filter Session.hasCome).map (·.1) ++ d.settle.2.signal.waiting = is

lemma serves_of_quiet (h : d.signal.woken = []) : d.Serves d.signal.waiting := by
  rw [Serves, settle_of_quiet h]
  rfl

/-- The next of the woken getters is served, and then the others have their turns. -/
lemma Serves.turn {e : Dispatch α ι} {i : ι} {b : Bool} {rest : List (ι × Bool)} {f : Fetch α}
    {is : List ι} (h : d.signal.woken = (i, b) :: rest)
    (hget : ({ d with signal := { d.signal with woken := rest } } : Dispatch α ι).get i = (f, e))
    (hf : Session.hasCome (i, f) = true) (he : e.Serves is) : d.Serves (i :: is) := by
  have hr := resume?_of_woken h
  simp only [hget] at hr
  rw [Serves, settle_of_resume? hr, List.filter_cons_of_pos hf, List.map_cons, List.cons_append]
  exact congrArg _ he

/-- At a closed queue with nothing in the line, every getter has its turn and goes. -/
lemma serves_of_closed (hc : d.queue.closed = true) (hl : d.queue.line = []) :
    d.Serves (d.signal.woken.map (·.1) ++ d.signal.waiting) := by
  induction d using settle_induction with
  | quiet d h =>
    rw [h]
    exact serves_of_quiet h
  | turn d i b rest h ih =>
    have hget : ({ d with signal := { d.signal with woken := rest } } : Dispatch α ι).get i =
        (.closed, { d with signal := { kept := false, waiting := d.signal.waiting, woken := rest } }) := by
      simp [get, tryGet, Queue.take, Signal.consume, hl, hc]
    rw [hget] at ih
    rw [h]
    exact Serves.turn h hget rfl (ih hc hl)

lemma Alert.serves_close (h : d.Alert) (hq : d.signal.woken = []) :
    d.close.Serves d.signal.waiting := by
  by_cases hw : d.signal.waiting = []
  · have hquiet : d.close.signal.woken = [] := by simp [close, Signal.callAll, hq, hw]
    exact hw ▸ serves_of_quiet hquiet
  · have hl : d.queue.line = [] := h.line_eq_nil hq hw
    have hs := serves_of_closed (d := d.close) rfl hl
    simpa [close, Signal.callAll, hq, Function.comp_def] using hs

/-- The getter that is called for an item finds it, and nobody else is called. -/
lemma Alert.serves_change {q : Queue α} (h : d.Alert) (hq : d.signal.woken = [])
    (hl : q.line = d.queue.line ∨ ∃ x, q.line = d.queue.line ++ [x]) :
    (d.change q).Serves d.signal.waiting := by
  unfold Dispatch.change
  split_ifs with hgrown
  · rcases d.signal.call_cases with ⟨hw, e⟩ | ⟨i, rest, hw, e⟩
    · rw [e]
      exact serves_of_quiet hq
    · obtain ⟨x, hx⟩ : ∃ x, q.line = [x] := by
        rcases hl with hl | ⟨x, hl⟩
        · simp [Queue.hasGrown, hl] at hgrown
        · exact ⟨x, by rw [hl, h.line_eq_nil hq (by simp [hw]), List.nil_append]⟩
      have hget : ({ queue := q, signal := ⟨d.signal.kept, rest, []⟩ } : Dispatch α ι).get i =
          (.item x, { queue := q.take.2, signal := ⟨false, rest, []⟩ }) := by
        simp [get, tryGet, Queue.take, Signal.consume, hx]
      rw [e, hq, hw]
      exact Serves.turn rfl hget rfl (serves_of_quiet rfl)
  · exact serves_of_quiet hq

section

variable [LawfulBEq α]

/-- Where someone waits there is nothing to take. -/
lemma Alert.serves_take {q : Queue α} {x : α} (h : d.Alert) (hq : d.signal.woken = [])
    (ht : d.queue.take = (some x, q)) :
    Serves { queue := q, signal := if q.line = [] then d.signal.consume else d.signal.consume.call }
      d.signal.waiting := by
  have hw : d.signal.waiting = [] := by
    by_contra hw
    obtain ⟨xs, hl, -⟩ := Queue.take_eq_some ht
    simp [h.line_eq_nil hq hw] at hl
  split_ifs
  · exact serves_of_quiet hq
  · rcases d.signal.consume.call_cases with ⟨-, e⟩ | ⟨i, rest, hw', -⟩
    · rw [e]
      exact serves_of_quiet hq
    · simp [Signal.consume, hw] at hw'

lemma Alert.serves_tryGet (h : d.Alert) (hq : d.signal.woken = []) :
    d.tryGet.2.Serves d.signal.waiting := by
  rcases d.tryGet_cases with ⟨x, q, ht, e⟩ | ⟨-, -, e⟩ | ⟨-, -, e⟩ <;> rw [e]
  · exact h.serves_take hq ht
  · exact serves_of_quiet hq
  · exact serves_of_quiet hq

/-- Whoever has to wait stands behind the others. -/
lemma Alert.serves_get [DecidableEq α] (h : d.Alert) (hq : d.signal.woken = []) (i : ι) :
    (d.get i).2.Serves (d.signal.waiting ++ if (d.get i).1 = .nothing then [i] else []) := by
  rcases d.get_cases i with ⟨x, q, ht, e⟩ | ⟨-, -, e⟩ | ⟨-, -, e⟩ <;> rw [e]
  · simpa using h.serves_take hq ht
  · rw [if_neg nofun, List.append_nil]
    exact serves_of_quiet hq
  · exact serves_of_quiet hq

/-- An addition puts at most one item into the line. -/
lemma Alert.serves_add (h : d.Alert) (hq : d.signal.woken = []) (x : α) :
    (d.add x).Serves d.signal.waiting := by
  refine h.serves_change hq ?_
  rcases d.queue.add_cases x with ⟨-, e⟩ | ⟨-, -, -, e⟩ | ⟨-, -, -, e⟩ <;> rw [e]
  · exact .inl rfl
  · exact .inl rfl
  · exact .inr ⟨x, rfl⟩

end

lemma Alert.serves_finish (h : d.Alert) (hq : d.signal.woken = []) (x : α) :
    (d.finish x).Serves d.signal.waiting := by
  refine h.serves_change hq ?_
  unfold Queue.finish
  split_ifs
  · exact .inr ⟨x, rfl⟩
  · exact .inl rfl

lemma serves_leave [BEq ι] (hq : d.signal.woken = []) (i : ι) :
    (d.leave i).Serves (d.signal.waiting.filter (· != i)) := by
  have hleave : d.leave i =
      { d with signal := ⟨d.signal.kept, d.signal.waiting.filter (· != i), []⟩ } := by
    simp [leave, Signal.leave, hq]
  rw [hleave]
  exact serves_of_quiet rfl

end Dispatch

namespace Clients

variable {ρ α ι : Type} [DecidableEq α] [DecidableEq ι]

/-! ### Clients of whom each has its turn -/

/-- Those who wait, the one who came first in front. -/
def waiting (s : Clients ρ α ι) : List ι := s.work.dispatch.signal.waiting

/-- Nobody was woken and has still to look. -/
def Quiet (s : Clients ρ α ι) : Prop := s.work.dispatch.signal.woken = []

/-- The woken getters look, one after the other, until none is left. -/
def turns (s : Clients ρ α ι) : List (Move α ι) := s.work.settle.1.map fun t => .resume t.1

/-- Who comes away with something after it had been woken. -/
def served (s : Clients ρ α ι) : Move α ι → List ι
  | .resume i => ((s.fetch? (.resume i)).toList.filter Session.hasCome).map (·.1)
  | _ => []

/-- Who comes, finds nothing and waits. -/
def blocked (s : Clients ρ α ι) : Move α ι → List ι
  | .get i => if (s.work.get i).1 = .nothing then [i] else []
  | _ => []

/-- Who gives up. -/
def quitters (s : Clients ρ α ι) : Move α ι → List ι
  | .leave i => (s.waiting ++ s.work.dispatch.signal.woken.map (·.1)).filter (· == i)
  | _ => []

variable {s : Clients ρ α ι}

lemma served_of_quiet (hq : s.Quiet) (m : Move α ι) : s.served m = [] := by
  have hwoken : s.work.dispatch.signal.woken = [] := hq
  cases m with
  | resume i => simp [served, fetch?, hwoken]
  | _ => rfl

variable [Quantity ρ]

/-- The moves with the turns of the woken getters after each of them. -/
def orderly (s : Clients ρ α ι) : List (Move α ι) → List (Move α ι)
  | [] => []
  | m :: ms =>
    let first := m :: (s.step m).turns
    first ++ (s.run first).orderly ms

lemma step_resume {i : ι} {b : Bool} {rest : List (ι × Bool)}
    (h : s.work.dispatch.signal.woken = (i, b) :: rest) :
    let d : Dispatch α ι :=
      { s.work.dispatch with signal := { s.work.dispatch.signal with woken := rest } }
    (s.step (.resume i)).work = { s.work with dispatch := (d.get i).2 } ∧
      s.fetch? (.resume i) = some (i, (d.get i).1) := by
  have hrouse : s.work.dispatch.rouse i =
      { s.work.dispatch with signal := { s.work.dispatch.signal with woken := rest } } := by
    simp [Dispatch.rouse, Signal.rouse, h]
  have hany : s.work.dispatch.signal.woken.any (·.1 == i) = true := by simp [h]
  simp only [step, fetch?, if_pos hany, hrouse]
  exact ⟨rfl, rfl⟩

/-- Turns are moves of the clients, and the log of the turns tells who was served. -/
lemma run_turns (s : Clients ρ α ι) :
    (s.run s.turns).work = s.work.settle.2 ∧
      s.trace served s.turns = (s.work.settle.1.filter Session.hasCome).map (·.1) := by
  generalize hd : s.work.dispatch = d
  induction d using Dispatch.settle_induction generalizing s with
  | quiet d h =>
    have hs : s.work.settle = ([], s.work) := by
      rw [WorkQueue.settle, hd, Dispatch.settle_of_quiet h, ← hd]
    rw [turns, hs]
    exact ⟨rfl, rfl⟩
  | turn d i b rest h ih =>
    subst hd
    obtain ⟨hwork, hfetch⟩ := step_resume h
    obtain ⟨hrun, htrace⟩ := ih (s.step (.resume i)) (by rw [hwork])
    have hs := Dispatch.settle_of_resume? (Dispatch.resume?_of_woken h)
    set d : Dispatch α ι :=
      { s.work.dispatch with signal := { s.work.dispatch.signal with woken := rest } }
    have hlog : s.work.settle.1 = (i, (d.get i).1) :: (s.step (.resume i)).work.settle.1 := by
      rw [hwork]
      exact congrArg Prod.fst hs
    have hend : s.work.settle.2 = (s.step (.resume i)).work.settle.2 := by
      rw [hwork]
      exact congrArg (fun r => { s.work with dispatch := r.2 }) hs
    have hturns : s.turns = .resume i :: (s.step (.resume i)).turns := by
      rw [turns, hlog, List.map_cons]
      rfl
    rw [hturns]
    refine ⟨hrun.trans hend.symm, ?_⟩
    rw [trace, htrace, hlog, served, hfetch, ← List.map_append, ← List.filter_append]
    rfl

/-- **Step**: an operation and the turns after it serve those who have waited longest. The others keep
their order, whoever has to wait comes to stand behind them, and those who give up are left out. -/
lemma serves_step (h : s.work.dispatch.Alert) (hq : s.Quiet) {m : Move α ι} (hm : ∀ t, m ≠ .ring t) :
    ∃ is, (s.step m).work.dispatch.Serves is ∧ is.Sublist (s.waiting ++ s.blocked m) ∧
      (s.waiting ++ s.blocked m).Perm (is ++ s.quitters m) := by
  have stay {d : Dispatch α ι} (hd : d.Serves s.waiting) (hb : s.blocked m = [])
      (hl : s.quitters m = []) : ∃ is, d.Serves is ∧ is.Sublist (s.waiting ++ s.blocked m) ∧
        (s.waiting ++ s.blocked m).Perm (is ++ s.quitters m) :=
    ⟨s.waiting, hd, by simp [hb], by simp [hb, hl]⟩
  have still : s.work.dispatch.Serves s.waiting := Dispatch.serves_of_quiet hq
  have add (x : α) : (s.work.dispatch.add x).Serves s.waiting := h.serves_add hq x
  cases m with
  | add x => exact stay (add x) rfl rfl
  | look i => exact stay (h.serves_tryGet hq) rfl rfl
  | get i =>
    refine ⟨_, h.serves_get hq i, .refl _, ?_⟩
    change List.Perm _ (_ ++ [])
    rw [List.append_nil]
    rfl
  | resume i =>
    have hwoken : s.work.dispatch.signal.woken = [] := hq
    rw [show s.step (.resume i) = s by simp [step, hwoken]]
    exact stay still rfl rfl
  | leave i =>
    have hwoken : s.work.dispatch.signal.woken = [] := hq
    refine ⟨_, Dispatch.serves_leave hq i, ?_, ?_⟩
    · exact List.filter_sublist.trans (List.sublist_append_left ..)
    · have hp := List.filter_append_perm (· != i) s.waiting
      simp only [bne, Bool.not_not] at hp
      simpa [blocked, quitters, waiting, hwoken, bne] using hp.symm
  | finish i x =>
    simp only [step]
    split_ifs
    · exact stay (h.serves_finish hq x) rfl rfl
    · exact stay still rfl rfl
  | addAfter x d =>
    rcases s.work.dispatch_addAfter x d with e | e
    · exact stay (e ▸ still) rfl rfl
    · exact stay (e ▸ add x) rfl rfl
  | addRateLimited x reading =>
    rcases s.work.dispatch_addRateLimited x reading with e | e
    · exact stay (e ▸ still) rfl rfl
    · exact stay (e ▸ add x) rfl rfl
  | forget x => exact stay still rfl rfl
  | close => exact stay (h.serves_close hq) rfl rfl
  | alarm a =>
    simp only [step]
    split_ifs
    · exact stay (add a.2) rfl rfl
    · exact stay still rfl rfl
  | ring t => exact absurd rfl (hm t)

lemma trace_turns {tell : Clients ρ α ι → Move α ι → List ι}
    (h : ∀ (s : Clients ρ α ι) (i : ι), tell s (.resume i) = []) (s t : Clients ρ α ι) :
    s.trace tell t.turns = [] := by
  unfold turns
  induction t.work.settle.1 generalizing s with
  | nil => rfl
  | cons r log ih =>
    rw [List.map_cons, trace, h, ih]
    rfl

/-- When all who were woken have had their turns, nobody is left who was woken. -/
lemma quiet_turns (s : Clients ρ α ι) : (s.run s.turns).Quiet := by
  rw [Quiet, (run_turns s).1]
  exact Dispatch.woken_settle _

/-- **Run**: those who were served, followed by those who still wait, have come in this order, and all
others who came have given up. -/
lemma run_orderly (h : s.work.dispatch.Alert) (hq : s.Quiet) {ms : List (Move α ι)}
    (hms : ∀ t, .ring t ∉ ms) :
    let os := s.orderly ms
    (s.trace served os ++ (s.run os).waiting).Sublist (s.waiting ++ s.trace blocked os) ∧
      (s.waiting ++ s.trace blocked os).Perm
        (s.trace served os ++ (s.run os).waiting ++ s.trace quitters os) := by
  induction ms generalizing s with
  | nil => exact ⟨by simp [orderly, trace, run], by simp [orderly, trace, run]⟩
  | cons m ms ih =>
    intro os
    set first := m :: (s.step m).turns with hfirst
    obtain ⟨is, hserves, hsub, hperm⟩ := serves_step h hq fun t ht => hms t (ht ▸ List.mem_cons_self)
    obtain ⟨hwork, hserved⟩ := run_turns (s.step m)
    have his : s.trace served first ++ (s.run first).waiting = is := by
      have hw : (s.run first).waiting = (s.step m).work.settle.2.dispatch.signal.waiting :=
        congrArg (·.dispatch.signal.waiting) hwork
      rw [hw, hfirst, trace, served_of_quiet hq, hserved, List.nil_append]
      exact hserves
    have hblocked : s.trace blocked first = s.blocked m := by
      rw [hfirst, trace, trace_turns (fun _ _ => rfl), List.append_nil]
    have hquitters : s.trace quitters first = s.quitters m := by
      rw [hfirst, trace, trace_turns (fun _ _ => rfl), List.append_nil]
    obtain ⟨hsub', hperm'⟩ := ih (s := s.run first) (alert_run h first) (quiet_turns (s.step m))
      fun t ht => hms t (List.mem_cons_of_mem _ ht)
    have hos : os = first ++ (s.run first).orderly ms := rfl
    have hrun : s.run os = (s.run first).run ((s.run first).orderly ms) := by
      rw [hos, run, List.foldl_append]
      rfl
    rw [hrun, hos, trace_append, trace_append, trace_append, hblocked, hquitters]
    subst his
    constructor
    · rw [List.append_assoc, ← List.append_assoc s.waiting]
      refine (hsub'.append_left _).trans ?_
      rw [← List.append_assoc]
      exact hsub.append_right _
    · refine List.perm_iff_count.2 fun i => ?_
      have h₁ := hperm.count_eq i
      have h₂ := hperm'.count_eq i
      simp only [List.count_append] at h₁ h₂ ⊢
      omega

/-- Whoever looks in vain and does not wait uses up a call that was kept, and nothing else. -/
lemma step_look {i : ι} (h : s.work.dispatch.tryGet.1 = .nothing) :
    (s.step (.look i)).work.dispatch =
        { s.work.dispatch with signal := { s.work.dispatch.signal with kept := false } } ∧
      (s.step (.look i)).held = s.held := by
  have hd : s.work.dispatch.tryGet =
      (.nothing, { s.work.dispatch with signal := s.work.dispatch.signal.consume }) := by
    rcases s.work.dispatch.tryGet_cases with ⟨x, q, -, e⟩ | ⟨-, -, e⟩ | ⟨-, -, e⟩
    · simp [e] at h
    · simp [e] at h
    · exact e
  simp [step, receive, WorkQueue.tryGet, hd, Signal.consume]

/-- **Nobody is overlooked**: after any moves of any clients, when nobody is left who was woken and has
not looked, a getter waits only if nothing is in the line and the queue is open; and if the woken
getters look, nobody is left. Each item that was put into the line has gone to one getter, or is still
there. A getter that gives up, or does not wait at all, takes no item with it, and no call that another
getter could use. If moreover the woken getters have their turns after every single operation, those who
had to wait are served in the order in which they came, but for those who give up. -/
theorem run_overlooks_nobody (limiter : Limiter ρ α) (ms : List (Move α ι)) {ops : List (Move α ι)}
    (hops : ∀ t, .ring t ∉ ops) :
    let start : Clients ρ α ι := opening limiter
    let s := start.run ms
    let os := start.orderly ops
    (s.Quiet → s.waiting ≠ [] → s.work.queue.line = [] ∧ s.work.queue.closed = false) ∧
      (s.run s.turns).Quiet ∧
      (start.receipts ms).map (·.2) ++ s.work.queue.line = (start.ledger ms).lined ∧
      (∀ i, s.work.dispatch.Spares (s.step (.leave i)).work.dispatch i ∧
        (s.step (.leave i)).held = s.held) ∧
      (∀ i, s.fetch? (.look i) = some (i, .nothing) →
        (s.step (.look i)).work.dispatch =
            { s.work.dispatch with signal := { s.work.dispatch.signal with kept := false } } ∧
          (s.work.dispatch.signal.kept = true → s.waiting = []) ∧
          (s.step (.look i)).held = s.held) ∧
      (start.trace served os ++ (start.run os).waiting).Sublist (start.trace blocked os) ∧
      (start.trace blocked os).Perm
        (start.trace served os ++ (start.run os).waiting ++ start.trace quitters os) := by
  intro start s os
  have hstart : start.work.dispatch.Alert := Dispatch.alert_empty
  have hs : s.work.dispatch.Alert := alert_run hstart ms
  have hbooks : (start.ledger ms).Balances s.work.queue :=
    balances_run (l := {}) (sound_opening limiter) ⟨fun _ => rfl, rfl⟩ ms
  obtain ⟨horder, hall⟩ := run_orderly hstart rfl hops
  refine ⟨fun hq hw => ⟨hs.line_eq_nil hq hw, ?_⟩, s.quiet_turns, ?_, fun i => ⟨?_, rfl⟩, fun i hi => ?_,
    horder, hall⟩
  · by_contra hc
    exact hw (hs.closed (eq_true_of_ne_false hc))
  · rw [← handed_ledger]
    exact hbooks.order
  · exact s.work.dispatch.spares_leave i
  · have hnothing : s.work.tryGet.1 = .nothing := by simpa [fetch?] using hi
    obtain ⟨hlook, hheld⟩ := step_look hnothing
    exact ⟨hlook, hs.kept, hheld⟩

/-- Three getters come, the first one gives up, two items are added, and the queue is closed. -/
theorem run_overlooks_nobody_three :
    let start : Clients Rat String Nat := opening (.worst [])
    let ops : List (Move String Nat) :=
      [.get 0, .get 1, .get 2, .leave 0, .add "a", .get 3, .add "b", .close]
    let os : List (Move String Nat) := [.get 0, .get 1, .get 2, .leave 0, .add "a", .resume 1,
      .get 3, .add "b", .resume 2, .close, .resume 3]
    (∀ t, .ring t ∉ ops) ∧ start.orderly ops = os ∧
      (start.trace served os = [1, 2, 3] ∧ start.trace blocked os = [0, 1, 2, 3] ∧
        start.trace quitters os = [0]) ∧
      ([1, 2, 3] ++ (start.run os).waiting).Sublist [0, 1, 2, 3] := by
  intro start ops os
  have hops : ∀ t, .ring t ∉ ops := by simp [ops]
  have hos : start.orderly ops = os := by cbv
  obtain ⟨-, -, -, -, -, horder, -⟩ := run_overlooks_nobody (ρ := Rat) (.worst []) ops hops
  have hlogs : start.trace served os = [1, 2, 3] ∧ start.trace blocked os = [0, 1, 2, 3] ∧
      start.trace quitters os = [0] := by decide
  rw [show orderly (opening (.worst [])) ops = os from hos, hlogs.1, hlogs.2.1] at horder
  exact ⟨hops, hos, hlogs, horder⟩

/-- Without a turn in between, two items call three getters; the third one finds nothing, and when it
waits again it stands behind the fourth. -/
example : ((opening (.worst []) : Clients Rat String Nat).run [.get 0, .get 1, .get 2, .get 3,
    .add "a", .add "b", .resume 0, .resume 1, .resume 2]).waiting = [3, 2] := by decide

end Clients

end Provisioner
