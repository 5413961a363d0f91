import Provisioner.Proofs.Controller.DocketSteps
import Provisioner.Proofs.Controller.Errands
import Provisioner.Proofs.Controller.Helm

/-!
What happens before the first list has arrived, and what if it never does.

Notifications are taken up from the start, so deletions are cleaned up after, but no worker is there to
take a key. If the main task gives up, the pump finishes what it has begun, and that is all.
-/

namespace Provisioner

open Occurrence

/-! ### The journal without attempts -/

/-- While nobody is in an attempt, only the statements of clean-ups are noted. -/
lemma View.Step.journal_of_rest {v v' : View} {o : Option Occurrence} (ht : v.Step o v')
    (h : ∀ i, (v.worker i).stage? = none) :
    v'.world.journal = v.world.journal ∨ ∃ e b, v.handling e = .cleaning b ∧
      v'.world.journal = { v.world.journal with
        statements := v.world.journal.statements ++ [b.current.render?] } := by
  cases ht with
  | stored r => exact .inl (v.world.frame_put r).2.2.2
  | cleans e b he => exact .inr ⟨e, b, he, rfl⟩
  | cleaned e b l he => exact .inl (v.world.frame_complete l).2.2.2
  | executes i key r b hi | executed i key r b l hi | writes i key r d hi | publishes i key r a hi =>
    have hrest := h i
    rw [hi] at hrest
    cases hrest
  | _ => exact .inl rfl

/-! ### The end of the pump -/

namespace Pump

/-- A pump that is to take no more executes so many statements and ends. -/
def rounds : Nat → List Action
  | 0 => [.pump]
  | n + 1 => .pump :: .complete .pump :: rounds n

/-- What is still to happen before it ends. -/
def owes : Pump → List Action
  | .at .free => rounds 0
  | .at (.cleaning b) => rounds b.remaining.length
  | .at (.running b _) => .complete .pump :: rounds b.rest.length
  | .unborn | .ended => []

lemma rounds_sublist {m n : Nat} (h : m ≤ n) : (rounds m).Sublist (rounds n) := by
  induction h with
  | refl => exact .refl _
  | step _ ih => exact (ih.cons _).cons _

lemma owes_after (b : Sql.Batch) (outcome : Except Failure Unit) :
    (Pump.at (.after b outcome)).owes = rounds b.rest.length := by
  unfold Handling.after
  split
  · rename_i b' hb
    rw [(Sql.Batch.advance?_eq_some hb).1]
    rfl
  · rename_i hb
    rw [Sql.Batch.advance?_eq_none.1 hb]
    rfl

lemma head?_owes {p : Pump} {a : Action} (h : p.owes.head? = some a) :
    a = .pump ∨ a = .complete .pump := by
  cases p with
  | «at» h' =>
    cases h' with
    | free | cleaning b => exact .inl (Option.some.inj h).symm
    | running b l => exact .inr (Option.some.inj h).symm
  | unborn | ended => cases h

end Pump

namespace Controller

variable {ρ : Type} {c : Controller ρ}

lemma owes_pumpStep (hs : c.pumpStopped = true) :
    (c.pump.owes.head? ≠ some .pump ∧ c.pumpStep.pump.owes = c.pump.owes) ∨
      c.pump.owes = .pump :: c.pumpStep.pump.owes := by
  cases hp : c.pump with
  | «at» h =>
    cases h with
    | free => exact .inr (by simp [pumpStep, hp, hs, Pump.owes, Pump.rounds])
    | cleaning b => exact .inr (by simp [pumpStep, hp, clean, ofPump, Pump.owes, Pump.rounds,
        Sql.Batch.remaining])
    | running b l => exact .inl (by simp [pumpStep, hp, clean, ofPump, Pump.owes])
  | unborn | ended => exact .inl (by simp [pumpStep, hp, Pump.owes])

lemma owes_complete :
    (c.pump.owes.head? ≠ some (.complete .pump) ∧ (c.complete .pump).pump.owes = c.pump.owes) ∨
      c.pump.owes = .complete .pump :: (c.complete .pump).pump.owes := by
  cases hp : c.pump with
  | «at» h =>
    cases h with
    | free | cleaning b =>
      exact .inl (by simp [complete, hp, completeCleanup, ofPump, Pump.owes, Pump.rounds,
        Sql.Batch.remaining])
    | running b l =>
      have hnext : (c.complete .pump).pump = .at (.after b (c.world.complete l).1) := by
        simp [complete, hp, ofPump, completeCleanup_running]
      exact .inr (by rw [hnext, Pump.owes_after]; rfl)
  | unborn | ended => exact .inl (by simp [complete, hp, Pump.owes])

/-- Nobody else has a hand in it. -/
lemma pump_step [Quantity ρ] (hm : c.main ≠ .unborn) {a : Action} (ha : a ≠ .pump)
    (ha' : a ≠ .complete .pump) : (c.step a).pump = c.pump := by
  by_cases hin : a.isInput = true
  · obtain ⟨work, metrics, caller, inbox, inboxClosed, hs⟩ := c.frame_input hin
    rw [hs]
  cases a with
  | enqueue r | addKey key | call n | send n | closeInbox | clock moment => exact absurd rfl hin
  | put r | remove k | breakStatements faults | breakWrites fault | stop => rfl
  | start n =>
    -- there is no second start
    simp only [step, start]
  | sync success =>
    simp only [step, sync]
    split <;> rfl
  | worker i reading => exact (c.main_worker i reading).2
  | pump => exact absurd rfl ha
  | caller => exact (c.main_clean c.caller).2
  | main stopFirst =>
    simp only [step, mainStep]
    split
    · split_ifs
      · rfl
      · split <;> rfl
    · split_ifs <;> rfl
    · split_ifs <;> rfl
    · split <;> rfl
    · rfl
    · rfl
  | complete e =>
    cases e with
    | worker i =>
      obtain ⟨world, workers, h⟩ := c.frame_completeWorker i
      change (c.completeWorker i).pump = _
      rw [h]
    | pump => exact absurd rfl ha'
    | caller => exact (c.main_completeCleanup c.caller).2

/-- An action that is owed is owed no more, and every other action changes nothing about it. -/
lemma owes_step [Quantity ρ] (hm : c.main ≠ .unborn) (hs : c.pumpStopped = true) (a : Action) :
    (c.pump.owes.head? ≠ some a ∧ (c.step a).pump.owes = c.pump.owes) ∨
      c.pump.owes = a :: (c.step a).pump.owes := by
  by_cases ha : a = .pump
  · subst ha
    exact owes_pumpStep hs
  · by_cases ha' : a = .complete .pump
    · subst ha'
      exact owes_complete
    · exact .inl ⟨fun h => (Pump.head?_owes h).elim ha ha', by rw [pump_step hm ha ha']⟩

variable [Quantity ρ]

/-- A pump that is to take no more ends when what is owed has happened, whatever else happens. -/
lemma run_pumpEnded {r : Except Failure Unit} (hf : c.helm.Fit) (hr : c.main.verdict? = some r)
    {later : List Action} (h : c.pump.owes.Sublist later) : (c.run later).pump = .ended := by
  have hm : c.main ≠ .unborn := fun hm => by simp [hm, Main.verdict?] at hr
  induction later generalizing c with
  | nil =>
    have hu : c.pump ≠ .unborn := hf.pump hm
    change c.pump = .ended
    cases hp : c.pump with
    | unborn => exact absurd hp hu
    | ended => rfl
    | «at» x =>
      rw [hp, List.sublist_nil] at h
      cases x <;> simp [Pump.owes, Pump.rounds, Sql.Batch.remaining] at h
  | cons a later ih =>
    have hs := c.step_helm a
    have hr' : (c.step a).main.verdict? = some r := hs.verdict? hr
    refine ih (hf.step hs) hr' ?_ fun hm' => by simp [hm', Main.verdict?] at hr'
    rcases owes_step hm (hf.pumpStopped r hr) a with ⟨hne, he⟩ | he
    · rw [he]
      rcases List.sublist_cons_iff.1 h with h | ⟨l, hl, -⟩
      · exact h
      · exact absurd (by rw [hl]; rfl) hne
    · rw [he] at h
      exact List.cons_sublist_cons.1 h

/-- Then the main task can answer. -/
lemma run_answers {r : Except Failure Unit} (hf : c.helm.Fit) (hr : c.main.verdict? = some r)
    {b : Bool} {later : List Action} (h : (c.pump.owes ++ [Action.main b]).Sublist later) :
    (c.run later).result? = some r := by
  obtain ⟨l₁, l₂, rfl, h₁, h₂⟩ := List.append_sublist_iff.1 h
  obtain ⟨m₁, m₂, rfl⟩ := List.append_of_mem (List.singleton_sublist.1 h₂)
  have hp : (c.run (l₁ ++ m₁)).pump = .ended :=
    run_pumpEnded hf hr (h₁.trans (List.sublist_append_left l₁ m₁))
  have hr' : (c.run (l₁ ++ m₁)).main.verdict? = some r := run_verdict? hr _
  rw [← List.append_assoc, run_append]
  generalize c.run (l₁ ++ m₁) = d at hp hr'
  refine result?_eq_some.2 (run_finished (c := d.step (.main b)) ?_ m₂)
  cases hm : d.main with
  | ending r' =>
    obtain rfl : r' = r := by simpa [hm, Main.verdict?] using hr'
    simp [step, mainStep, hm, hp]
  | finished r' =>
    obtain rfl : r' = r := by simpa [hm, Main.verdict?] using hr'
    simp [step, mainStep, hm]
  | _ => simp [hm, Main.verdict?] at hr'

/-! ### Before the workers are there -/

/-- Nobody took a key, the flag was never up, and nothing was noted but statements of clean-ups after
deletions that were taken up. -/
structure Barred (c : Controller ρ) (as : List Action) : Prop where
  took : ∀ i key, .took i key ∉ c.entries as
  unready : ∀ before later, as = before ++ later → (c.run before).ready = false
  journal : ∃ ts : List Sql.Statement,
    (c.run as).world.journal = { c.world.journal with
      statements := c.world.journal.statements ++ ts.map Sql.Statement.render? } ∧
    ∀ t ∈ ts, ∃ e, ∃ o ∈ deletions e (c.history as), t ∈ (Surroundings.cleanup o.spec).remaining

omit [Quantity ρ] in
lemma worker_of_unmanned (hf : c.helm.Fit) (hm : c.main.isManned = false) (i : Nat) :
    c.worker i = .ended := by
  have hw : c.workers = [] := hf.unmanned hm
  simp [worker, hw]

/-- If the workers are not there yet, they never were. -/
lemma unmanned_before {before later : List Action}
    (h : (c.run (before ++ later)).main.isManned = false) :
    (c.run before).main.isManned = false := by
  by_contra hm
  rw [run_append, run_manned (by simpa using hm) later] at h
  cases h

lemma noted?_ne_took (h : ∀ i, c.worker i = .ended) (a : Action) (i : Nat) (key : String) :
    c.noted? a ≠ some (.took i key) := by
  cases a with
  | worker j reading => simp [noted?, h j]
  | call n | pump =>
    simp only [noted?]
    split <;> simp
  | _ => simp [noted?]

lemma unmanned_took (hf : c.helm.Fit) {as : List Action} (hm : (c.run as).main.isManned = false)
    (i : Nat) (key : String) : .took i key ∉ c.entries as := by
  induction as using List.reverseRecOn with
  | nil => exact List.not_mem_nil
  | append_singleton as a ih =>
    have hm' : (c.run as).main.isManned = false := unmanned_before hm
    rw [entries_concat, List.mem_append, Option.mem_toList]
    exact not_or.2 ⟨ih hm', noted?_ne_took (worker_of_unmanned (fit_run hf as) hm') a i key⟩

lemma unmanned_journal (hf : c.helm.Fit) (hc : c.Orderly) (hs : c.view.Sound []) {as : List Action}
    (hm : (c.run as).main.isManned = false) :
    ∃ ts : List Sql.Statement,
      (c.run as).world.journal = { c.world.journal with
        statements := c.world.journal.statements ++ ts.map Sql.Statement.render? } ∧
      ∀ t ∈ ts, ∃ e, ∃ o ∈ deletions e (c.history as),
        t ∈ (Surroundings.cleanup o.spec).remaining := by
  induction as using List.reverseRecOn with
  | nil => exact ⟨[], by simp [run], by simp⟩
  | append_singleton as a ih =>
    have hm' : (c.run as).main.isManned = false := unmanned_before hm
    obtain ⟨ts, hts, hmem⟩ := ih hm'
    have hmem' : ∀ t ∈ ts, ∃ e, ∃ o ∈ deletions e (c.history (as ++ [a])),
        t ∈ (Surroundings.cleanup o.spec).remaining := by
      intro t ht
      obtain ⟨e, o, ho, hto⟩ := hmem t ht
      rw [history_concat]
      exact ⟨e, o, mem_deletions_append ho, hto⟩
    have hrest (i : Nat) : ((c.run as).view.worker i).stage? = none := by
      rw [show (c.run as).view.worker i = .ended from worker_of_unmanned (fit_run hf as) hm' i]
      rfl
    rw [run_append]
    rcases ((c.run as).step_view (hc.run as) a).journal_of_rest hrest with hj | ⟨e, b, he, hj⟩
    · exact ⟨ts, hj.trans hts, hmem'⟩
    · refine ⟨ts ++ [b.current], ?_, fun t ht => ?_⟩
      · refine hj.trans ?_
        rw [show (c.run as).view.world.journal = _ from hts]
        simp
      · rcases List.mem_append.1 ht with ht | ht
        · exact hmem' t ht
        · obtain rfl := List.mem_singleton.1 ht
          obtain ⟨o, ho, hb⟩ := (hs.run (run_view hc as)).batch e b (by rw [he]; rfl)
          rw [history_concat]
          exact ⟨e, o, mem_deletions_append (List.mem_of_getLast? ho),
            hb.subset List.mem_cons_self⟩

/-- Until the workers are there, they and all that they do are barred. -/
lemma barred_of_unmanned (hf : c.helm.Fit) (hc : c.Orderly) (hs : c.view.Sound []) {as : List Action}
    (hm : (c.run as).main.isManned = false) : c.Barred as where
  took := unmanned_took hf hm
  unready before later has := by
    subst has
    have hm' : (c.run before).main.isManned = false := unmanned_before hm
    cases hr : (c.run before).ready with
    | false => rfl
    | true =>
      rw [show (c.run before).main = .serving from (fit_run hf before).ready.1 hr] at hm'
      cases hm'
  journal := unmanned_journal hf hc hs hm

omit [Quantity ρ] in
/-- A clean-up has two statements, so the pump gets by with two rounds. -/
lemma owes_sublist {h : List Occurrence} (hs : c.view.Sound h) :
    c.pump.owes.Sublist (Pump.rounds 2) := by
  have short {b : Sql.Batch} (hb : (c.handling .pump).batch? = some b) : b.remaining.length ≤ 2 := by
    obtain ⟨o, -, hsuffix⟩ := hs.batch .pump b hb
    exact hsuffix.length_le
  cases hp : c.pump with
  | unborn | ended => exact List.nil_sublist _
  | «at» x =>
    cases x with
    | free => exact Pump.rounds_sublist (Nat.zero_le 2)
    | cleaning b => exact Pump.rounds_sublist (short (by simp [handling, hp, Handling.batch?]))
    | running b l =>
      have hb : b.rest.length + 1 ≤ 2 := short (by simp [handling, hp, Handling.batch?])
      exact (List.sublist_cons_self _ _).trans (Pump.rounds_sublist hb)

omit [Quantity ρ] in
/-- A failed sync, or a stop that is seen first, makes the main task give up. -/
lemma mainStep_gives_up {n : Nat} {stopFirst : Bool} (hm : c.main = .syncing n)
    (h : c.synced = some false ∨ c.stopped = true ∧ (stopFirst = true ∨ c.synced = none)) :
    c.mainStep stopFirst = c.giveUp := by
  rcases h with hsynced | ⟨hstopped, rfl | hsynced⟩
  · simp [mainStep, hm, hsynced]
  · simp [mainStep, hm, hstopped]
  · simp [mainStep, hm, hstopped, hsynced]

/-- **The gate**: until the workers are there nobody takes a key or does anything but clean up after
deletions, and they are not there before the first list is. The flag is up only while they serve an
open queue. If the main task answers with a failure, the workers never were there, and the pump has
finished what it had begun; and once it has given up, because the list never came or the stop came
first, it does answer, as soon as the pump got its turns. -/
theorem run_gated (policy : Policy) (limiter : Limiter ρ String) (world : World) (as : List Action) :
    let c := opening policy limiter world
    let d := c.run as
    (d.main.isManned = false → c.Barred as) ∧
    (d.main.isManned = true → d.synced = some true) ∧
    (d.ready = true → d.synced = some true ∧ d.workers ≠ [] ∧ d.work.queue.closed = false) ∧
    (∀ f, d.result? = some (.error f) → f = .cacheSync ∧ c.Barred as ∧
      d.work.queue.closed = true ∧ d.pump = .ended ∧
      errands .pump (c.history as) = (deletions .pump (c.history as)).flatMap Resource.errands) ∧
    ∀ n stopFirst b later, d.main = .syncing n →
      d.synced = some false ∨ d.stopped = true ∧ (stopFirst = true ∨ d.synced = none) →
      [.pump, .complete .pump, .pump, .complete .pump, .pump, .main b].Sublist later →
      (d.run (.main stopFirst :: later)).result? = some (.error .cacheSync) := by
  intro c d
  have hc : c.Orderly := orderly_opening policy limiter world
  have hs : c.view.Sound [] := sound_opening policy limiter world
  have hfit : c.helm.Fit := fit_opening policy limiter world
  have hf : d.helm.Fit := fit_run hfit as
  have hcustody : d.desk.Custody := custody_run (custody_opening policy limiter world) as
  refine ⟨barred_of_unmanned hfit hc hs, fun hm => (hf.manned hm).1, fun hr => ?_, fun f hr => ?_,
    fun n stopFirst b later hm hfail hlater => ?_⟩
  · have hserving : d.main = .serving := hf.ready.1 hr
    obtain ⟨hsynced, hworkers⟩ := hf.manned (by rw [show d.helm.main = _ from hserving]; rfl)
    exact ⟨hsynced, hworkers, hcustody.opened (by simp [desk, hserving, Main.phase])⟩
  · have hfinished : d.main = .finished (.error f) := result?_eq_some.1 hr
    have hverdict : d.main.verdict? = some (.error f) := by rw [hfinished]; rfl
    have hp : d.pump = .ended := hf.ended _ hfinished
    refine ⟨hf.failed f hverdict, barred_of_unmanned hfit hc hs ?_, ?_, hp, ?_⟩
    · exact Main.isManned_of_verdict? hverdict
    · exact run_shut (c := c) (fun hp => by cases hp) as (Main.phase_of_verdict? hverdict)
    · have hfree : d.handling .pump = .free := by simp [handling, hp]
      exact run_tended policy limiter world as (fun i he => by cases he) hfree
  · have hstep : d.step (.main stopFirst) = d.giveUp := mainStep_gives_up hm hfail
    have howes : d.giveUp.pump.owes.Sublist (Pump.rounds 2) :=
      owes_sublist (hs.run (run_view hc as))
    have hf' : d.giveUp.helm.Fit := hstep ▸ hf.step (d.step_helm (.main stopFirst))
    change ((d.step (.main stopFirst)).run later).result? = _
    rw [hstep]
    exact run_answers hf' rfl ((howes.append_right [.main b]).trans hlater)

omit [Quantity ρ]

/-! ### A list that comes, and one that does not -/

/-- The list comes, and two workers are started. -/
def servingShop : List Action := [.start 2, .sync true, .main false]

/-- The stop comes before the list, when the pump has begun to clean up. -/
def stoppingEarly : List Action := [.start 1, .send (.deleted World.orders), .pump, .pump, .stop]

def endingEarly : List Action :=
  [.pump, .complete .pump, .pump, .complete .pump, .pump, .main false]

/-- Two workers serve; and where the stop comes first, both statements are executed nevertheless. -/
theorem run_gated_shop :
    let serving := shop.run servingShop
    let as := stoppingEarly ++ .main false :: endingEarly
    (serving.ready = true ∧ serving.synced = some true ∧ serving.workers ≠ []) ∧
    (shop.run as).result? = some (.error .cacheSync) ∧
    shop.Barred as ∧ errands .pump (shop.history as) = World.orders.errands := by
  intro serving as
  have gated (as : List Action) := run_gated .hold (RetryPace.limiter {} 0)
    (World.solo ⟨"shop", "orders"⟩ World.orders) as
  have hready : serving.ready = true := rfl
  obtain ⟨hsynced, hworkers, -⟩ := (gated servingShop).2.2.1 hready
  have hanswer : (shop.run as).result? = some (.error .cacheSync) := by
    have hlast := (gated stoppingEarly).2.2.2.2 1 false false endingEarly rfl (.inr ⟨rfl, .inr rfl⟩)
      (.refl _)
    rwa [← run_append] at hlast
  obtain ⟨-, hbarred, -, -, herrands⟩ := (gated as).2.2.2.1 .cacheSync hanswer
  exact ⟨⟨hready, hsynced, hworkers⟩, hanswer, hbarred, herrands.trans (by decide)⟩

end Controller

end Provisioner
