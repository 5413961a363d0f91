import Provisioner.Proofs.Controller.Completion
import Provisioner.Proofs.Controller.Errands
import Provisioner.Proofs.Controller.Helm

/-!
What is left when a controller that was stopped has answered.

The queue is closed first, so what is in the line is still handed out, and a worker ends only when the
line is empty. A key that is put back later is fetched by the worker that put it back. So the last
worker leaves nothing, and the pump, which is stopped after it, finishes what it has begun.
-/

namespace Provisioner

open Occurrence

/-! ### Keys in the workers' hands -/

namespace Desk

variable {d d' : Desk} {o : Option Deed}

/-- Each active key is in some worker's hands. -/
def Attended (d : Desk) : Prop := ∀ x ∈ d.queue.active, ∃ i, (d.worker i).key? = some x

lemma Attended.occupy (h : d.Attended) {i : Nat} {w : Worker} (hw : w.key? = (d.worker i).key?) :
    (d.occupy i w).Attended := by
  intro x hx
  obtain ⟨j, hj⟩ := h x hx
  refine ⟨j, ?_⟩
  rcases eq_or_ne j i with rfl | hne
  · rw [worker_occupy_self, hw, hj]
  · rw [worker_occupy_of_ne d hne, hj]

/-- A worker with empty hands is not missed. -/
lemma exists_other (h : d.Attended) {i : Nat} {x : String} (hx : x ∈ d.queue.active)
    (hi : (d.worker i).key? ≠ some x) : ∃ j, j ≠ i ∧ (d.worker j).key? = some x := by
  obtain ⟨j, hj⟩ := h x hx
  refine ⟨j, ?_, hj⟩
  rintro rfl
  exact hi hj

lemma Attended.step (h : d.Attended) (hd : d.Custody) (hs : d.Step o d') : d'.Attended := by
  have queued {q : Queue String} (ha : q.active = d.queue.active) : Attended { d with queue := q } :=
    fun x hx => h x (ha ▸ hx)
  cases hs with
  | aside | stored | removed | brokeWrites | closed => exact h
  | queued key => exact queued (d.queue.active_add key)
  | announced k => exact queued (d.queue.active_add k.text)
  | @rang due later _ => exact queued (d.queue.active_adds due)
  | started w hp hw =>
    intro x hx
    obtain ⟨i, hi⟩ := h x hx
    rw [hd.early hp i] at hi
    cases hi
  | rested i w hi hw => exact h.occupy (hw.trans hi.key?.symm)
  | @handed i key q hi hq =>
    intro x hx
    obtain ⟨xs, -, he⟩ := Queue.take_eq_some hq
    by_cases hkey : x = key
    · exact ⟨i, by rw [worker_occupy_self, hkey]; rfl⟩
    · have hold : x ∈ d.queue.active := by
        change x ∈ q.active at hx
        rw [he] at hx
        simp only at hx
        split_ifs at hx
        · exact hx
        · simpa [hkey] using hx
      obtain ⟨j, hne, hj⟩ := exists_other h hold (i := i) (by simp [hi.key?])
      exact ⟨j, by rw [worker_occupy_of_ne _ hne]; exact hj⟩
  | dropped i hi | consulted i hi | succeeded i hi | died i hi =>
    exact h.occupy (by rw [hi]; rfl)
  | executes i hi | executed i hi | writes i hi | publishes i hi =>
    exact Attended.occupy (d := { d with world := _ }) h (by rw [hi]; rfl)
  | @retries i key f hi =>
    exact (queued (d.queue.active_add key)).occupy (by rw [hi]; rfl)
  | @putOff i key f hi =>
    exact Attended.occupy (d := { d with alarms := _ }) h (by rw [hi]; rfl)
  | @released i key hi =>
    intro x hx
    obtain ⟨hold, hne⟩ := Queue.mem_active_finish.1 hx
    have hi' : (d.worker i).key? ≠ some x := by
      rw [hi]
      simpa [Worker.key?] using Ne.symm hne
    obtain ⟨j, hji, hj⟩ := exists_other h hold hi'
    exact ⟨j, by rw [worker_occupy_of_ne _ hji]; exact hj⟩

lemma Attended.active_eq_nil (h : d.Attended) (he : ∀ i, d.worker i = .ended) :
    d.queue.active = [] := by
  refine List.eq_nil_iff_forall_not_mem.2 fun x hx => ?_
  obtain ⟨i, hi⟩ := h x hx
  rw [he i] at hi
  cases hi

/-- A closed queue with nobody at it stays as it is. -/
lemma Step.queue_of_ended (hs : d.Step o d') (h : ∀ i, d.worker i = .ended) (hp : d.phase ≠ .early)
    (hc : d.queue.closed = true) : d'.queue.line = d.queue.line ∧ d'.queue.closed = true := by
  have busy {i : Nat} {w : Worker} (hi : d.worker i = w) (hw : w ≠ .ended) : False :=
    hw (hi.symm.trans (h i))
  cases hs with
  | aside | stored | removed | brokeWrites => exact ⟨rfl, hc⟩
  | queued key => rw [Queue.add_of_closed hc]; exact ⟨rfl, hc⟩
  | announced k => rw [Queue.add_of_closed hc]; exact ⟨rfl, hc⟩
  | @rang due later _ => rw [Queue.adds_of_closed hc]; exact ⟨rfl, hc⟩
  | closed => exact ⟨rfl, rfl⟩
  | started w he hw => exact absurd he hp
  | rested i w hi hw => exact absurd (h i) hi.ne_ended
  | handed i hi hq => exact absurd (h i) hi.ne_ended
  | dropped i hi | consulted i hi | executes i hi | executed i hi | writes i hi | publishes i hi
  | succeeded i hi | died i hi | retries i hi | putOff i hi | released i hi =>
    exact (busy hi (by simp)).elim

/-- Only between two keys a worker ends. -/
lemma Step.vacant_of_ended (hs : d.Step o d') (hd : d.Custody) {i : Nat} (hi : d.worker i ≠ .ended)
    (he : d'.worker i = .ended) : d.Vacant i := by
  have other {d₁ : Desk} {j : Nat} {w : Worker} (hd₁ : d₁.worker = d.worker) (hw : w ≠ .ended)
      (h : (d₁.occupy j w).worker i = .ended) : d.Vacant i := by
    rcases eq_or_ne i j with rfl | hne
    · rw [worker_occupy_self] at h
      exact absurd h hw
    · rw [worker_occupy_of_ne _ hne, hd₁] at h
      exact absurd h hi
  cases hs with
  | started w hp hw => exact absurd (hd.early hp i) hi
  | rested j w hj hw =>
    rcases eq_or_ne i j with rfl | hne
    · exact hj
    · rw [worker_occupy_of_ne _ hne] at he
      exact absurd he hi
  | handed j hj hq => exact other rfl (by simp) he
  | dropped j hj | consulted j hj | executes j hj | executed j hj | writes j hj | publishes j hj
  | succeeded j hj | died j hj | retries j hj | putOff j hj | released j hj =>
    exact other rfl (by simp) he
  | _ => exact absurd he hi

end Desk

namespace Controller

variable {ρ : Type} {c : Controller ρ} {i : Nat}

/-- A worker that finds the queue closed and its line empty ends. -/
lemma fetch_ended (hi : c.worker i ≠ .ended) (he : (c.fetch i).worker i = .ended) :
    (c.fetch i).work.queue.line = [] ∧ (c.fetch i).work.queue.closed = true := by
  have hl := c.work.look_get i
  unfold fetch at he ⊢
  generalize c.work.get i = g at hl he ⊢
  obtain ⟨f, work⟩ := g
  rw [worker_setWorker { c with work } hi, Function.update_self] at he
  change work.queue.line = [] ∧ work.queue.closed = true
  simp only at hl he
  generalize work.queue = q at hl ⊢
  cases hl with
  | item hx => cases he
  | closed hline hclosed => exact ⟨hline, hclosed⟩
  | nothing hline hopen => cases he

variable [Quantity ρ]

/-- Whoever ends leaves a closed queue with nothing in its line. -/
lemma step_ended (hd : c.desk.Custody) (hi : c.worker i ≠ .ended) {a : Action}
    (he : (c.step a).worker i = .ended) :
    (c.step a).work.queue.line = [] ∧ (c.step a).work.queue.closed = true := by
  have hv : c.desk.Vacant i := (c.step_desk a).vacant_of_ended hd hi he
  have hown : a.isOf i = true := by
    by_contra hown
    rcases worker_step_of_not_own hd (by simpa using hown) with h | ⟨h, -⟩
    · exact hi (h.symm.trans he)
    · exact hi h
  rcases own_cases hown with ⟨reading, rfl⟩ | rfl
  · change (c.workerStep i reading).worker i = .ended at he
    change (c.workerStep i reading).work.queue.line = [] ∧
      (c.workerStep i reading).work.queue.closed = true
    rcases hv with hw | hw
    · rw [show c.workerStep i reading = c.fetch i by
        simp [workerStep, show c.worker i = .idle from hw]] at he ⊢
      exact fetch_ended hi he
    · by_cases hwoken : c.isWoken i = true
      · rw [show c.workerStep i reading = (c.rouse i).fetch i by
          simp [workerStep, show c.worker i = .waiting from hw, hwoken]] at he ⊢
        exact fetch_ended (c := c.rouse i) hi he
      · rw [show c.workerStep i reading = c by
          simp [workerStep, show c.worker i = .waiting from hw, hwoken]] at he
        exact absurd he hi
  · have hsame : c.completeWorker i = c := by
      rcases hv with hw | hw <;> simp [completeWorker, show c.worker i = _ from hw]
    change (c.completeWorker i).worker i = .ended at he
    rw [hsame] at he
    exact absurd he hi

/-- When all workers have ended, they have left a closed queue with nothing in its line. -/
def Deserted (c : Controller ρ) : Prop :=
  c.main.isManned = true → (∀ i, c.worker i = .ended) →
    c.work.queue.line = [] ∧ c.work.queue.closed = true

/-- **Step**: the queue is as the last worker left it. -/
lemma Deserted.step (h : c.Deserted) (hd : c.desk.Custody) (a : Action) : (c.step a).Deserted := by
  intro hm he
  by_cases hall : ∀ i, c.worker i = .ended
  · cases hm₀ : c.main.isManned with
    | true =>
      obtain ⟨hl, hc⟩ := h hm₀ hall
      have hp : c.desk.phase ≠ .early := fun hp => by
        cases (Main.isManned_of_early hp).symm.trans hm₀
      obtain ⟨hline, hclosed⟩ := (c.step_desk a).queue_of_ended hall hp hc
      exact ⟨hline.trans hl, hclosed⟩
    | false =>
      -- the workers have only just come
      obtain ⟨n, hn, hw⟩ := (c.step_helm a).manned_cases hm₀ hm
      have hfirst := he 0
      rw [worker, show (c.step a).workers = _ from hw] at hfirst
      simp [List.getD, hn] at hfirst
  · obtain ⟨i, hi⟩ := not_forall.1 hall
    exact step_ended hd hi (he i)

lemma run_deserted (h : c.Deserted) (hd : c.desk.Custody) (as : List Action) :
    (c.run as).Deserted := by
  induction as generalizing c with
  | nil => exact h
  | cons a as ih => exact ih (h.step hd a) (hd.step (c.step_desk a))

lemma run_attended (h : c.desk.Attended) (hd : c.desk.Custody) (as : List Action) :
    (c.run as).desk.Attended := by
  induction as generalizing c with
  | nil => exact h
  | cons a as ih => exact ih (h.step hd (c.step_desk a)) (hd.step (c.step_desk a))

/-! ### Afterwards -/

omit [Quantity ρ] in
lemma journal_completeCleanup (h : Handling) :
    (c.completeCleanup h).2.world.journal = c.world.journal := by
  cases h with
  | free | cleaning b => rfl
  | running b l =>
    have hw : (c.completeCleanup (.running b l)).2.world = (c.world.complete l).2 := by
      simp only [completeCleanup]
      split
      · rfl
      · unfold concludeCleanup
        split <;> rfl
    rw [hw]
    exact (c.world.frame_complete l).2.2.2

/-- When everybody is over, only the caller can still have anything noted. -/
lemma step_journal (hw : ∀ i, (c.worker i).isOver = true) (hp : c.pump = .ended) {a : Action}
    (ha : a ≠ .caller) : (c.step a).world.journal = c.world.journal := by
  by_cases hin : a.isInput = true
  · obtain ⟨work, metrics, caller, inbox, inboxClosed, hs⟩ := c.frame_input hin
    rw [hs]
  cases a with
  | enqueue r | addKey key | call n | send n | closeInbox | clock moment => exact absurd rfl hin
  | put r => exact (c.world.frame_put r).2.2.2
  | remove k | breakStatements faults | breakWrites fault | stop => rfl
  | start n =>
    simp only [step, start]
    split <;> rfl
  | sync success =>
    simp only [step, sync]
    split <;> rfl
  | worker i reading => exact congrArg (·.world.journal) (c.workerStep_over (hw i) reading)
  | pump => simp [step, pumpStep, hp]
  | caller => exact absurd rfl ha
  | main stopFirst =>
    simp only [step, mainStep]
    split
    · split_ifs
      · rfl
      · split <;> rfl
    · split_ifs <;> rfl
    · split_ifs <;> rfl
    · split <;> rfl
    · rfl
    · rfl
  | complete e =>
    cases e with
    | worker i => exact congrArg (·.world.journal) (c.completeWorker_over (hw i))
    | pump => simp [step, complete, hp]
    | caller => exact journal_completeCleanup c.caller

omit [Quantity ρ] in
lemma ended_of_over (hw : c.workers.all Worker.isOver = true) (hd : ∀ i key, c.worker i ≠ .dead key)
    (i : Nat) : c.worker i = .ended := by
  have hi := isOver_worker hw i
  cases hwi : c.worker i with
  | ended => rfl
  | dead key => exact absurd hwi (hd i key)
  | _ => simp [hwi, Worker.isOver] at hi

lemma run_policy (as : List Action) : (c.run as).policy = c.policy := by
  induction as generalizing c with
  | nil => rfl
  | cons a as ih =>
    have hs : (c.step a).policy = c.policy := (c.step_desk a).policy
    exact ih.trans hs

/-- The look-up of a key that can be read is the beginning of an attempt. -/
lemma stage?_lookUp {key : String} {k : Key} (hi : c.worker i = .handed key)
    (hk : Key.parse key = .ok k) (reading : Nat) :
    ((c.step (.worker i reading)).worker i).stage? =
      some (.start c.policy (c.world.lookup k)) := by
  have hne : c.worker i ≠ .ended := by simp [hi]
  have hstep : c.step (.worker i reading) = c.lookUp i key := by simp [step, workerStep, hi]
  rw [hstep, lookUp, hk]
  exact stage?_setWorker (c := { c with metrics := _ }) hne _

/-- A worker that has ended has brought each attempt it began to an end. -/
lemma path_of_lookUp (hc : c.Orderly) (hs : c.view.Sound []) (hd : c.desk.Custody)
    {before later : List Action} {reading : Nat} {key : String} {k : Key}
    (hi : (c.run before).worker i = .handed key) (hk : Key.parse key = .ok k)
    (he : (c.run (before ++ .worker i reading :: later)).worker i = .ended) :
    ∃ a, (Stage.start c.policy ((c.run before).world.lookup k)).Path
      ((c.run (before ++ [.worker i reading])).acts i later) (.finished a) := by
  have hfirst : c.run (before ++ [.worker i reading]) = (c.run before).step (.worker i reading) :=
    run_append before [.worker i reading]
  have hstage := stage?_lookUp hi hk reading
  rw [run_policy before, ← hfirst] at hstage
  rcases run_path (hc.run _) (hs.run (run_view hc _)) (custody_run hd _) hstage later with
    ⟨a, hp⟩ | ⟨s', -, hi'⟩
  · exact ⟨a, hp⟩
  · -- one that has ended is in no attempt
    rw [← run_append, List.append_assoc] at hi'
    cases hi'.symm.trans (congrArg Worker.stage? he)

/-- **An orderly end**: when the main task has answered that all went well, and no worker broke down,
each attempt that was begun has come to its end, each deletion that was taken up has had both its
statements executed, the queue is empty in all its parts, and the flag is down. Nothing is noted any
more, whatever happens, unless someone outside still handles a notification. -/
theorem run_ends_orderly (policy : Policy) (limiter : Limiter ρ String) (world : World)
    (as : List Action) (hr : ((opening policy limiter world).run as).result? = some (.ok ()))
    (hdead : ∀ i key, ((opening policy limiter world).run as).worker i ≠ .dead key) :
    let c := opening policy limiter world
    let d := c.run as
    (∀ before i reading later key k, as = before ++ .worker i reading :: later →
      (c.run before).worker i = .handed key → Key.parse key = .ok k →
      ∃ a, (Stage.start policy ((c.run before).world.lookup k)).Path
        ((c.run (before ++ [.worker i reading])).acts i later) (.finished a)) ∧
    (d.pump = .ended ∧ ∀ e, (∀ i, e ≠ .worker i) → d.handling e = .free →
      errands e (c.history as) = (deletions e (c.history as)).flatMap Resource.errands) ∧
    (d.work.queue.line = [] ∧ d.work.queue.dirty = [] ∧ d.work.queue.active = []) ∧
    d.ready = false ∧
    ∀ bs a, a ≠ .caller → ((d.run bs).step a).world.journal = (d.run bs).world.journal := by
  intro c d
  have hc : c.Orderly := orderly_opening policy limiter world
  have hs : c.view.Sound [] := sound_opening policy limiter world
  have hcustody : c.desk.Custody := custody_opening policy limiter world
  have hf : d.helm.Fit := fit_run (fit_opening policy limiter world) as
  have hfinished : d.main = .finished (.ok ()) := result?_eq_some.1 hr
  have hended (i : Nat) : d.worker i = .ended :=
    ended_of_over (hf.workersOver (by rw [show d.helm.main = _ from hfinished]; rfl)) hdead i
  refine ⟨fun before i reading later key k has hi hk => ?_, ⟨hf.ended _ hfinished, fun e he hfree =>
    run_tended policy limiter world as he hfree⟩, ?_, ?_, fun bs a ha => ?_⟩
  · subst has
    exact path_of_lookUp hc hs hcustody hi hk (hended i)
  · have hd : d.desk.Custody := custody_run hcustody as
    have hattended : d.desk.Attended :=
      run_attended (c := c) (fun x hx => absurd hx List.not_mem_nil) hcustody as
    have hdeserted : d.Deserted := run_deserted (c := c) nofun hcustody as
    obtain ⟨hline, -⟩ := hdeserted (by rw [hfinished]; rfl) hended
    have hactive : d.work.queue.active = [] := hattended.active_eq_nil hended
    exact ⟨hline, hd.tidy.dirty_eq_nil hline hactive, hactive⟩
  · cases hready : d.ready with
    | false => rfl
    | true => cases hfinished.symm.trans (hf.ready.1 hready)
  · have hf' : (d.run bs).helm.Fit := fit_run hf bs
    have hfinished' : (d.run bs).main = .finished (.ok ()) := run_finished hfinished bs
    refine step_journal (fun i => isOver_worker (hf'.workersOver ?_) i) (hf'.ended _ hfinished') ha
    rw [show (d.run bs).helm.main = _ from hfinished']
    rfl

omit [Quantity ρ]

/-! ### A stop in the middle of an attempt and of a clean-up -/

/-- A deletion is being cleaned up after, and a worker has taken a key. -/
def fetchingOrders : List Action :=
  [.start 1, .sync true, .main false, .addKey "shop/orders", .send (.deleted World.orders), .pump,
    .pump, .worker 0 0]

/-- The stop comes after the look-up; the worker and the pump go on to their ends. -/
def stoppingShop : List Action :=
  [.stop, .main false, .worker 0 0, .complete (.worker 0), .complete .pump, .worker 0 0,
    .complete (.worker 0), .worker 0 0, .worker 0 0, .pump, .worker 0 0, .worker 0 0, .worker 0 0,
    .main false, .complete .pump, .pump, .main false]

/-- Both come to their ends before the answer. -/
theorem run_ends_orderly_orders :
    let as := fetchingOrders ++ .worker 0 0 :: stoppingShop
    let d := shop.run as
    d.result? = some (.ok ()) ∧
    (∃ a, (Stage.start .hold (some World.orders)).Path
      ((shop.run (fetchingOrders ++ [.worker 0 0])).acts 0 stoppingShop) (.finished a)) ∧
    errands .pump (shop.history as) = World.orders.errands ∧ d.work.queue.active = [] := by
  intro as d
  have hanswer : d.result? = some (.ok ()) := rfl
  have hworkers : d.workers = [.ended] := rfl
  have hdead (i : Nat) (key : String) : d.worker i ≠ .dead key := by
    rw [worker, hworkers]
    cases i <;> simp
  obtain ⟨hattempts, ⟨-, herrands⟩, ⟨-, -, hactive⟩, -⟩ := run_ends_orderly .hold
    (RetryPace.limiter {} 0) (World.solo ⟨"shop", "orders"⟩ World.orders) as hanswer hdead
  refine ⟨hanswer, ?_, (herrands .pump (fun i he => by cases he) rfl).trans (by decide), hactive⟩
  exact hattempts fetchingOrders 0 0 stoppingShop "shop/orders" ⟨"shop", "orders"⟩ rfl rfl
    (by decide)

end Controller

end Provisioner
