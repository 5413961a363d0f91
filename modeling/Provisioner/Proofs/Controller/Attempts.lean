import Provisioner.Proofs.Controller.Custody
import Provisioner.Proofs.Controller.Sound
import Provisioner.Proofs.Reconcile.Basic

/-!
What a worker does between two look-ups.

With what it finds in the cache a worker knows what it will do: which statements it will execute, in
which order, and whether it will write a status. It does that and nothing else, whatever the other
workers do meanwhile and whatever comes of the statements.
-/

namespace Provisioner

/-- What an attempt does to the server and to the resources. -/
inductive Effort where
  | executes (t : Sql.Statement)
  /-- A status is written for the resource. -/
  | reports (r : Resource)
  deriving DecidableEq

/-- What is still to be done in the attempt. -/
def Stage.plan : Stage → List Effort
  | .execute r b => b.remaining.map .executes ++ [.reports r]
  | .write r _ => [.reports r]
  | .publish .. | .finished _ => []

namespace Worker

/-- What the worker is still to do before it can look into the queue again. -/
def plan : Worker → List Effort
  | .reconciling _ s => s.plan
  | .running _ r b _ => b.rest.map .executes ++ [.reports r]
  | .idle | .waiting | .handed _ | .releasing _ | .ended | .dead _ => []

/-- What the worker does when it goes on. -/
def effort? : Worker → Option Effort
  | .reconciling _ (.execute _ b) => some (.executes b.current)
  | .reconciling _ (.write r _) => some (.reports r)
  | _ => none

end Worker

namespace Stage

variable {r : Resource}

lemma plan_conclude (r : Resource) (a : Attempt) : (conclude r a).plan = [] := by
  unfold conclude
  split
  · rfl
  · split_ifs <;> rfl

lemma plan_afterStatement (r : Resource) (b : Sql.Batch) (outcome : Except Failure Unit) :
    (afterStatement r b outcome).plan = b.rest.map .executes ++ [.reports r] := by
  unfold afterStatement
  split
  · rename_i b' hb
    rw [plan, (Sql.Batch.advance?_eq_some hb).1]
  · rename_i hb
    rw [Sql.Batch.advance?_eq_none.1 hb]
    rfl

/-- For a valid spec both statements are planned, and the status in any case. -/
lemma plan_provision (r : Resource) :
    (provision r).plan =
      if r.spec.validate = .ok () then
        [.executes (.createUser r.spec.username r.spec.password),
          .executes (.createDatabase r.spec.database r.spec.username), .reports r]
      else [.reports r] := by
  unfold provision
  split
  · rename_i m hm
    rw [if_neg (by simp [hm])]
    rfl
  · rename_i hm
    rw [if_pos hm]
    rfl

/-- Under `hold`, an attempt is made only for a resource that is not decided. -/
lemma plan_start_hold (x : Option Resource) :
    (start .hold x).plan = [] ∨
      ∃ r, x = some r ∧ r.progress = .unprovisioned ∧ start .hold x = provision r := by
  cases x with
  | none => exact .inl rfl
  | some r =>
    cases hp : r.progress with
    | provisioned => exact .inl (by simp [start, hp, plan])
    | error => exact .inl (by simp [start, hp, plan])
    | unprovisioned => exact .inr ⟨r, rfl, hp, by simp [start, hp]⟩

end Stage

lemma Desk.Step.handed_of_consulted {d d' : Desk} {i : Nat} {key : String}
    (hs : d.Step (some (.consulted i key)) d') : d.worker i = .handed key := by
  cases hs <;> assumption

namespace Controller

variable {ρ : Type} (c : Controller ρ) {i j : Nat}

/-- The worker looks up what the key in its hands stands for. -/
def consults (i : Nat) (a : Action) : Bool :=
  match c.deed? a with
  | some (.consulted j _) => j == i
  | _ => false

/-- What the worker does in a step. -/
def effort? (i : Nat) : Action → Option Effort
  | .worker j _ => if j = i then (c.worker i).effort? else none
  | _ => none

/-- What the worker does until it looks up the next key. -/
def efforts [Quantity ρ] (i : Nat) (c : Controller ρ) : List Action → List Effort
  | [] => []
  | a :: as =>
    if c.consults i a then [] else (c.effort? i a).toList ++ (c.step a).efforts i as

/-! ### Steps that leave a worker where it is -/

lemma workers_take (n : Notification) : (c.take n).2.workers = c.workers := by
  obtain ⟨work, metrics, h⟩ := c.frame_take n
  rw [h]

lemma workers_clean (h : Handling) : (c.clean h).2.workers = c.workers := by
  obtain ⟨world, h⟩ := c.frame_clean h
  rw [h]

lemma workers_completeCleanup (h : Handling) : (c.completeCleanup h).2.workers = c.workers := by
  obtain ⟨world, metrics, h⟩ := c.frame_completeCleanup h
  rw [h]

lemma workers_pumpStep : c.pumpStep.workers = c.workers := by
  unfold pumpStep
  split
  · split
    · rfl
    · split
      · exact workers_take _ _
      · split <;> rfl
  · exact c.workers_clean _
  · rfl
  · rfl

/-- A worker's step concerns its own place alone. -/
lemma workers_workerStep [Quantity ρ] (i reading : Nat) :
    (c.workerStep i reading).workers = c.workers ∨
      ∃ w, (c.workerStep i reading).workers = c.workers.set i w := by
  unfold workerStep
  split
  · exact .inr ⟨_, rfl⟩
  · split_ifs
    · exact .inr ⟨_, rfl⟩
    · exact .inl rfl
  · unfold lookUp
    split <;> exact .inr ⟨_, rfl⟩
  · unfold perform
    split
    · exact .inr ⟨_, rfl⟩
    · exact .inr ⟨_, rfl⟩
    · exact .inr ⟨_, rfl⟩
    · unfold conclude
      split
      · exact .inr ⟨_, rfl⟩
      · simp only
        split <;> exact .inr ⟨_, rfl⟩
  · exact .inr ⟨_, rfl⟩
  all_goals exact .inl rfl

lemma workers_completeWorker (i : Nat) :
    (c.completeWorker i).workers = c.workers ∨
      ∃ w, (c.completeWorker i).workers = c.workers.set i w := by
  unfold completeWorker
  split
  · exact .inr ⟨_, rfl⟩
  · exact .inl rfl

variable {c}

lemma worker_of_workers {c' : Controller ρ} (h : c'.workers = c.workers) (i : Nat) :
    c'.worker i = c.worker i := by rw [worker, worker, h]

lemma worker_of_set {c' : Controller ρ}
    (h : c'.workers = c.workers ∨ ∃ w, c'.workers = c.workers.set j w) (hij : i ≠ j) :
    c'.worker i = c.worker i := by
  rcases h with h | ⟨w, h⟩
  · exact worker_of_workers h i
  · rw [worker, worker, h]
    simp [hij.symm]

/-- The main task only puts the workers in their places, where nobody was before. -/
lemma worker_mainStep (hd : c.desk.Custody) (stopFirst : Bool) (i : Nat) :
    (c.mainStep stopFirst).worker i = c.worker i ∨
      c.worker i = .ended ∧ (c.mainStep stopFirst).worker i = .waiting := by
  unfold mainStep
  split
  · rename_i n hm
    have hended : c.worker i = .ended := hd.early (by simp [desk, hm, Main.phase]) i
    split_ifs
    · exact .inl rfl
    · split
      · by_cases hi : i < max n 1
        · exact .inr ⟨hended, by simp [worker, startWorkers, List.getD, hi]⟩
        · rw [hended]
          exact .inl (by simp [worker, startWorkers, List.getD, hi])
      · exact .inl rfl
      · exact .inl rfl
  · split_ifs <;> exact .inl rfl
  · split_ifs <;> exact .inl rfl
  · split <;> exact .inl rfl
  · exact .inl rfl
  · exact .inl rfl

/-- What is not the worker's own doing leaves it where it is, unless it comes to the queue. -/
lemma worker_step_of_not_own [Quantity ρ] (hd : c.desk.Custody) {a : Action}
    (ha : a.isOf i = false) :
    (c.step a).worker i = c.worker i ∨ c.worker i = .ended ∧ (c.step a).worker i = .waiting := by
  by_cases hin : a.isInput = true
  · obtain ⟨work, metrics, caller, inbox, inboxClosed, hs⟩ := c.frame_input hin
    rw [hs]
    exact .inl rfl
  cases a with
  | enqueue r | addKey key | call n | send n | closeInbox | clock moment => exact absurd rfl hin
  | put r | remove k | breakStatements faults | breakWrites fault | stop => exact .inl rfl
  | start n =>
    refine .inl (worker_of_workers ?_ i)
    simp only [step, start]
    split <;> rfl
  | sync success =>
    refine .inl (worker_of_workers ?_ i)
    simp only [step, sync]
    split <;> rfl
  | worker j reading =>
    have hij : i ≠ j := by
      rintro rfl
      simp [Action.isOf] at ha
    exact .inl (worker_of_set (c.workers_workerStep j reading) hij)
  | pump => exact .inl (worker_of_workers c.workers_pumpStep i)
  | caller => exact .inl (worker_of_workers (c.workers_clean c.caller) i)
  | main stopFirst => exact worker_mainStep hd stopFirst i
  | complete e =>
    cases e with
    | worker j =>
      have hij : i ≠ j := by
        rintro rfl
        simp [Action.isOf] at ha
      exact .inl (worker_of_set (c.workers_completeWorker j) hij)
    | pump =>
      refine .inl (worker_of_workers ?_ i)
      simp only [step, complete]
      split
      · exact c.workers_completeCleanup _
      · rfl
      · rfl
    | caller => exact .inl (worker_of_workers (c.workers_completeCleanup c.caller) i)

lemma own_cases {a : Action} (ha : a.isOf i = true) :
    (∃ reading, a = .worker i reading) ∨ a = .complete (.worker i) := by
  unfold Action.isOf at ha
  split at ha
  · exact .inl ⟨_, by rw [beq_iff_eq.1 ha]⟩
  · exact .inr (by rw [beq_iff_eq.1 ha])
  · cases ha

/-! ### Plans -/

/-- In its own step a worker does the first thing that it has planned. -/
lemma plan_workerStep [Quantity ρ] (reading : Nat)
    (hc : c.consults i (.worker i reading) = false) :
    (c.worker i).effort?.toList ++ ((c.workerStep i reading).worker i).plan = (c.worker i).plan := by
  have takes {c' : Controller ρ} {w w' : Worker} (hw' : c.worker i = w') (hne : w' ≠ .ended)
      (hp : w'.effort?.toList ++ w.plan = w'.plan) (hw : c'.workers = c.workers) :
      w'.effort?.toList ++ ((c'.setWorker i w).worker i).plan = w'.plan := by
    have hi : c'.worker i ≠ .ended := by
      rw [worker_of_workers hw, hw']
      exact hne
    rw [c'.worker_setWorker hi, Function.update_self, hp]
  have fetched {c' : Controller ρ} {w' : Worker} (hw' : c.worker i = w') (hne : w' ≠ .ended)
      (hp : w'.effort?.toList = w'.plan) (hw : c'.workers = c.workers) :
      w'.effort?.toList ++ ((c'.fetch i).worker i).plan = w'.plan := by
    refine takes hw' hne ?_ hw
    rw [hp]
    split <;> exact List.append_nil _
  cases hi : c.worker i with
  | idle =>
    rw [show c.workerStep i reading = c.fetch i by simp [workerStep, hi]]
    exact fetched hi (by simp) rfl rfl
  | waiting =>
    by_cases hw : c.isWoken i = true
    · rw [show c.workerStep i reading = (c.rouse i).fetch i by simp [workerStep, hi, hw]]
      exact fetched hi (by simp) rfl rfl
    · rw [show c.workerStep i reading = c by simp [workerStep, hi, hw], hi]
      rfl
  | handed key => simp [consults, deed?, hi] at hc
  | reconciling key stage =>
    rw [show c.workerStep i reading = c.perform i key reading stage by simp [workerStep, hi]]
    have hne : Worker.reconciling key stage ≠ .ended := by simp
    cases stage with
    | execute r b => exact takes hi hne rfl rfl
    | write r v =>
      refine takes hi hne ?_ rfl
      simp only [Worker.plan, Stage.afterWrite_eq, Stage.plan_conclude]
      rfl
    | publish r a => exact takes hi hne rfl rfl
    | finished a =>
      cases a with
      | ok o => exact takes hi hne rfl rfl
      | error f =>
        simp only [perform, conclude]
        split <;> exact takes hi hne rfl rfl
  | running key r b l | ended | dead key =>
    rw [show c.workerStep i reading = c by simp [workerStep, hi], hi]
    rfl
  | releasing key =>
    rw [show c.workerStep i reading = { c with work := c.work.finish key }.setWorker i .idle by
      simp [workerStep, hi]]
    exact takes hi (by simp) rfl rfl

lemma plan_completeWorker : ((c.completeWorker i).worker i).plan = (c.worker i).plan := by
  unfold completeWorker
  cases hi : c.worker i with
  | running key r b l =>
    have hne : c.worker i ≠ .ended := by simp [hi]
    simp only
    rw [worker_setWorker { c with world := (c.world.complete l).2 } hne, Function.update_self]
    exact Stage.plan_afterStatement r b _
  | _ => simp [hi]

/-- **Step**: what a worker does in a step is the first thing that it has planned, and the rest of
the plan is still to come; in all other steps the plan stays as it is. -/
theorem plan_step [Quantity ρ] (hd : c.desk.Custody) {a : Action} (hc : c.consults i a = false) :
    (c.effort? i a).toList ++ ((c.step a).worker i).plan = (c.worker i).plan := by
  cases ha : a.isOf i with
  | true =>
    rcases own_cases ha with ⟨reading, rfl⟩ | rfl
    · rw [effort?, if_pos rfl]
      exact plan_workerStep reading hc
    · exact plan_completeWorker
  | false =>
    have hnone : c.effort? i a = none := by
      cases a with
      | worker j reading => exact if_neg (by simpa [Action.isOf] using ha)
      | _ => rfl
    rw [hnone]
    rcases worker_step_of_not_own hd ha with h | ⟨h, h'⟩
    · rw [h]
      rfl
    · rw [h, h']
      rfl

/-- Whoever looks up a key has it in its hands, and has nothing planned. -/
lemma handed_of_consulted [Quantity ρ] {a : Action} {key : String}
    (h : c.deed? a = some (.consulted i key)) : c.worker i = .handed key := by
  have hs := c.step_desk a
  rw [h] at hs
  exact hs.handed_of_consulted

/-- **Run**: until its next look-up a worker does what it has planned, in that order. It is through
with it, or the rest is still to come. -/
theorem efforts_plan [Quantity ρ] (hd : c.desk.Custody) (as : List Action) :
    c.efforts i as = (c.worker i).plan ∨
      c.efforts i as ++ ((c.run as).worker i).plan = (c.worker i).plan := by
  induction as generalizing c with
  | nil => exact .inr rfl
  | cons a as ih =>
    rw [efforts]
    cases hc : c.consults i a with
    | true =>
      unfold consults at hc
      split at hc
      · rename_i j key ho
        obtain rfl : j = i := by simpa using hc
        rw [if_pos rfl, handed_of_consulted ho]
        exact .inl rfl
      · cases hc
    | false =>
      rw [if_neg (by simp), ← plan_step hd hc, List.append_assoc]
      exact (ih (hd.step (c.step_desk a))).imp (congrArg _) (congrArg _)

end Controller

/-! ### What reaches the server and the resources -/

namespace View

variable {v v' : View} {o : Option Occurrence}

/-- A status is written only by a worker that has it planned as the last thing. -/
lemma Step.updates (ht : v.Step o v') :
    v'.world.journal.updates = v.world.journal.updates ∨
    ∃ i r s, (v.worker i).plan = [.reports r] ∧ (v'.worker i).plan = [] ∧
      v'.world.journal.updates = v.world.journal.updates ++ [r.withStatus s] := by
  refine ht.updates_cases.imp_right ?_
  rintro ⟨i, key, r, d, outcome, hi, hi', hu⟩
  refine ⟨i, r, d.status, by rw [hi]; rfl, ?_, hu⟩
  rw [hi', Worker.plan, Stage.afterWrite_eq, Stage.plan_conclude]

/-- A statement is begun by a worker that has it planned as the next thing, or in a clean-up. -/
lemma Step.statements (ht : v.Step o v') :
    v'.world.journal.statements = v.world.journal.statements ∨
    ∃ t, v'.world.journal.statements = v.world.journal.statements ++ [t.render?] ∧
      ((∃ i es, (v.worker i).plan = .executes t :: es ∧ (v'.worker i).plan = es) ∨
        ∃ e b, v.handling e = .cleaning b ∧ b.current = t) := by
  cases ht with
  | stored r => exact .inl (congrArg Journal.statements (v.world.frame_put r).2.2.2)
  | cleaned e b l he => exact .inl (congrArg Journal.statements (v.world.frame_complete l).2.2.2)
  | executed i key r b l hi =>
    exact .inl (congrArg Journal.statements (v.world.frame_complete l).2.2.2)
  | writes i key r d hi =>
    exact .inl ((v.world.journal_write _).elim (congrArg Journal.statements)
      (congrArg Journal.statements))
  | cleans e b he => exact .inr ⟨b.current, rfl, .inr ⟨e, b, he, rfl⟩⟩
  | executes i key r b hi =>
    refine .inr ⟨b.current, rfl, .inl ⟨i, b.rest.map .executes ++ [.reports r], ?_, ?_⟩⟩
    · rw [hi]
      rfl
    · simp [occupy, Worker.plan]
  | _ => exact .inl rfl

end View

namespace Controller

variable {ρ : Type} [Quantity ρ] {c : Controller ρ}

/-- Who gets something done has done it in this step. -/
lemma effort?_eq_some (hd : c.desk.Custody) {i : Nat} {a : Action} {x : Effort} {es : List Effort}
    (h : (c.worker i).plan = x :: es) (h' : ((c.step a).worker i).plan = es) :
    c.effort? i a = some x := by
  have hc : c.consults i a = false := by
    unfold consults
    split
    · rename_i j key ho
      by_contra hne
      obtain rfl : j = i := by simpa using hne
      rw [handed_of_consulted ho] at h
      cases h
    · rfl
  have hp := plan_step hd hc
  rw [h, h'] at hp
  cases he : c.effort? i a with
  | none =>
    rw [he] at hp
    exact absurd (congrArg List.length hp) (by simp)
  | some y =>
    rw [he] at hp
    exact congrArg some (List.cons.inj hp).1

/-- Whatever is noted in a step, as a status or as a statement, is what some worker does in it, but
for the statements of clean-ups. -/
theorem journal_step (hc : c.Orderly) (hd : c.desk.Custody) (a : Action) :
    let old := c.world.journal
    let new := (c.step a).world.journal
    (new.updates = old.updates ∨ ∃ i r s, c.effort? i a = some (.reports r) ∧
      new.updates = old.updates ++ [r.withStatus s]) ∧
    (new.statements = old.statements ∨
      ∃ t, new.statements = old.statements ++ [t.render?] ∧
        ((∃ i, c.effort? i a = some (.executes t)) ∨
          ∃ e b, c.handling e = .cleaning b ∧ b.current = t)) := by
  have ht := c.step_view hc a
  refine ⟨ht.updates.imp_right ?_, ht.statements.imp_right ?_⟩
  · rintro ⟨i, r, s, h, h', hu⟩
    exact ⟨i, r, s, effort?_eq_some hd h h', hu⟩
  · rintro ⟨t, hu, ⟨i, es, h, h'⟩ | hclean⟩
    · exact ⟨t, hu, .inl ⟨i, effort?_eq_some hd h h'⟩⟩
    · exact ⟨t, hu, .inr hclean⟩

end Controller

end Provisioner
