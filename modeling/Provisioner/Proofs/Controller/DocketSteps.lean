import Provisioner.Proofs.Controller.Docket

/-!
Every step of a controller is, on the docket, one of those that `Docket.Step` lists.
-/

namespace Provisioner.Controller

variable {ρ : Type} (c : Controller ρ)

variable {c} in
/-- A step elsewhere. -/
lemma docket_aside [Quantity ρ] {c' : Controller ρ} (h : c'.docket = c.docket) :
    Docket.Step c.docket none c'.docket := by
  rw [h]
  exact .aside

lemma docket_setWorker {i : Nat} (hi : c.worker i ≠ .ended) (w : Worker) :
    (c.setWorker i w).docket = c.docket.assign i w.duty := by
  have hw : (fun j => (Function.update c.worker i w j).duty) =
      Function.update (fun j => (c.worker j).duty) i w.duty := Function.comp_update Worker.duty ..
  simp only [docket, Docket.assign, c.worker_setWorker hi w, hw]
  rfl

variable {c} in
lemma docket_step_setWorker [Quantity ρ] {c' : Controller ρ} {i : Nat} {w : Worker}
    {e : Option Entry} (hi : c'.worker i ≠ .ended)
    (h : Docket.Step c.docket e (c'.docket.assign i w.duty)) :
    Docket.Step c.docket e (c'.setWorker i w).docket := by rwa [docket_setWorker _ hi]

variable [Quantity ρ]

/-! ### Notifications -/

lemma docket_enqueue (r : Resource) :
    Docket.Step c.docket ((Key.ofResource r).toOption.map fun k => .queued k.text)
      (c.enqueue r).docket := by
  unfold enqueue
  cases Key.ofResource r with
  | ok k => exact .queued k.text
  | error f => exact .aside

lemma docket_take (n : Notification) :
    Docket.Step c.docket (n.key?.map fun k => .queued k.text) (c.take n).2.docket := by
  cases n with
  | added r => exact c.docket_enqueue r
  | updated old r => exact c.docket_enqueue r
  | deleted r => exact .aside

omit [Quantity ρ] in
lemma docket_clean (h : Handling) : (c.clean h).2.docket = c.docket := by
  cases h <;> rfl

omit [Quantity ρ] in
lemma docket_completeCleanup (h : Handling) : (c.completeCleanup h).2.docket = c.docket := by
  cases h with
  | free => rfl
  | cleaning b => rfl
  | running b l =>
    simp only [completeCleanup]
    split
    · rfl
    · unfold concludeCleanup
      split <;> rfl

lemma docket_call (n : Notification) :
    Docket.Step c.docket (c.noted? (.call n)) (c.step (.call n)).docket := by
  cases hc : c.caller with
  | free =>
    rw [show c.noted? (.call n) = n.key?.map fun k => .queued k.text by simp [noted?, hc],
      show c.step (.call n) = { (c.take n).2 with caller := (c.take n).1 } by simp [step, hc]]
    exact c.docket_take n
  | cleaning b | running b l =>
    rw [show c.noted? (.call n) = none by simp [noted?, hc],
      show c.step (.call n) = c by simp [step, hc]]
    exact .aside

lemma docket_pump : Docket.Step c.docket (c.noted? .pump) c.pumpStep.docket := by
  cases hp : c.pump with
  | unborn | ended =>
    rw [show c.noted? .pump = none by simp [noted?, hp], show c.pumpStep = c by simp [pumpStep, hp]]
    exact .aside
  | «at» h =>
    cases h with
    | cleaning b =>
      rw [show c.noted? .pump = none by simp [noted?, hp],
        show c.pumpStep = ofPump (c.clean (.cleaning b)) by simp [pumpStep, hp]]
      exact docket_aside (c.docket_clean (.cleaning b))
    | running b l =>
      rw [show c.noted? .pump = none by simp [noted?, hp],
        show c.pumpStep = ofPump (c.clean (.running b l)) by simp [pumpStep, hp]]
      exact docket_aside (c.docket_clean (.running b l))
    | free =>
      by_cases hs : c.pumpStopped = true
      · rw [show c.noted? .pump = none by simp [noted?, hp, hs],
          show c.pumpStep = { c with pump := .ended } by simp [pumpStep, hp, hs]]
        exact .aside
      · cases hi : c.inbox with
        | cons n inbox =>
          rw [show c.noted? .pump = n.key?.map fun k => .queued k.text by simp [noted?, hp, hs, hi],
            show c.pumpStep = ofPump ({ c with inbox }.take n) by simp [pumpStep, hp, hs, hi]]
          exact docket_take { c with inbox } n
        | nil =>
          rw [show c.noted? .pump = none by simp [noted?, hp, hi]]
          refine docket_aside ?_
          simp only [pumpStep, hp, hs, hi]
          split_ifs <;> rfl

/-! ### Workers -/

lemma docket_fetch {i : Nat} (hi : c.desk.Vacant i) :
    Docket.Step c.docket (c.taken? i) (c.fetch i).docket := by
  have hne : c.worker i ≠ .ended := hi.ne_ended
  have hfree : c.docket.duty i = .free := by
    rcases hi with h | h <;> simp only [docket, show c.worker i = _ from h, Worker.duty]
  have hl := c.work.look_get i
  have hrest : (c.work.get i).2.limiter = c.work.limiter ∧
      (c.work.get i).2.timers = c.work.timers ∧ (c.work.get i).2.now = c.work.now ∧
      (c.work.get i).2.sleep = c.work.sleep :=
    ⟨rfl, rfl, rfl, rfl⟩
  unfold fetch
  generalize c.work.get i = g at hl hrest ⊢
  obtain ⟨f, work⟩ := g
  obtain ⟨hlim, htimers, hnow, hsleep⟩ := hrest
  simp only at hl hlim htimers hnow hsleep
  refine docket_step_setWorker hne ?_
  have hd : ({ c with work } : Controller ρ).docket = { c.docket with queue := work.queue } := by
    simp only [docket, hlim, htimers, hnow, hsleep]
    rfl
  rw [hd]
  generalize work.queue = q at hl ⊢
  cases hl with
  | @item x _ hx =>
    obtain ⟨xs, hline, -⟩ := Queue.take_eq_some hx
    rw [show c.taken? i = some (.took i x) by simp [taken?, hline]]
    exact .took i hfree hx
  | closed hline _ | nothing hline _ =>
    rw [show c.taken? i = none by simp [taken?, hline]]
    exact .stays hfree

lemma docket_lookUp {i : Nat} {key : String} (hi : c.worker i = .handed key) (reading : Nat) :
    Docket.Step c.docket (c.noted? (.worker i reading)) (c.lookUp i key).docket := by
  have hne : c.worker i ≠ .ended := by simp [hi]
  have hduty : c.docket.duty i = .handed key := by simp only [docket, hi, Worker.duty]
  unfold lookUp
  cases hk : Key.parse key with
  | error f =>
    rw [show c.noted? (.worker i reading) = some (.dropped i key) by simp [noted?, hi, hk]]
    exact docket_step_setWorker hne (.dropped i hduty hk)
  | ok k =>
    rw [show c.noted? (.worker i reading) = none by simp [noted?, hi, hk]]
    exact docket_step_setWorker hne (.began i hduty hk)

lemma docket_conclude {i : Nat} {key : String} {a : Attempt}
    (hi : c.worker i = .reconciling key (.finished a)) (reading : Nat) :
    Docket.Step c.docket (c.noted? (.worker i reading)) (c.conclude i key reading a).docket := by
  have hne : c.worker i ≠ .ended := by simp [hi]
  have hduty : c.docket.duty i = .busy key := by simp only [docket, hi, Worker.duty]
  cases a with
  | ok o =>
    rw [show c.noted? (.worker i reading) = some (.succeeded i key) by simp [noted?, hi]]
    exact docket_step_setWorker hne (.succeeded i hduty)
  | error f =>
    rw [show c.noted? (.worker i reading) = some (.failed i key (c.work.limiter.next key reading).1)
      by simp [noted?, hi]]
    have hcases := c.work.addRateLimited_cases key reading
    obtain ⟨hdelay, hlimiter, hnow, hsleep⟩ := c.work.limiter_addRateLimited key reading
    simp only [conclude]
    generalize c.work.addRateLimited key reading = delayed at hcases hdelay hlimiter hnow hsleep ⊢
    obtain ⟨delay?, work⟩ := delayed
    simp only at hcases hdelay hlimiter hnow hsleep
    have hd (m : Metrics) : ({ c with work, metrics := m } : Controller ρ).docket = { c.docket with
        queue := work.queue, limiter := (c.docket.limiter.next key reading).2
        alarms := work.timers.alarms } := by
      simp only [docket, hlimiter, hnow, hsleep]
      rfl
    rw [← hdelay]
    rcases hcases with ⟨rfl, hq, ht⟩ | ⟨delay, rfl, hr, hq, ht⟩ | ⟨delay, rfl, hq, ht⟩
    · refine docket_step_setWorker hne ?_
      rw [hd, hq, ht]
      exact .died i reading hduty hdelay.symm
    · refine docket_step_setWorker hne ?_
      rw [recordDuration, hd, hq, ht]
      exact .retries i reading hduty hdelay.symm hr
    · refine docket_step_setWorker hne ?_
      rw [recordDuration, hd, hq, ht]
      exact .putOff i reading hduty hdelay.symm

lemma docket_perform {i : Nat} {key : String} {stage : Stage}
    (hi : c.worker i = .reconciling key stage) (reading : Nat) :
    Docket.Step c.docket (c.noted? (.worker i reading)) (c.perform i key reading stage).docket := by
  have hne : c.worker i ≠ .ended := by simp [hi]
  have hduty : c.docket.duty i = .busy key := by simp only [docket, hi, Worker.duty]
  have goes_on {w : Worker} (world : World) (hw : w.duty = .busy key) :
      Docket.Step c.docket none ({ c with world }.setWorker i w).docket := by
    refine docket_step_setWorker hne ?_
    rw [hw]
    exact .stays hduty
  cases stage with
  | execute r b =>
    rw [show c.noted? (.worker i reading) = none by simp [noted?, hi]]
    exact goes_on _ rfl
  | write r v =>
    rw [show c.noted? (.worker i reading) = none by simp [noted?, hi]]
    exact goes_on _ rfl
  | publish r a =>
    rw [show c.noted? (.worker i reading) = none by simp [noted?, hi]]
    exact goes_on _ rfl
  | finished a => exact c.docket_conclude hi reading

lemma docket_worker (i reading : Nat) :
    Docket.Step c.docket (c.noted? (.worker i reading)) (c.workerStep i reading).docket := by
  cases hi : c.worker i with
  | idle =>
    rw [show c.noted? (.worker i reading) = c.taken? i by simp [noted?, hi],
      show c.workerStep i reading = c.fetch i by simp [workerStep, hi]]
    exact c.docket_fetch (.inl hi)
  | waiting =>
    by_cases hw : c.isWoken i = true
    · rw [show c.noted? (.worker i reading) = c.taken? i by simp [noted?, hi, hw],
        show c.workerStep i reading = (c.rouse i).fetch i by simp [workerStep, hi, hw]]
      exact (c.rouse i).docket_fetch (.inr hi)
    · rw [show c.noted? (.worker i reading) = none by simp [noted?, hi, hw],
        show c.workerStep i reading = c by simp [workerStep, hi, hw]]
      exact .aside
  | handed key =>
    rw [show c.workerStep i reading = c.lookUp i key by simp [workerStep, hi]]
    exact c.docket_lookUp hi reading
  | reconciling key stage =>
    rw [show c.workerStep i reading = c.perform i key reading stage by simp [workerStep, hi]]
    exact c.docket_perform hi reading
  | releasing key =>
    have hne : c.worker i ≠ .ended := by simp [hi]
    rw [show c.noted? (.worker i reading) = some (.gave i key) by simp [noted?, hi],
      show c.workerStep i reading = { c with work := c.work.finish key }.setWorker i .idle by
        simp [workerStep, hi]]
    exact docket_step_setWorker hne (.released i (by simp only [docket, hi, Worker.duty]))
  | running key r b l | ended | dead key =>
    rw [show c.noted? (.worker i reading) = none by simp [noted?, hi],
      show c.workerStep i reading = c by simp [workerStep, hi]]
    exact .aside

omit [Quantity ρ] in
lemma docket_complete (e : Executor) : (c.complete e).docket = c.docket := by
  cases e with
  | worker i =>
    simp only [complete, completeWorker]
    cases hi : c.worker i with
    | running key r b l =>
      have hne : c.worker i ≠ .ended := by simp [hi]
      have hduty : c.docket.duty i = .busy key := by simp only [docket, hi, Worker.duty]
      have hset := docket_setWorker { c with world := (c.world.complete l).2 } (i := i) hne
        (.reconciling key (.afterStatement r b (c.world.complete l).1))
      exact hset.trans (Docket.assign_self hduty)
    | _ => rfl
  | pump =>
    simp only [complete]
    split
    · exact c.docket_completeCleanup _
    · rfl
    · rfl
  | caller => exact c.docket_completeCleanup c.caller

/-! ### The main task -/

variable {c} in
/-- The workers come without a key, and nobody had one before. -/
lemma docket_startWorkers (h : ∀ i, c.worker i = .ended) (n : Nat) :
    Docket.Step c.docket none (c.startWorkers n).docket := by
  refine docket_aside ?_
  have hduty (i : Nat) : ((c.startWorkers n).worker i).duty = (c.worker i).duty := by
    rw [h i]
    by_cases hi : i < n
    · simp [worker, startWorkers, List.getD, hi, Worker.duty]
    · simp [worker, startWorkers, List.getD, hi, Worker.duty]
  simp only [docket, hduty]
  rfl

variable {c} in
lemma docket_main (hc : c.desk.Custody) (stopFirst : Bool) :
    Docket.Step c.docket none (c.mainStep stopFirst).docket := by
  unfold mainStep
  split
  · rename_i n hm
    have hended : ∀ i, c.worker i = .ended := hc.early (by simp only [desk, hm, Main.phase])
    split_ifs
    · exact .closed
    · split
      · exact docket_startWorkers hended _
      · exact .closed
      · exact .aside
  · split_ifs
    · exact .closed
    · exact .aside
  · split_ifs <;> exact .aside
  · split <;> exact .aside
  · exact .aside
  · exact .aside

omit [Quantity ρ] in
/-- What goes off at a moment was set for it. -/
lemma alarms_ring {α : Type} (t : Timers α) (moment : Nat) :
    t.alarms.Perm ((t.ring moment).1.map (moment, ·) ++ (t.ring moment).2.alarms) := by
  have hdue : (t.alarms.filter (·.1 == moment)).map (fun a => (moment, a.2)) =
      t.alarms.filter (·.1 == moment) := by
    refine (List.map_congr_left fun a ha => ?_).trans (List.map_id _)
    have hmoment : a.1 = moment := by simpa using (List.mem_filter.1 ha).2
    exact Prod.ext hmoment.symm rfl
  simp only [Timers.ring, List.partition_eq_filter_filter, List.map_map, Function.comp_def, hdue]
  exact (List.filter_append_perm _ _).symm

lemma docket_clock (moment : Nat) : Docket.Step c.docket none (c.setClock moment).docket := by
  unfold setClock
  split_ifs with hm
  · exact .aside
  · simp only [Bool.or_eq_true, decide_eq_true_eq, not_or, Nat.not_lt] at hm
    have hd : ({ c with work := c.work.ring moment } : Controller ρ).docket = { c.docket with
        queue := (c.work.timers.ring moment).1.foldl Queue.add c.docket.queue
        alarms := (c.work.timers.ring moment).2.alarms
        now := moment } := by
      simp only [docket, WorkQueue.queue_ring]
      simp only [WorkQueue.ring, WorkQueue.foldl_add]
      rfl
    rw [hd]
    exact .rang hm.1 (alarms_ring _ moment)

variable {c} in
theorem step_docket (hc : c.desk.Custody) (a : Action) :
    Docket.Step c.docket (c.noted? a) (c.step a).docket := by
  cases a with
  | put r | remove k | breakStatements faults | breakWrites fault => exact .aside
  | enqueue r => exact c.docket_enqueue r
  | addKey key => exact .queued key
  | call n => exact c.docket_call n
  | send n =>
    refine docket_aside ?_
    simp only [step]
    split_ifs <;> rfl
  | closeInbox => exact .aside
  | start n =>
    refine docket_aside ?_
    simp only [step, start]
    split <;> rfl
  | sync success =>
    refine docket_aside ?_
    simp only [step, sync]
    split <;> rfl
  | stop => exact .aside
  | clock moment => exact c.docket_clock moment
  | worker i reading => exact c.docket_worker i reading
  | pump => exact c.docket_pump
  | caller => exact docket_aside (c.docket_clean c.caller)
  | main stopFirst => exact docket_main hc stopFirst
  | complete e => exact docket_aside (c.docket_complete e)

/-! ### Runs -/

omit [Quantity ρ] in
variable {c} in
lemma docket_custody (hc : c.desk.Custody) : c.docket.Custody where
  tidy := hc.tidy
  active i x hx := hc.active i x ((c.worker i).key?_duty ▸ hx)
  alone i j x hi hj := hc.alone i j x ((c.worker i).key?_duty ▸ hi) ((c.worker j).key?_duty ▸ hj)

lemma entries_append (as bs : List Action) :
    c.entries (as ++ bs) = c.entries as ++ (c.run as).entries bs := by
  induction as generalizing c with
  | nil => rfl
  | cons a as ih =>
    simp only [List.cons_append, entries, ih, List.append_assoc]
    rfl

lemma entries_concat (as : List Action) (a : Action) :
    c.entries (as ++ [a]) = c.entries as ++ ((c.run as).noted? a).toList := by
  rw [entries_append]
  simp [entries]

variable {c} in
/-- What holds at the beginning, and is kept by every step that is listed, holds at the end of a
run. -/
theorem run_docket {P : List Entry → Docket ρ → Prop} (hc : c.desk.Custody) (h : P [] c.docket)
    (hs : ∀ es d e d', d.Custody → P es d → Docket.Step d e d' → P (es ++ e.toList) d')
    (as : List Action) : P (c.entries as) (c.run as).docket := by
  induction as using List.reverseRecOn with
  | nil => exact h
  | append_singleton as a ih =>
    have hcustody := custody_run hc as
    rw [entries_concat, run_append]
    exact hs _ _ _ _ (docket_custody hcustody) ih (step_docket hcustody a)

end Provisioner.Controller
