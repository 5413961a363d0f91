import Provisioner.Proofs.Controller.Desk

/-!
Every step of a controller is, at the desk, one of those that `Desk.Step` lists.
-/

namespace Provisioner.Controller

variable {ρ : Type} (c : Controller ρ)

variable {c} in
/-- What comes from outside is the action itself. -/
lemma deed?_outside {a b : Action} {o : Deed} (h : c.deed? a = some o) (ho : o.action? = some b) :
    a = b := by
  cases a with
  | put r | breakWrites fault =>
    obtain rfl := Option.some.inj h
    exact Option.some.inj ho
  | call n | pump =>
    simp only [deed?] at h
    split at h
    · obtain ⟨k, -, rfl⟩ := Option.map_eq_some_iff.1 h
      cases ho
    · cases h
  | worker i reading =>
    have handed (hh : c.handed? i = some o) : .worker i reading = b := by
      obtain ⟨key, -, rfl⟩ := Option.map_eq_some_iff.1 hh
      cases ho
    simp only [deed?] at h
    split at h
    · exact handed h
    · split_ifs at h
      exact handed h
    · obtain rfl := Option.some.inj h
      cases ho
    · cases h
  | _ => cases h

/-! ### Every step is one of those listed -/

variable {c} in
/-- A step elsewhere. -/
lemma desk_aside {c' : Controller ρ} (h : c'.desk = c.desk) : Desk.Step c.desk none c'.desk := by
  rw [h]
  exact .aside (.refl _)

lemma desk_setWorker {i : Nat} (hi : c.worker i ≠ .ended) (w : Worker) :
    (c.setWorker i w).desk = c.desk.occupy i w := by
  simp only [desk, Desk.occupy, c.worker_setWorker hi w]
  rfl

variable {c} in
lemma desk_step_setWorker {c' : Controller ρ} {i : Nat} {w : Worker} {o : Option Deed}
    (hi : c'.worker i ≠ .ended) (h : Desk.Step c.desk o (c'.desk.occupy i w)) :
    Desk.Step c.desk o (c'.setWorker i w).desk := by rwa [desk_setWorker _ hi]

/-! #### Notifications -/

lemma desk_take (n : Notification) :
    Desk.Step c.desk (n.key?.map .announced) (c.take n).2.desk := by
  have queued (r : Resource) :
      Desk.Step c.desk ((Key.ofResource r).toOption.map .announced) (c.enqueue r).desk := by
    unfold enqueue
    cases Key.ofResource r with
    | ok k => exact .announced k
    | error f => exact .aside (.refl _)
  cases n with
  | added r => exact queued r
  | updated old r => exact queued r
  | deleted r => exact .aside (.refl _)

lemma desk_clean (h : Handling) : Desk.Step c.desk none (c.clean h).2.desk := by
  cases h with
  | free => exact .aside (.refl _)
  | cleaning b => exact .aside (World.sameCache_begin _ _)
  | running b l => exact .aside (.refl _)

lemma desk_completeCleanup (h : Handling) :
    Desk.Step c.desk none (c.completeCleanup h).2.desk := by
  cases h with
  | free => exact .aside (.refl _)
  | cleaning b => exact .aside (.refl _)
  | running b l =>
    have hc : (c.completeCleanup (.running b l)).2.desk =
        { c.desk with world := (c.world.complete l).2 } := by
      simp only [completeCleanup]
      split
      · rfl
      · unfold concludeCleanup
        split <;> rfl
    rw [hc]
    exact .aside (World.sameCache_complete _ _)

lemma desk_call [Quantity ρ] (n : Notification) :
    Desk.Step c.desk (c.deed? (.call n)) (c.step (.call n)).desk := by
  cases hc : c.caller with
  | free =>
    rw [show c.deed? (.call n) = n.key?.map .announced by simp [deed?, hc],
      show c.step (.call n) = { (c.take n).2 with caller := (c.take n).1 } by simp [step, hc]]
    exact c.desk_take n
  | cleaning b | running b l =>
    rw [show c.deed? (.call n) = none by simp [deed?, hc],
      show c.step (.call n) = c by simp [step, hc]]
    exact .aside (.refl _)

lemma desk_pump : Desk.Step c.desk (c.deed? .pump) c.pumpStep.desk := by
  cases hp : c.pump with
  | unborn | ended =>
    rw [show c.deed? .pump = none by simp [deed?, hp], show c.pumpStep = c by simp [pumpStep, hp]]
    exact .aside (.refl _)
  | «at» h =>
    cases h with
    | cleaning b =>
      rw [show c.deed? .pump = none by simp [deed?, hp],
        show c.pumpStep = ofPump (c.clean (.cleaning b)) by simp [pumpStep, hp]]
      exact c.desk_clean (.cleaning b)
    | running b l =>
      rw [show c.deed? .pump = none by simp [deed?, hp],
        show c.pumpStep = ofPump (c.clean (.running b l)) by simp [pumpStep, hp]]
      exact c.desk_clean (.running b l)
    | free =>
      by_cases hs : c.pumpStopped = true
      · rw [show c.deed? .pump = none by simp [deed?, hp, hs],
          show c.pumpStep = { c with pump := .ended } by simp [pumpStep, hp, hs]]
        exact .aside (.refl _)
      · cases hi : c.inbox with
        | cons n inbox =>
          rw [show c.deed? .pump = n.key?.map .announced by simp [deed?, hp, hs, hi],
            show c.pumpStep = ofPump ({ c with inbox }.take n) by simp [pumpStep, hp, hs, hi]]
          exact desk_take { c with inbox } n
        | nil =>
          rw [show c.deed? .pump = none by simp [deed?, hp, hi]]
          refine desk_aside ?_
          simp only [pumpStep, hp, hs, hi]
          split_ifs <;> rfl

/-! #### Workers -/

lemma desk_fetch {i : Nat} (hi : c.desk.Vacant i) :
    Desk.Step c.desk (c.handed? i) (c.fetch i).desk := by
  have hne : c.worker i ≠ .ended := by
    rcases hi with h | h <;> simp [show c.worker i = _ from h]
  have hl := c.work.look_get i
  have ht : (c.work.get i).2.timers = c.work.timers := rfl
  unfold fetch
  generalize c.work.get i = g at hl ht ⊢
  obtain ⟨f, work⟩ := g
  simp only at hl ht
  refine desk_step_setWorker hne ?_
  have hd : ({ c with work } : Controller ρ).desk = { c.desk with queue := work.queue } := by
    simp only [desk, ht]
    rfl
  rw [hd]
  generalize work.queue = q at hl ⊢
  cases hl with
  | @item x _ hx =>
    obtain ⟨xs, hline, -⟩ := Queue.take_eq_some hx
    rw [show c.handed? i = some (.handed i x) by simp [handed?, hline]]
    exact .handed i hi hx
  | closed hline _ =>
    rw [show c.handed? i = none by simp [handed?, hline]]
    exact .rested i _ hi rfl
  | nothing hline _ =>
    rw [show c.handed? i = none by simp [handed?, hline]]
    exact .rested i _ hi rfl

lemma desk_lookUp {i : Nat} {key : String} (hi : c.worker i = .handed key) :
    Desk.Step c.desk (some (.consulted i key)) (c.lookUp i key).desk := by
  have hne : c.worker i ≠ .ended := by simp [hi]
  unfold lookUp
  split
  · rename_i f hk
    exact desk_step_setWorker hne (.dropped i hi hk)
  · rename_i k hk
    exact desk_step_setWorker hne (.consulted i hi hk)

lemma desk_conclude [Quantity ρ] {i : Nat} {key : String} {a : Attempt}
    (hi : c.worker i = .reconciling key (.finished a)) (reading : Nat) :
    Desk.Step c.desk none (c.conclude i key reading a).desk := by
  have hne : c.worker i ≠ .ended := by simp [hi]
  cases a with
  | ok o => exact desk_step_setWorker hne (.succeeded i hi)
  | error f =>
    have hcases := c.work.addRateLimited_cases key reading
    simp only [conclude]
    generalize c.work.addRateLimited key reading = delayed at hcases ⊢
    obtain ⟨delay, work⟩ := delayed
    have hd (m : Metrics) : ({ c with work, metrics := m } : Controller ρ).desk = { c.desk with
        queue := work.queue, alarms := work.timers.alarms.map (·.2) } := rfl
    simp only at hcases
    rcases hcases with ⟨rfl, hq, ht⟩ | ⟨n, rfl, -, hq, ht⟩ | ⟨n, rfl, hq, ht⟩
    · refine desk_step_setWorker hne ?_
      rw [hd, hq, ht]
      exact .died i hi
    · refine desk_step_setWorker hne ?_
      rw [recordDuration, hd, hq, ht]
      exact .retries i hi
    · refine desk_step_setWorker hne ?_
      rw [recordDuration, hd, hq, ht, List.map_append]
      exact .putOff i hi

lemma desk_perform [Quantity ρ] {i : Nat} {key : String} {stage : Stage}
    (hi : c.worker i = .reconciling key stage) (reading : Nat) :
    Desk.Step c.desk none (c.perform i key reading stage).desk := by
  have hne : c.worker i ≠ .ended := by simp [hi]
  cases stage with
  | execute r b => exact desk_step_setWorker hne (.executes i hi)
  | write r v => exact desk_step_setWorker hne (.writes i hi)
  | publish r a => exact desk_step_setWorker hne (.publishes i hi)
  | finished a => exact c.desk_conclude hi reading

lemma desk_worker [Quantity ρ] (i reading : Nat) :
    Desk.Step c.desk (c.deed? (.worker i reading)) (c.workerStep i reading).desk := by
  cases hi : c.worker i with
  | idle =>
    rw [show c.deed? (.worker i reading) = c.handed? i by simp [deed?, hi],
      show c.workerStep i reading = c.fetch i by simp [workerStep, hi]]
    exact c.desk_fetch (.inl hi)
  | waiting =>
    by_cases hw : c.isWoken i = true
    · rw [show c.deed? (.worker i reading) = c.handed? i by simp [deed?, hi, hw],
        show c.workerStep i reading = (c.rouse i).fetch i by simp [workerStep, hi, hw]]
      exact (c.rouse i).desk_fetch (.inr hi)
    · rw [show c.deed? (.worker i reading) = none by simp [deed?, hi, hw],
        show c.workerStep i reading = c by simp [workerStep, hi, hw]]
      exact .aside (.refl _)
  | handed key =>
    rw [show c.deed? (.worker i reading) = some (.consulted i key) by simp [deed?, hi],
      show c.workerStep i reading = c.lookUp i key by simp [workerStep, hi]]
    exact c.desk_lookUp hi
  | reconciling key stage =>
    rw [show c.deed? (.worker i reading) = none by simp [deed?, hi],
      show c.workerStep i reading = c.perform i key reading stage by simp [workerStep, hi]]
    exact c.desk_perform hi reading
  | releasing key =>
    have hne : c.worker i ≠ .ended := by simp [hi]
    rw [show c.deed? (.worker i reading) = none by simp [deed?, hi],
      show c.workerStep i reading = { c with work := c.work.finish key }.setWorker i .idle by
        simp [workerStep, hi]]
    exact desk_step_setWorker hne (.released i hi)
  | running key r b l | ended | dead key =>
    rw [show c.deed? (.worker i reading) = none by simp [deed?, hi],
      show c.workerStep i reading = c by simp [workerStep, hi]]
    exact .aside (.refl _)

lemma desk_complete (e : Executor) : Desk.Step c.desk none (c.complete e).desk := by
  cases e with
  | worker i =>
    simp only [complete, completeWorker]
    cases hi : c.worker i with
    | running key r b l =>
      have hne : c.worker i ≠ .ended := by simp [hi]
      exact desk_step_setWorker hne (.executed i hi)
    | _ => exact .aside (.refl _)
  | pump =>
    simp only [complete]
    split
    · exact c.desk_completeCleanup _
    · exact .aside (.refl _)
    · exact .aside (.refl _)
  | caller => exact c.desk_completeCleanup c.caller

/-! #### The main task -/

lemma desk_main (stopFirst : Bool) : Desk.Step c.desk none (c.mainStep stopFirst).desk := by
  have given_up : Desk.Step c.desk none c.giveUp.desk := .closed
  unfold mainStep
  split
  · rename_i n hm
    have started (m : Nat) : Desk.Step c.desk none (c.startWorkers m).desk := by
      refine .started _ (by simp [desk, hm, Main.phase]) fun i => ?_
      by_cases hi : i < m
      · simp [worker, startWorkers, List.getD, hi, Worker.key?]
      · simp [worker, startWorkers, List.getD, hi, Worker.key?]
    split_ifs
    · exact given_up
    · split
      · exact started _
      · exact given_up
      · exact .aside (.refl _)
  · split_ifs
    · exact .closed
    · exact .aside (.refl _)
  · rename_i hm
    split_ifs
    · refine desk_aside ?_
      simp only [desk, hm, Main.phase]
      rfl
    · exact .aside (.refl _)
  · rename_i result hm
    split
    · refine desk_aside ?_
      simp only [desk, hm, Main.phase]
      rfl
    · exact .aside (.refl _)
  · exact .aside (.refl _)
  · exact .aside (.refl _)

lemma desk_clock (moment : Nat) : Desk.Step c.desk none (c.setClock moment).desk := by
  unfold setClock
  split_ifs
  · exact .aside (.refl _)
  · have hp : c.desk.alarms.Perm ((c.work.timers.ring moment).1 ++
        (c.work.timers.ring moment).2.alarms.map (·.2)) := by
      simp only [Timers.ring, List.partition_eq_filter_filter, ← List.map_append]
      exact (List.filter_append_perm _ _).symm.map _
    have hd : ({ c with work := c.work.ring moment } : Controller ρ).desk = { c.desk with
        queue := (c.work.timers.ring moment).1.foldl Queue.add c.desk.queue
        alarms := (c.work.timers.ring moment).2.alarms.map (·.2) } := by
      simp only [desk, WorkQueue.queue_ring]
      simp only [WorkQueue.ring, WorkQueue.timers_foldl_add]
      rfl
    rw [hd]
    exact .rang hp

theorem step_desk [Quantity ρ] (a : Action) : Desk.Step c.desk (c.deed? a) (c.step a).desk := by
  cases a with
  | put r => exact .stored r
  | remove k => exact .removed k
  | breakStatements faults => exact .aside ⟨rfl, rfl, rfl⟩
  | breakWrites fault => exact .brokeWrites fault
  | enqueue r =>
    simp only [step, enqueue]
    split
    · rename_i k _
      exact .queued k.text
    · exact .aside (.refl _)
  | addKey key => exact .queued key
  | call n => exact c.desk_call n
  | send n =>
    refine desk_aside ?_
    simp only [step]
    split_ifs <;> rfl
  | closeInbox => exact .aside (.refl _)
  | start n =>
    refine desk_aside ?_
    simp only [step, start]
    split
    · rename_i hm
      simp only [desk, hm, Main.phase]
      rfl
    · rfl
  | sync success =>
    refine desk_aside ?_
    simp only [step, sync]
    split <;> rfl
  | stop => exact .aside (.refl _)
  | clock moment => exact c.desk_clock moment
  | worker i reading => exact c.desk_worker i reading
  | pump => exact c.desk_pump
  | caller => exact c.desk_clean c.caller
  | main stopFirst => exact c.desk_main stopFirst
  | complete e => exact c.desk_complete e

end Provisioner.Controller
