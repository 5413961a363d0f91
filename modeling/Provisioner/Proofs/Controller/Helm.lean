import Provisioner.Proofs.Controller.Attempts

/-!
The part of a controller that the main task steers, and what can happen to it in a step.

The helm leaves out the world, the queue, the alarms and the caller. `Helm.Step` lists all that a step
can do to it; from this it is known at every moment of a run who is there and what the flags say.
-/

namespace Provisioner

namespace Main

/-- The first list was there, and the workers were started. -/
def isManned : Main → Bool
  | .serving | .joining | .ending (.ok _) | .finished (.ok _) => true
  | .unborn | .syncing _ | .ending (.error _) | .finished (.error _) => false

/-- What the main task will answer, once that is settled. -/
def verdict? : Main → Option (Except Failure Unit)
  | .ending result | .finished result => some result
  | .unborn | .syncing _ | .serving | .joining => none

lemma isManned_of_verdict? {m : Main} {result : Except Failure Unit}
    (h : m.verdict? = some result) : m.isManned = result.isOk := by
  cases m with
  | ending r | finished r =>
    obtain rfl := Option.some.inj h
    cases r <;> rfl
  | _ => cases h

lemma isManned_finished (result : Except Failure Unit) :
    (finished result).isManned = (ending result).isManned := by
  cases result <;> rfl

lemma isManned_of_early {m : Main} (h : m.phase = .early) : m.isManned = false := by
  cases m with
  | unborn | syncing n => rfl
  | _ => cases h

lemma phase_of_verdict? {m : Main} {result : Except Failure Unit} (h : m.verdict? = some result) :
    m.phase = .over := by
  cases m with
  | ending r | finished r => rfl
  | _ => cases h

end Main

structure Helm where
  main : Main
  ready : Bool
  synced : Option Bool
  stopped : Bool
  workers : List Worker
  pump : Pump
  pumpStopped : Bool

namespace Helm

variable {h h' : Helm}

inductive Step (h : Helm) : Helm → Prop
  | aside : Step h h
  /-- A worker that is over does nothing any more. -/
  | worked (ws : List Worker) (hl : ws.length = h.workers.length)
      (ho : h.workers.all Worker.isOver = true → ws = h.workers) : Step h { h with workers := ws }
  | pumped {x y : Handling} (hp : h.pump = .at x) : Step h { h with pump := .at y }
  | pumpEnded {x : Handling} (hp : h.pump = .at x) : Step h { h with pump := .ended }
  | born (n : Nat) (hm : h.main = .unborn) : Step h { h with main := .syncing n, pump := .at .free }
  | told (success : Bool) (hm : h.main.phase = .early) : Step h { h with synced := some success }
  | stopped : Step h { h with stopped := true }
  | manned {n m : Nat} (hm : h.main = .syncing m) (hs : h.synced = some true) (hn : 0 < n) :
      Step h { h with workers := List.replicate n .waiting, ready := true, main := .serving }
  | gaveUp {m : Nat} (hm : h.main = .syncing m) :
      Step h { h with pumpStopped := true, main := .ending (.error .cacheSync) }
  | dismissed (hm : h.main = .serving) : Step h { h with ready := false, main := .joining }
  | joined (hm : h.main = .joining) (ho : h.workers.all Worker.isOver = true) :
      Step h { h with pumpStopped := true, main := .ending (.ok ()) }
  | finished {result : Except Failure Unit} (hm : h.main = .ending result) (hp : h.pump = .ended) :
      Step h { h with main := .finished result }

/-! ### What a step keeps -/

/-- Who is there and what the flags say, by how far the main task has come. -/
structure Fit (h : Helm) : Prop where
  ready : h.ready = true ↔ h.main = .serving
  manned : h.main.isManned = true → h.synced = some true ∧ h.workers ≠ []
  unmanned : h.main.isManned = false → h.workers = []
  pump : h.main ≠ .unborn → h.pump ≠ .unborn
  pumpStopped : ∀ r, h.main.verdict? = some r → h.pumpStopped = true
  failed : ∀ f, h.main.verdict? = some (.error f) → f = .cacheSync
  workersOver : h.main.verdict? = some (.ok ()) → h.workers.all Worker.isOver = true
  ended : ∀ r, h.main = .finished r → h.pump = .ended

lemma Fit.step (hf : h.Fit) (hs : h.Step h') : h'.Fit := by
  have unready (hm : h.main ≠ .serving) : h.ready ≠ true := fun hr => hm (hf.ready.1 hr)
  cases hs with
  | aside | stopped => exact ⟨hf.1, hf.2, hf.3, hf.4, hf.5, hf.6, hf.7, hf.8⟩
  | worked ws hl ho =>
    refine ⟨hf.ready, fun hm => ⟨(hf.manned hm).1, ?_⟩, fun hm => ?_, hf.pump, hf.pumpStopped,
      hf.failed, fun hr => ?_, hf.ended⟩
    · rintro rfl
      exact (hf.manned hm).2 (List.length_eq_zero_iff.1 hl.symm)
    · exact List.length_eq_zero_iff.1 (hl.trans (List.length_eq_zero_iff.2 (hf.unmanned hm)))
    · exact (ho (hf.workersOver hr)).symm ▸ hf.workersOver hr
  | pumped hp =>
    refine ⟨hf.ready, hf.manned, hf.unmanned, nofun, hf.pumpStopped, hf.failed, hf.workersOver,
      fun r hr => ?_⟩
    cases (hf.ended r hr).symm.trans hp
  | pumpEnded hp =>
    exact ⟨hf.ready, hf.manned, hf.unmanned, nofun, hf.pumpStopped, hf.failed, hf.workersOver,
      fun _ _ => rfl⟩
  | born n hm =>
    refine ⟨⟨fun hr => absurd hr (unready (by simp [hm])), nofun⟩, nofun, fun _ => ?_, nofun, nofun,
      nofun, nofun, nofun⟩
    exact hf.unmanned (by rw [hm]; rfl)
  | told success hm =>
    refine ⟨hf.ready, fun hm' => ?_, hf.unmanned, hf.pump, hf.pumpStopped, hf.failed, hf.workersOver,
      hf.ended⟩
    cases (Main.isManned_of_early hm).symm.trans hm'
  | manned hm hs hn =>
    refine ⟨⟨fun _ => rfl, fun _ => rfl⟩, fun _ => ⟨hs, ?_⟩, nofun, fun _ => ?_, nofun, nofun, nofun,
      nofun⟩
    · simpa using Nat.pos_iff_ne_zero.1 hn
    · exact hf.pump (by simp [hm])
  | gaveUp hm =>
    refine ⟨⟨fun hr => absurd hr (unready (by simp [hm])), nofun⟩, nofun, fun _ => ?_, fun _ => ?_,
      fun _ _ => rfl, fun f hr => ?_, nofun, nofun⟩
    · exact hf.unmanned (by rw [hm]; rfl)
    · exact hf.pump (by simp [hm])
    · cases hr
      rfl
  | dismissed hm =>
    refine ⟨⟨nofun, nofun⟩, fun _ => ?_, nofun, fun _ => ?_, nofun, nofun, nofun, nofun⟩
    · exact hf.manned (by rw [hm]; rfl)
    · exact hf.pump (by simp [hm])
  | joined hm ho =>
    refine ⟨⟨fun hr => absurd hr (unready (by simp [hm])), nofun⟩, fun _ => ?_, nofun, fun _ => ?_,
      fun _ _ => rfl, nofun, fun _ => ho, nofun⟩
    · exact hf.manned (by rw [hm]; rfl)
    · exact hf.pump (by simp [hm])
  | @finished result hm hp =>
    have hv : h.main.verdict? = some result := by
      rw [hm]
      rfl
    refine ⟨⟨fun hr => absurd hr (unready (by simp [hm])), nofun⟩, fun hm' => ?_, fun hm' => ?_,
      fun _ => hp ▸ nofun, fun r _ => hf.pumpStopped result hv, fun f hr => ?_, fun hr => ?_,
      fun _ _ => hp⟩
    · exact hf.manned (by rw [hm, ← Main.isManned_finished]; exact hm')
    · exact hf.unmanned (by rw [hm, ← Main.isManned_finished]; exact hm')
    · exact hf.failed f (hv.trans hr)
    · exact hf.workersOver (hv.trans hr)

/-- Once there are workers, that stays so. -/
lemma Step.manned_of_manned (hs : h.Step h') (hm : h.main.isManned = true) :
    h'.main.isManned = true := by
  cases hs with
  | born n hu => rw [hu] at hm; cases hm
  | manned hu => rfl
  | gaveUp hu => rw [hu] at hm; cases hm
  | dismissed hu => rfl
  | joined hu => rfl
  | finished hu =>
    rw [hu] at hm
    exact (Main.isManned_finished _).trans hm
  | _ => exact hm

/-- The workers come all together, to wait at the queue. -/
lemma Step.manned_cases (hs : h.Step h') (hm : h.main.isManned = false)
    (hm' : h'.main.isManned = true) : ∃ n, 0 < n ∧ h'.workers = List.replicate n .waiting := by
  have before {m : Main} (hu : h.main = m) (ht : m.isManned = true) : False := by
    rw [hu, ht] at hm
    cases hm
  cases hs with
  | @manned n m hu hsync hn => exact ⟨n, hn, rfl⟩
  | born n hu => cases hm'
  | gaveUp hu => cases hm'
  | dismissed hu => exact (before hu rfl).elim
  | joined hu => exact (before hu rfl).elim
  | finished hu => exact (before hu ((Main.isManned_finished _).symm.trans hm')).elim
  | _ => cases hm.symm.trans hm'

/-- What is settled stays settled. -/
lemma Step.verdict? (hs : h.Step h') {r : Except Failure Unit} (hr : h.main.verdict? = some r) :
    h'.main.verdict? = some r := by
  cases hs with
  | born n hu => rw [hu] at hr; cases hr
  | manned hu => rw [hu] at hr; cases hr
  | gaveUp hu => rw [hu] at hr; cases hr
  | dismissed hu => rw [hu] at hr; cases hr
  | joined hu => rw [hu] at hr; cases hr
  | finished hu => rw [hu] at hr; exact hr
  | _ => exact hr

lemma Step.finished_of_finished (hs : h.Step h') {r : Except Failure Unit}
    (hr : h.main = .finished r) : h'.main = .finished r := by
  cases hs with
  | born n hu => cases hr.symm.trans hu
  | manned hu => cases hr.symm.trans hu
  | gaveUp hu => cases hr.symm.trans hu
  | dismissed hu => cases hr.symm.trans hu
  | joined hu => cases hr.symm.trans hu
  | finished hu => cases hr.symm.trans hu
  | _ => exact hr

end Helm

namespace Controller

variable {ρ : Type} (c : Controller ρ)

def helm : Helm where
  main := c.main
  ready := c.ready
  synced := c.synced
  stopped := c.stopped
  workers := c.workers
  pump := c.pump
  pumpStopped := c.pumpStopped

/-! ### Every step is one of those listed -/

variable {c} in
/-- A step elsewhere. -/
lemma helm_aside {c' : Controller ρ} (h : c'.helm = c.helm) : Helm.Step c.helm c'.helm := by
  rw [h]
  exact .aside

lemma helm_take (n : Notification) : (c.take n).2.helm = c.helm := by
  obtain ⟨work, metrics, h⟩ := c.frame_take n
  rw [h]
  rfl

lemma helm_clean (h : Handling) : (c.clean h).2.helm = c.helm := by
  obtain ⟨world, h⟩ := c.frame_clean h
  rw [h]
  rfl

lemma helm_completeCleanup (h : Handling) : (c.completeCleanup h).2.helm = c.helm := by
  obtain ⟨world, metrics, h⟩ := c.frame_completeCleanup h
  rw [h]
  rfl

variable {c} in
lemma helm_ofPump {r : Handling × Controller ρ} {x : Handling} (hp : c.pump = .at x)
    (h : r.2.helm = c.helm) : Helm.Step c.helm (ofPump r).helm := by
  have he : (ofPump r).helm = { c.helm with pump := .at r.1 } := by
    rw [← h]
    rfl
  rw [he]
  exact .pumped hp

lemma helm_pump : Helm.Step c.helm c.pumpStep.helm := by
  unfold pumpStep
  split
  · rename_i hp
    split
    · exact .pumpEnded hp
    · split
      · exact helm_ofPump hp (helm_take { c with inbox := _ } _)
      · split
        · exact .pumpEnded hp
        · exact .aside
  · rename_i x _ hp
    exact helm_ofPump hp (c.helm_clean x)
  · exact .aside
  · exact .aside

variable {c} in
lemma isOver_worker (h : c.workers.all Worker.isOver = true) (i : Nat) :
    (c.worker i).isOver = true := by
  rw [worker, List.getD_eq_getElem?_getD]
  cases hi : c.workers[i]? with
  | none => rfl
  | some w => exact List.all_eq_true.1 h w (List.mem_of_getElem? hi)

/-- A worker that is over does nothing any more. -/
lemma workerStep_over [Quantity ρ] {i : Nat} (hi : (c.worker i).isOver = true) (reading : Nat) :
    c.workerStep i reading = c := by
  unfold workerStep
  cases hw : c.worker i with
  | ended | dead key => rfl
  | _ => simp [hw, Worker.isOver] at hi

lemma completeWorker_over {i : Nat} (hi : (c.worker i).isOver = true) : c.completeWorker i = c := by
  unfold completeWorker
  cases hw : c.worker i with
  | running key r b l => simp [hw, Worker.isOver] at hi
  | _ => rfl

variable {c} in
lemma helm_workers {c' : Controller ρ} {i : Nat} (h : c'.helm = { c.helm with workers := c'.workers })
    (hw : c'.workers = c.workers ∨ ∃ w, c'.workers = c.workers.set i w)
    (ho : (c.worker i).isOver = true → c' = c) : Helm.Step c.helm c'.helm := by
  rw [h]
  refine .worked _ ?_ fun hover => ?_
  · rcases hw with hw | ⟨w, hw⟩
    · exact congrArg List.length hw
    · rw [hw]
      exact List.length_set
  · rw [ho (isOver_worker hover i)]
    rfl

lemma helm_worker [Quantity ρ] (i reading : Nat) :
    Helm.Step c.helm (c.workerStep i reading).helm := by
  refine helm_workers ?_ (c.workers_workerStep i reading) fun hi => c.workerStep_over hi reading
  obtain ⟨work, world, metrics, workers, h⟩ := c.frame_worker i reading
  rw [h]
  rfl

lemma helm_completeWorker (i : Nat) : Helm.Step c.helm (c.completeWorker i).helm := by
  refine helm_workers ?_ (c.workers_completeWorker i) fun hi => c.completeWorker_over hi
  obtain ⟨world, workers, h⟩ := c.frame_completeWorker i
  rw [h]
  rfl

lemma helm_complete (e : Executor) : Helm.Step c.helm (c.complete e).helm := by
  cases e with
  | worker i => exact c.helm_completeWorker i
  | pump =>
    simp only [complete]
    split
    · rename_i hp
      exact helm_ofPump hp (c.helm_completeCleanup _)
    · exact .aside
    · exact .aside
  | caller => exact helm_aside (c.helm_completeCleanup c.caller)

lemma helm_main (stopFirst : Bool) : Helm.Step c.helm (c.mainStep stopFirst).helm := by
  unfold mainStep
  split
  · rename_i n hm
    split_ifs
    · exact .gaveUp hm
    · split
      · rename_i hs
        exact .manned hm hs (Nat.lt_of_lt_of_le Nat.zero_lt_one (Nat.le_max_right _ _))
      · exact .gaveUp hm
      · exact .aside
  · rename_i hm
    split_ifs
    · exact .dismissed hm
    · exact .aside
  · rename_i hm
    split_ifs with ho
    · exact .joined hm ho
    · exact .aside
  · rename_i result hm
    split
    · rename_i hp
      exact .finished hm hp
    · exact .aside
  · exact .aside
  · exact .aside

theorem step_helm [Quantity ρ] (a : Action) : Helm.Step c.helm (c.step a).helm := by
  by_cases hin : a.isInput = true
  · obtain ⟨work, metrics, caller, inbox, inboxClosed, hs⟩ := c.frame_input hin
    rw [hs]
    exact .aside
  cases a with
  | enqueue r | addKey key | call n | send n | closeInbox | clock moment => exact absurd rfl hin
  | put r | remove k | breakStatements faults | breakWrites fault => exact .aside
  | start n =>
    simp only [step, start]
    split
    · rename_i hm
      exact .born n hm
    · exact .aside
  | sync success =>
    simp only [step, sync]
    split
    · rename_i hm
      exact .told success (congrArg Main.phase hm)
    · rename_i hm
      exact .told success (congrArg Main.phase hm)
    · exact .aside
  | stop => exact .stopped
  | worker i reading => exact c.helm_worker i reading
  | pump => exact c.helm_pump
  | caller => exact helm_aside (c.helm_clean c.caller)
  | main stopFirst => exact c.helm_main stopFirst
  | complete e => exact c.helm_complete e

/-! ### Runs -/

lemma fit_opening (policy : Policy) (limiter : Limiter ρ String) (world : World) :
    (opening policy limiter world).helm.Fit :=
  ⟨⟨nofun, nofun⟩, nofun, fun _ => rfl, fun hm => absurd rfl hm, nofun, nofun, nofun, nofun⟩

variable {c} [Quantity ρ]

/-- In every run the flags fit how far the main task has come. -/
theorem fit_run (h : c.helm.Fit) (as : List Action) : (c.run as).helm.Fit := by
  induction as generalizing c with
  | nil => exact h
  | cons a as ih => exact ih (h.step (c.step_helm a))

lemma run_manned (hm : c.main.isManned = true) (as : List Action) :
    (c.run as).main.isManned = true := by
  induction as generalizing c with
  | nil => exact hm
  | cons a as ih => exact ih ((c.step_helm a).manned_of_manned hm)

lemma run_verdict? {r : Except Failure Unit} (hr : c.main.verdict? = some r) (as : List Action) :
    (c.run as).main.verdict? = some r := by
  induction as generalizing c with
  | nil => exact hr
  | cons a as ih => exact ih ((c.step_helm a).verdict? hr)

lemma run_finished {r : Except Failure Unit} (hr : c.main = .finished r) (as : List Action) :
    (c.run as).main = .finished r := by
  induction as generalizing c with
  | nil => exact hr
  | cons a as ih => exact ih ((c.step_helm a).finished_of_finished hr)

omit [Quantity ρ] in
lemma result?_eq_some {r : Except Failure Unit} : c.result? = some r ↔ c.main = .finished r := by
  unfold result?
  split
  · rename_i r' hm
    simp [hm]
  · rename_i hm
    exact ⟨nofun, fun h => absurd h (hm r)⟩

end Controller

end Provisioner
