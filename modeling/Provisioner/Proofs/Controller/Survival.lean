import Provisioner.CommandLine.Settings
import Provisioner.Proofs.Controller.Exclusion
import Provisioner.Proofs.Controller.Failures
import Provisioner.Proofs.Limiter.Standard

/-!
Workers that do not come through a failure.

The limiter is asked for a delay when an attempt has failed, by the worker that has the key. If there is
one, the worker gives the key back with its next step. If there is none, the worker breaks down with the
key in its hands: nobody gives it back, and nobody gets it again.
-/

namespace Provisioner

open Limiter (readings)

def Entry.isFailed : Entry → Bool
  | .failed .. => true
  | _ => false

/-- How many attempts have failed, whatever their keys are. -/
def failed (es : List Entry) : Nat := es.countP (·.isFailed)

lemma failed_concat (es : List Entry) (e : Option Entry) :
    failed (es ++ e.toList) = failed es + failed e.toList := List.countP_append

lemma Worker.eq_releasing_of_duty {w : Worker} {key : String} (h : w.duty = .releasing key) :
    w = .releasing key := by
  cases w <;> simp [duty] at h
  rw [h]

lemma Worker.eq_dead_of_duty {w : Worker} {key : String} (h : w.duty = .dead key) :
    w = .dead key := by
  cases w <;> simp [duty] at h
  rw [h]

namespace Docket

variable {ρ : Type} [Quantity ρ] {d d' : Docket ρ} {e : Option Entry} {i : Nat} {key : String}

/-- Each failure asks the limiter for one delay, and nothing else does. -/
lemma Step.limiter_run {l : Limiter ρ String} {es : List Entry} (hs : d.Step e d')
    (h : ∃ calls, d.limiter = l.run calls ∧ (readings calls).length = failed es) :
    ∃ calls, d'.limiter = l.run calls ∧ (readings calls).length = failed (es ++ e.toList) := by
  obtain ⟨calls, hrun, hcount⟩ := h
  rw [failed_concat, ← hcount]
  have asked (x : String) (reading : Nat) :
      ∃ calls', (d.limiter.next x reading).2 = l.run calls' ∧
        (readings calls').length = (readings calls).length + 1 := by
    refine ⟨calls ++ [.next x reading], ?_, ?_⟩
    · rw [l.run_concat, ← hrun]
      rfl
    · simp [readings, Limiter.Call.reading?]
  have told (x : String) : ∃ calls', d.limiter.forget x = l.run calls' ∧
      (readings calls').length = (readings calls).length := by
    refine ⟨calls ++ [.forget x], ?_, ?_⟩
    · rw [l.run_concat, ← hrun]
      rfl
    · simp [readings, Limiter.Call.reading?]
  cases hs with
  | died i reading | retries i reading | putOff i reading => exact asked _ reading
  | dropped | succeeded => exact told _
  | _ => exact ⟨calls, hrun, rfl⟩

/-- A worker that is done with an attempt does nothing but give its key back. -/
lemma Step.done {w : Duty} (hs : d.Step e d') (h : d.duty i = w) (hfree : w ≠ .free)
    (hw : w.task? = none) :
    d'.duty i = w ∨ ∃ key, w = .releasing key ∧ e = some (.gave i key) := by
  have kept {j : Nat} {u u' : Duty} (hj : d.duty j = u) (hu : u ≠ w) :
      Function.update d.duty j u' i = w := by
    rw [Function.update_of_ne, h]
    rintro rfl
    exact hu (hj.symm.trans h)
  have busy {x : String} (u : Duty) (hu : u.task? = some x) : u ≠ w := by
    rintro rfl
    cases hw.symm.trans hu
  cases hs with
  | took j hj => exact .inl (kept hj hfree.symm)
  | dropped j hj | began j hj => exact .inl (kept hj (busy (.handed _) rfl))
  | succeeded j hj | died j _ hj | retries j _ hj | putOff j _ hj =>
    exact .inl (kept hj (busy (.busy _) rfl))
  | @released j x hj =>
    by_cases hij : i = j
    · subst hij
      exact .inr ⟨x, h.symm.trans hj, rfl⟩
    · exact .inl ((Function.update_of_ne hij ..).trans h)
  | _ => exact .inl h

/-- What a worker has that has broken down, nobody gives back, and nobody gets. -/
lemma Step.dead (hs : d.Step e d') (hd : d.Custody) (h : d.duty i = .dead key) :
    d'.duty i = .dead key ∧ ∀ j, e ≠ some (.took j key) ∧ e ≠ some (.gave j key) := by
  have hkey : (d.duty i).key? = some key := by rw [h]; rfl
  refine ⟨(hs.done h nofun rfl).resolve_right ?_, fun j => ⟨?_, ?_⟩⟩
  · rintro ⟨_, hw, -⟩
    cases hw
  · rintro rfl
    obtain ⟨q, hq⟩ := hs.take_of_took
    obtain ⟨xs, hline, -⟩ := Queue.take_eq_some hq
    exact ((hd.tidy.mem_line key).1 (by simp [hline])).2 (hd.active i key hkey)
  · rintro rfl
    cases hs with
    | released j hj =>
      obtain rfl := hd.alone i j key hkey (by rw [hj]; rfl)
      cases h.symm.trans hj

end Docket

namespace Controller

variable {ρ : Type} [Quantity ρ] {c : Controller ρ} {i : Nat} {key : String}

/-! ### After a failure -/

/-- Whatever comes first, when the worker goes on it gives the key back, unless it has done so. -/
def Releases (c : Controller ρ) (i : Nat) (key : String) : Prop :=
  ∀ later reading, .gave i key ∈ c.entries (later ++ [.worker i reading])

/-- Whatever follows, the worker has broken down and the key stays in its hands. -/
def Loses (c : Controller ρ) (i : Nat) (key : String) : Prop :=
  ∀ later, (c.run later).worker i = .dead key ∧ key ∈ (c.run later).work.queue.active ∧
    ∀ j, .took j key ∉ c.entries later ∧ .gave j key ∉ c.entries later

lemma releases_of_releasing (hc : c.desk.Custody) (h : c.worker i = .releasing key) :
    c.Releases i key := by
  intro later reading
  have hrun := run_docket (P := fun es d => .gave i key ∈ es ∨ d.duty i = .releasing key) hc
    (.inr (congrArg Worker.duty h)) ?_ later
  · rw [entries_concat]
    rcases hrun with hgave | hduty
    · exact List.mem_append_left _ hgave
    · refine List.mem_append_right _ ?_
      simp [noted?, Worker.eq_releasing_of_duty hduty]
  · intro es d e d' _ ih hs
    rcases ih with hgave | hduty
    · exact .inl (List.mem_append_left _ hgave)
    · rcases hs.done hduty (by simp) rfl with hduty' | ⟨_, hkey, rfl⟩
      · exact .inr hduty'
      · cases hkey
        exact .inl (by simp)

lemma loses_of_dead (hc : c.desk.Custody) (h : c.worker i = .dead key) : c.Loses i key := by
  intro later
  have hrun := run_docket (P := fun es d => d.duty i = .dead key ∧
    ∀ j, .took j key ∉ es ∧ .gave j key ∉ es) hc ⟨congrArg Worker.duty h, fun j => ⟨nofun, nofun⟩⟩
    ?_ later
  · obtain ⟨hduty, hes⟩ := hrun
    have hdead := Worker.eq_dead_of_duty hduty
    have hkey : ((c.run later).worker i).key? = some key := by rw [hdead]; rfl
    exact ⟨hdead, (custody_run hc later).active i key hkey, hes⟩
  · intro es d e d' hd ⟨hduty, hes⟩ hs
    obtain ⟨hduty', he⟩ := hs.dead hd hduty
    refine ⟨hduty', fun j => ⟨fun hx => ?_, fun hx => ?_⟩⟩
    · rcases List.mem_append.1 hx with hx | hx
      · exact (hes j).1 hx
      · exact (he j).1 (by simpa using hx)
    · rcases List.mem_append.1 hx with hx | hx
      · exact (hes j).2 hx
      · exact (he j).2 (by simpa using hx)

/-- It is the limiter that decides. -/
lemma worker_step_failed {f : Failure} (hi : c.worker i = .reconciling key (.finished (.error f)))
    (reading : Nat) : (c.step (.worker i reading)).worker i =
      if (c.work.limiter.next key reading).1.isSome then .releasing key else .dead key := by
  have hne : c.worker i ≠ .ended := by simp [hi]
  have hdelay := (c.work.limiter_addRateLimited key reading).1
  simp only [step, workerStep, hi, perform, conclude]
  rw [← hdelay]
  generalize c.work.addRateLimited key reading = delayed
  obtain ⟨_ | d, work⟩ := delayed
  · exact setWorker_self hne _
  · exact setWorker_self hne _

/-- The calls of the limiter in a run are for the failures. -/
lemma run_calls (hc : c.desk.Custody) (as : List Action) :
    ∃ calls, (c.run as).work.limiter = c.work.limiter.run calls ∧
      (readings calls).length = failed (c.entries as) :=
  run_docket (P := fun es d => ∃ calls, d.limiter = c.work.limiter.run calls ∧
    (readings calls).length = failed es) hc ⟨[], rfl, rfl⟩ (fun _ _ _ _ _ ih hs => hs.limiter_run ih) as

/-! ### Failing again and again -/

/-- A resource for which every attempt fails. -/
def spoiledOrders : Resource := { World.orders with spec := ⟨"", "secret", "orders"⟩ }

/-- The attempts do not show up in what is stored. -/
def spoiledWorld : World where
  objects := ({} : Table Key Resource).insert ⟨"shop", "orders"⟩ spoiledOrders

/-- After `m` failures at the same reading, the first worker is `w`. -/
structure Fares (c₀ : Controller ρ) (t : Nat) (as : List Action) (m : Nat) (w : Worker)
    (q : Queue String) : Prop where
  calls : ∃ calls, (c₀.run as).work.limiter = c₀.work.limiter.run calls ∧
    readings calls = List.replicate m t
  failed : failed (c₀.entries as) = m
  worker : (c₀.run as).worker 0 = w
  queue : (c₀.run as).work.queue = q
  objects : (c₀.run as).world.objects = spoiledWorld.objects
  writes : (c₀.run as).world.writeFault = none ∧ (c₀.run as).world.storesWrites = false

variable {c₀ : Controller ρ} {t m : Nat} {as : List Action} {w w' : Worker} {q q' : Queue String}

lemma Fares.of_step {a : Action} {k : Nat} {work : WorkQueue ρ String Nat} {journal : Journal}
    {metrics : Metrics} {workers : List Worker} (h : Fares c₀ t as m w q)
    (ha : (c₀.run as).step a = { c₀.run as with
      work, metrics, workers, world := { (c₀.run as).world with journal } })
    (hw : ((c₀.run as).step a).worker 0 = w') (hq : work.queue = q')
    (hl : ∃ calls, work.limiter = (c₀.run as).work.limiter.run calls ∧
      readings calls = List.replicate k t)
    (he : Provisioner.failed ((c₀.run as).noted? a).toList = k) :
    Fares c₀ t (as ++ [a]) (m + k) w' q' := by
  have hrun : c₀.run (as ++ [a]) = (c₀.run as).step a := run_append as [a]
  obtain ⟨calls, hlimiter, hreadings⟩ := h.calls
  obtain ⟨more, hmore, hreadings'⟩ := hl
  refine ⟨⟨calls ++ more, ?_, ?_⟩, ?_, hrun ▸ hw, ?_, ?_, ?_⟩
  · rw [hrun, ha, hmore, hlimiter, Limiter.run_append]
  · rw [readings, List.filterMap_append, ← readings, ← readings, hreadings, hreadings',
      List.replicate_append_replicate]
  · rw [entries_concat, failed_concat, h.failed, he]
  · rw [hrun, ha]
    exact hq
  · rw [hrun, ha]
    exact h.objects
  · rw [hrun, ha]
    exact h.writes

/-- The worker goes on. -/
lemma Fares.works {k : Nat} {work : WorkQueue ρ String Nat} {journal : Journal} {metrics : Metrics}
    (h : Fares c₀ t as m w q) (hne : w ≠ .ended)
    (ha : (c₀.run as).step (.worker 0 t) = ({ c₀.run as with
      work, metrics, world := { (c₀.run as).world with journal } } : Controller ρ).setWorker 0 w')
    (hq : work.queue = q')
    (hl : ∃ calls, work.limiter = (c₀.run as).work.limiter.run calls ∧
      readings calls = List.replicate k t)
    (he : Provisioner.failed ((c₀.run as).noted? (.worker 0 t)).toList = k) :
    Fares c₀ t (as ++ [.worker 0 t]) (m + k) w' q' := by
  refine h.of_step ha ?_ hq hl he
  rw [ha]
  exact setWorker_self (i := 0) (h.worker ▸ hne) w'

lemma Fares.handed (h : Fares c₀ t as m .idle
      { line := ["shop/orders"], dirty := ["shop/orders"] }) :
    Fares c₀ t (as ++ [.worker 0 t]) m (.handed "shop/orders") { active := ["shop/orders"] } := by
  have hstep : (c₀.run as).step (.worker 0 t) = (c₀.run as).fetch 0 := by
    simp [Controller.step, workerStep, h.worker]
  have hlook := (c₀.run as).work.look_get 0
  have hlimiter : ((c₀.run as).work.get 0).2.limiter = (c₀.run as).work.limiter := rfl
  rw [h.queue] at hlook
  unfold fetch at hstep
  generalize (c₀.run as).work.get 0 = g at hstep hlook hlimiter
  obtain ⟨f, work⟩ := g
  simp only at hstep hlook hlimiter
  generalize hq : work.queue = q' at hlook
  -- the line is not empty, so the worker comes away with its only key
  cases hlook with
  | closed hl | nothing hl => cases hl
  | item htake =>
    obtain ⟨hkey, hrest⟩ := Prod.ext_iff.1 htake
    obtain rfl := Option.some.inj hkey
    refine h.works (k := 0) (by simp) hstep (hq.trans hrest.symm) ⟨[], hlimiter, rfl⟩ ?_
    simp [noted?, h.worker, taken?, h.queue, Provisioner.failed, Entry.isFailed]

/-- What is wrong with the resource. -/
def spoiledMessage : String := "; ".intercalate spoiledOrders.spec.faults

def spoiledFailure : Failure := .invalidSpec spoiledMessage

def spoiledVerdict : Verdict := ⟨⟨.error, spoiledMessage⟩, .error spoiledFailure⟩

lemma Fares.lookedUp (h : Fares c₀ t as m (.handed "shop/orders") q) :
    Fares c₀ t (as ++ [.worker 0 t]) m
      (.reconciling "shop/orders" (.write spoiledOrders spoiledVerdict)) q := by
  have hparse : Key.parse "shop/orders" = .ok ⟨"shop", "orders"⟩ := by decide
  have hlookup : (c₀.run as).world.lookup ⟨"shop", "orders"⟩ = some spoiledOrders := by
    rw [World.lookup, h.objects]
    decide
  have hvalidate : spoiledOrders.spec.validate = .error spoiledMessage := by decide
  have hprogress : spoiledOrders.progress = .unprovisioned := rfl
  have hstage : Stage.start (c₀.run as).policy (some spoiledOrders) =
      .write spoiledOrders spoiledVerdict := by
    simp only [Stage.start, hprogress, Stage.provision, hvalidate, spoiledVerdict, spoiledFailure]
  have hstep : (c₀.run as).step (.worker 0 t) = { c₀.run as with
      metrics := { (c₀.run as).metrics with
        reconciliations := (c₀.run as).metrics.reconciliations + 1 } }.setWorker 0
      (.reconciling "shop/orders" (.write spoiledOrders spoiledVerdict)) := by
    simp only [Controller.step, workerStep, h.worker, lookUp, hparse, hlookup, hstage]
  refine h.works (k := 0) (by simp) hstep h.queue ⟨[], rfl, rfl⟩ ?_
  simp [noted?, h.worker, hparse, Provisioner.failed]

lemma Fares.wrote (h : Fares c₀ t as m
      (.reconciling "shop/orders" (.write spoiledOrders spoiledVerdict)) q) :
    Fares c₀ t (as ++ [.worker 0 t]) m
      (.reconciling "shop/orders" (.publish spoiledOrders (.error spoiledFailure))) q := by
  have hstep : (c₀.run as).step (.worker 0 t) = { c₀.run as with
      world := { (c₀.run as).world with journal := { (c₀.run as).world.journal with
        updates := (c₀.run as).world.journal.updates ++
          [spoiledOrders.withStatus spoiledVerdict.status] } } }.setWorker 0
      (.reconciling "shop/orders" (.publish spoiledOrders (.error spoiledFailure))) := by
    simp only [Controller.step, workerStep, h.worker, perform, World.write, h.writes]
    rfl
  refine h.works (k := 0) (by simp) hstep h.queue ⟨[], rfl, rfl⟩ ?_
  simp [noted?, h.worker, Provisioner.failed]

lemma Fares.published (h : Fares c₀ t as m
      (.reconciling "shop/orders" (.publish spoiledOrders (.error spoiledFailure))) q) :
    Fares c₀ t (as ++ [.worker 0 t]) m
      (.reconciling "shop/orders" (.finished (.error spoiledFailure))) q := by
  have hstep : (c₀.run as).step (.worker 0 t) = { c₀.run as with
      world := (c₀.run as).world.publish spoiledOrders (.failed spoiledFailure) }.setWorker 0
      (.reconciling "shop/orders" (.finished (.error spoiledFailure))) := by
    simp only [Controller.step, workerStep, h.worker, perform]
    rfl
  refine h.works (k := 0) (by simp) hstep h.queue ⟨[], rfl, rfl⟩ ?_
  simp [noted?, h.worker, Provisioner.failed]

/-- With a delay the worker goes on, whether the key is added at once or put off. -/
lemma Fares.delayed {f : Failure} {d : Delay} (h : Fares c₀ t as m
      (.reconciling "shop/orders" (.finished (.error f))) { active := ["shop/orders"] })
    (hd : ((c₀.run as).work.limiter.next "shop/orders" t).1 = some d) :
    ∃ q, (q = { active := ["shop/orders"] } ∨
        q = { dirty := ["shop/orders"], active := ["shop/orders"] }) ∧
      Fares c₀ t (as ++ [.worker 0 t]) (m + 1) (.releasing "shop/orders") q := by
  obtain ⟨hanswer, hlimiter, -⟩ := (c₀.run as).work.limiter_addRateLimited "shop/orders" t
  have hqueue := (c₀.run as).work.queue_addRateLimited "shop/orders" t
  rw [h.queue] at hqueue
  have hstep : (c₀.run as).step (.worker 0 t) =
      ({ c₀.run as with
        work := ((c₀.run as).work.addRateLimited "shop/orders" t).2
        metrics := { (c₀.run as).metrics with
          errors := (c₀.run as).metrics.errors + 1
          durations := (c₀.run as).metrics.durations + 1 } }).setWorker 0
        (.releasing "shop/orders") := by
    rw [hd] at hanswer
    simp only [Controller.step, workerStep, h.worker, perform, conclude]
    generalize (c₀.run as).work.addRateLimited "shop/orders" t = r at hanswer
    obtain ⟨_, work⟩ := r
    obtain rfl := hanswer
    rfl
  refine ⟨_, hqueue, h.works (by simp) hstep rfl ⟨[.next "shop/orders" t], hlimiter, rfl⟩ ?_⟩
  simp [noted?, h.worker, Provisioner.failed, Entry.isFailed]

lemma Fares.released (h : Fares c₀ t as m (.releasing "shop/orders") q)
    (hq : q = { active := ["shop/orders"] } ∨
      q = { dirty := ["shop/orders"], active := ["shop/orders"] }) :
    ∃ q', (q' = {} ∨ q' = { line := ["shop/orders"], dirty := ["shop/orders"] }) ∧
      Fares c₀ t (as ++ [.worker 0 t]) m .idle q' := by
  have hstep : (c₀.run as).step (.worker 0 t) = ({ c₀.run as with
      work := (c₀.run as).work.finish "shop/orders" }).setWorker 0 .idle := by
    simp only [Controller.step, workerStep, h.worker]
  refine ⟨_, ?_, h.works (k := 0) (by simp) hstep rfl ⟨[], rfl, rfl⟩ ?_⟩
  · rw [WorkQueue.queue_finish, h.queue]
    rcases hq with rfl | rfl
    · exact .inl rfl
    · exact .inr rfl
  · simp [noted?, h.worker, Provisioner.failed, Entry.isFailed]

/-- Someone adds the key, whether or not it is to be retried at once. -/
lemma Fares.queued (h : Fares c₀ t as m .idle q)
    (hq : q = {} ∨ q = { line := ["shop/orders"], dirty := ["shop/orders"] }) :
    Fares c₀ t (as ++ [.addKey "shop/orders"]) m .idle
      { line := ["shop/orders"], dirty := ["shop/orders"] } := by
  have hqueue : ((c₀.run as).work.add "shop/orders").queue =
      { line := ["shop/orders"], dirty := ["shop/orders"] } := by
    rw [WorkQueue.queue_add, h.queue]
    rcases hq with rfl | rfl <;> rfl
  have hstep : (c₀.run as).step (.addKey "shop/orders") =
      { c₀.run as with work := (c₀.run as).work.add "shop/orders" } := rfl
  exact h.of_step (k := 0) hstep h.worker hqueue ⟨[], rfl, rfl⟩ rfl

/-- One attempt, from the moment when the worker has got the key. -/
lemma Fares.attempt (h : Fares c₀ t as m (.handed "shop/orders") q) :
    ∃ as', Fares c₀ t as' m (.reconciling "shop/orders" (.finished (.error spoiledFailure))) q :=
  ⟨_, h.lookedUp.wrote.published⟩

/-- From one attempt to the next. -/
lemma Fares.again {f : Failure} {d : Delay} (h : Fares c₀ t as m
      (.reconciling "shop/orders" (.finished (.error f))) { active := ["shop/orders"] })
    (hd : ((c₀.run as).work.limiter.next "shop/orders" t).1 = some d) :
    ∃ as', Fares c₀ t as' (m + 1) (.handed "shop/orders") { active := ["shop/orders"] } := by
  obtain ⟨q, hq, hdelayed⟩ := h.delayed hd
  obtain ⟨q', hq', hreleased⟩ := hdelayed.released hq
  exact ⟨_, (hreleased.queued hq').handed⟩

lemma fares_opening (policy : Policy) (limiter : Limiter ρ String) (t : Nat) :
    Fares (opening policy limiter spoiledWorld) t
      [.start 1, .sync true, .main false, .addKey "shop/orders", .worker 0 t] 0
      (.handed "shop/orders") { active := ["shop/orders"] } where
  calls := ⟨[], rfl, rfl⟩
  failed := rfl
  worker := rfl
  queue := rfl
  objects := rfl
  writes := ⟨rfl, rfl⟩

/-! ### How many failures a worker comes through -/

/-- In every run, a worker whose attempt has failed gives its key back, if at most `n` attempts have
failed before that one. -/
def Survives (limiter : Limiter ρ String) (n : Nat) : Prop :=
  ∀ policy world as i key f reading, let c := opening policy limiter world
    failed (c.entries as) ≤ n → (c.run as).worker i = .reconciling key (.finished (.error f)) →
      ((c.run as).step (.worker i reading)).Releases i key

/-- Whoever gives a key back has got a delay for it. -/
lemma isSome_of_releases {f : Failure} {reading : Nat}
    (hi : c.worker i = .reconciling key (.finished (.error f)))
    (h : (c.step (.worker i reading)).Releases i key) :
    (c.work.limiter.next key reading).1.isSome := by
  have hworker := worker_step_failed hi reading
  by_contra hnone
  rw [if_neg hnone] at hworker
  have hgave := h [] reading
  simp [entries, noted?, hworker] at hgave

/-- A key that always fails is tried as often as the worker survives, and once more. -/
lemma Survives.fares {limiter : Limiter ρ String} {n : Nat} (h : Survives limiter n) (t : Nat) :
    ∀ m ≤ n, ∃ as, Fares (opening .hold limiter spoiledWorld) t as m
      (.reconciling "shop/orders" (.finished (.error spoiledFailure)))
      { active := ["shop/orders"] } := by
  intro m
  induction m with
  | zero => exact fun _ => (fares_opening .hold limiter t).attempt
  | succ m ih =>
    intro hm
    obtain ⟨as, hfares⟩ := ih (Nat.le_of_succ_le hm)
    -- without a delay for this failure the worker would not come to the next attempt
    have hreleases := h .hold spoiledWorld as 0 "shop/orders" _ t
      (hfares.failed.trans_le (Nat.le_of_succ_le hm)) hfares.worker
    obtain ⟨d, hd⟩ := Option.isSome_iff_exists.1 (isSome_of_releases hfares.worker hreleases)
    obtain ⟨as', hagain⟩ := hfares.again hd
    exact hagain.attempt

lemma sustains_iff_survives (base cap : Delay) (rate : Extended) (burst start n : Nat) :
    rate.Sustains burst n ↔ Survives (Limiter.standard base cap rate burst start) n := by
  constructor
  · intro h policy world as i key f reading c hn hi
    have hc : c.desk.Custody := custody_opening policy _ world
    obtain ⟨calls, hlimiter, hcount⟩ := run_calls hc as
    have hanswer : ((c.run as).work.limiter.next key reading).1.isSome := by
      rw [hlimiter]
      exact (Limiter.sustains_iff base cap rate burst start _).1 (h.mono (hcount.trans_le hn)) calls
        rfl key reading
    have hreleasing := worker_step_failed hi reading
    rw [if_pos hanswer] at hreleasing
    exact releases_of_releasing (custody_run (custody_run hc as) [.worker i reading]) hreleasing
  · intro h
    -- all failures come while the bucket's clock stands still, which is the worst for it
    obtain ⟨as, hfares⟩ := h.fares start n le_rfl
    obtain ⟨calls, hlimiter, hreadings⟩ := hfares.calls
    have hanswer := isSome_of_releases hfares.worker
      (h .hold spoiledWorld as 0 "shop/orders" _ start hfares.failed.le hfares.worker)
    rw [hlimiter] at hanswer
    have hbucket := (Limiter.isSome_next_standard base cap rate burst start calls _ _).1 hanswer
    rw [hreadings] at hbucket
    exact Bucket.sustains_of_still hbucket

/-- **Which failures a worker comes through**: as many as its limiter stands calls, for whatever keys
and at whatever times; there is no end to them unless the rate is a positive number, or is no number and
there is no burst. A worker that does not come through a failure keeps the key for good. -/
theorem run_survives (base cap : Delay) (rate : Extended) (burst start : Nat) :
    let limiter : Limiter Extended String := .standard base cap rate burst start
    (∀ n, rate.Sustains burst n ↔ ∀ calls : List (Limiter.Call String),
      (readings calls).length = n → ∀ x reading, ((limiter.run calls).next x reading).1.isSome) ∧
    (∀ n, rate.Sustains burst n ↔ Survives limiter n) ∧
    ((∀ n, Survives limiter n) ↔ rate.Endless burst) ∧
    ∀ policy world as i key f reading, let c := (opening policy limiter world).run as
      c.worker i = .reconciling key (.finished (.error f)) →
        if (c.work.limiter.next key reading).1.isSome then
          (c.step (.worker i reading)).Releases i key
        else (c.step (.worker i reading)).Loses i key := by
  intro limiter
  refine ⟨Limiter.sustains_iff base cap rate burst start,
    sustains_iff_survives base cap rate burst start, ?_, ?_⟩
  · simp only [limiter, ← sustains_iff_survives]
    exact rate.forall_sustains_iff burst
  · intro policy world as i key f reading c hi
    have hc : (c.step (.worker i reading)).desk.Custody :=
      custody_run (custody_run (custody_opening policy limiter world) as) [.worker i reading]
    have hworker := worker_step_failed hi reading
    split_ifs at hworker ⊢
    · exact releases_of_releasing hc hworker
    · exact loses_of_dead hc hworker

/-- With ten calls a second it takes more failures than there will be; with one in 10²⁰ seconds and
no burst none has to come first. -/
theorem run_survives_few :
    Survives (.standard (.ofMillis 5) (.ofSeconds 1000) (Extended.finite 10) 100 0) (10 ^ 20) ∧
    ¬ Survives (.standard (.ofMillis 5) (.ofSeconds 1000) (Extended.finite (1 / 10 ^ 20)) 0 0) 0 := by
  have hten : (Extended.finite 10).Sustains 100 (10 ^ 20) := .inr (by norm_num [UInt64.size])
  have hslow : ¬ (Extended.finite (1 / 10 ^ 20)).Sustains 0 0 := by
    rintro (h | h) <;> norm_num [UInt64.size] at h
  exact ⟨((run_survives _ _ _ _ 0).2.1 _).1 hten,
    fun h => hslow (((run_survives _ _ _ _ 0).2.1 _).2 h)⟩

/-- Such a rate on the command line. -/
def slowArguments : List String :=
  ["--postgres-url", "postgres://localhost", "--qps", "1e-20", "--burst", "0"]

set_option maxRecDepth 10000 in
/-- The command line takes it, and the first failure costs a worker. -/
theorem orders_lost :
    ∃ vs, CommandLine.read slowArguments [] = .ok vs ∧
      let c := opening .hold (vs.pace.limiter 0) (World.solo ⟨"shop", "orders"⟩ World.orders)
      failed (c.entries failingOrders) = 0 ∧
        (c.run (failingOrders ++ [.worker 0 0])).Loses 0 "shop/orders" := by
  obtain ⟨vs, hread, hfailed, hduty⟩ := CommandLine.exists_read slowArguments []
    (P := fun vs =>
    let c := opening .hold (vs.pace.limiter 0) (World.solo ⟨"shop", "orders"⟩ World.orders)
    failed (c.entries failingOrders) = 0 ∧
      ((c.run (failingOrders ++ [.worker 0 0])).worker 0).duty = .dead "shop/orders")
    (by decide +kernel)
  exact ⟨vs, hread, hfailed, loses_of_dead (custody_run (custody_opening ..) _)
    (Worker.eq_dead_of_duty hduty)⟩

end Controller

end Provisioner
