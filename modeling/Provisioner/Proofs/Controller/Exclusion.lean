import Provisioner.Proofs.Controller.DocketSteps
import Provisioner.Proofs.Resource.Key

/-!
No two workers reconcile the same resource at the same time.

The queue tells texts apart, and two texts may be read as the same key. But a key that comes from a
name and a scope without slashes is read back from its text, and texts come into the queue from
outside or have been there before.
-/

namespace Provisioner

/-- What the worker is reconciling. -/
def Worker.subject? : Worker → Option Key
  | .reconciling key _ | .running key .. => (Key.parse key).toOption
  | .idle | .waiting | .handed _ | .releasing _ | .ended | .dead _ => none

lemma Worker.busy_of_subject? {w : Worker} {k : Key} (h : w.subject? = some k) :
    ∃ key, w.key? = some key ∧ Key.parse key = .ok k := by
  cases w with
  | reconciling key _ | running key _ _ _ =>
    refine ⟨key, rfl, ?_⟩
    simp only [subject?] at h
    cases hp : Key.parse key with
    | ok k' =>
      rw [hp] at h
      exact congrArg Except.ok (Option.some.inj h)
    | error f =>
      rw [hp] at h
      cases h
  | _ => cases h

/-- The worker takes a key, or gives one back. -/
def Entry.isPass (i : Nat) : Entry → Bool
  | .took j _ | .gave j _ => j == i
  | _ => false

namespace Docket

variable {ρ : Type} [Quantity ρ] {d d' : Docket ρ} {e : Option Entry}

/-! ### Where keys come from -/

/-- All keys that there are, in the queue, on alarms or in someone's hands, have the property. -/
structure All (P : String → Prop) (d : Docket ρ) : Prop where
  dirty : ∀ x ∈ d.queue.dirty, P x
  alarms : ∀ a ∈ d.alarms, P a.2
  held : ∀ i x, (d.duty i).key? = some x → P x

variable {P : String → Prop}

omit [Quantity ρ] in
lemma All.add (h : d.All P) {x : String} (hx : P x) : All P { d with queue := d.queue.add x } where
  dirty y hy := by
    rcases Queue.mem_dirty_add.1 hy with hy | ⟨-, rfl⟩
    · exact h.dirty y hy
    · exact hx
  alarms := h.alarms
  held := h.held

omit [Quantity ρ] in
lemma All.assign (h : d.All P) {i : Nat} {w : Duty} (hw : ∀ x, w.key? = some x → P x) :
    (d.assign i w).All P where
  dirty := h.dirty
  alarms := h.alarms
  held := (Function.forall_update_iff d.duty fun _ w => ∀ x, w.key? = some x → P x).2
    ⟨hw, fun j _ => h.held j⟩

/-- Only what is queued from outside is new. -/
lemma All.step (h : d.All P) (ht : d.queue.Tidy) (hs : d.Step e d')
    (he : ∀ x, e = some (.queued x) → P x) : d'.All P := by
  have held {i : Nat} {x : String} {w : Duty} (hi : d.duty i = w) (hw : w.key? = some x) : P x :=
    h.held i x (by rw [hi, hw])
  have only {x y : String} (hx : P x) (hy : some x = some y) : P y := Option.some.inj hy ▸ hx
  have asked (l : Limiter ρ String) : All P { d with limiter := l } :=
    ⟨h.dirty, h.alarms, h.held⟩
  cases hs with
  | aside => exact h
  | queued x => exact h.add (he x rfl)
  | @rang moment due later _ hp =>
    refine ⟨fun x hx => ?_, fun a ha => h.alarms a ?_, h.held⟩
    · rcases Queue.mem_dirty_adds.1 hx with hx | ⟨-, hx⟩
      · exact h.dirty x hx
      · refine h.alarms (moment, x) (hp.mem_iff.2 (List.mem_append_left _ ?_))
        exact List.mem_map_of_mem hx
    · exact hp.mem_iff.2 (List.mem_append_right _ ha)
  | closed => exact ⟨h.dirty, h.alarms, h.held⟩
  | @took i x q hi hq =>
    have hx : P x := by
      obtain ⟨xs, hline, -⟩ := Queue.take_eq_some hq
      exact h.dirty x ((ht.mem_line x).1 (by simp [hline])).1
    have hd : All P { d with queue := q } :=
      ⟨fun y hy => h.dirty y ((Queue.mem_dirty_take hq).1 hy).1, h.alarms, h.held⟩
    exact hd.assign fun y hy => only hx hy
  | dropped i hi | succeeded i hi | died i _ hi =>
    exact (asked _).assign fun y hy => only (held hi rfl) hy
  | began i hi => exact h.assign fun y hy => only (held hi rfl) hy
  | @retries i reading x delay hi =>
    have hx : P x := held hi rfl
    exact ((asked (d.limiter.next x reading).2).add hx).assign fun y hy => only hx hy
  | @putOff i reading x delay hi =>
    have hd (l : Limiter ρ String) : All P { d with limiter := l, alarms := d.alarms ++
        [(d.now + d.sleep d.now delay, x)] } := by
      refine ⟨h.dirty, fun a ha => ?_, h.held⟩
      rcases List.mem_append.1 ha with ha | ha
      · exact h.alarms a ha
      · obtain rfl := List.mem_singleton.1 ha
        exact held hi rfl
    refine (hd _).assign ?_
    exact fun y hy => only (held hi rfl) hy
  | @released i x hi =>
    have hd : All P { d with queue := d.queue.finish x } := ⟨h.dirty, h.alarms, h.held⟩
    exact hd.assign nofun

/-! ### Who takes and who gives back -/

/-- A worker takes a key with empty hands, and gives back the one that it has; nothing else changes
what it has. -/
lemma Step.pass_cases (hs : d.Step e d') (i : Nat) :
    (∃ x, e = some (.took i x) ∧ (d.duty i).key? = none ∧ (d'.duty i).key? = some x) ∨
    (∃ x, e = some (.gave i x) ∧ (d.duty i).key? = some x ∧ (d'.duty i).key? = none) ∨
    (e.all (!·.isPass i) ∧ (d'.duty i).key? = (d.duty i).key?) := by
  have goes_on {d₀ : Docket ρ} {j : Nat} {w : Duty} {e : Option Entry} (he : e.all (!·.isPass i))
      (hd : d₀.duty = d.duty) (hw : w.key? = (d.duty j).key?) :
      e.all (!·.isPass i) ∧ ((d₀.assign j w).duty i).key? = (d.duty i).key? := by
    refine ⟨he, ?_⟩
    rcases eq_or_ne i j with rfl | hne
    · rw [duty_assign_self, hw]
    · rw [duty_assign_of_ne _ hne, hd]
  cases hs with
  | aside | queued x | rang | closed => exact .inr (.inr ⟨rfl, rfl⟩)
  | @took j x q hj hq =>
    rcases eq_or_ne i j with rfl | hne
    · exact .inl ⟨x, rfl, by rw [hj]; rfl, by rw [duty_assign_self]; rfl⟩
    · refine .inr (.inr ⟨by simp [Entry.isPass, hne.symm], ?_⟩)
      rw [duty_assign_of_ne _ hne]
  | dropped j hj | began j hj | succeeded j hj | died j _ hj | retries j _ hj | putOff j _ hj =>
    exact .inr (.inr (goes_on rfl rfl (by rw [hj]; rfl)))
  | @released j x hj =>
    rcases eq_or_ne i j with rfl | hne
    · exact .inr (.inl ⟨x, rfl, by rw [hj]; rfl, by rw [duty_assign_self]; rfl⟩)
    · refine .inr (.inr ⟨by simp [Entry.isPass, hne.symm], ?_⟩)
      rw [duty_assign_of_ne _ hne]

end Docket

/-- The worker has given back each key that it took before it took the next one; the last one it may
still have. -/
def Paired (i : Nat) (key? : Option String) (es : List Entry) : Prop :=
  ∃ xs : List String, es.filter (·.isPass i) =
    xs.flatMap (fun x => [.took i x, .gave i x]) ++ (key?.map (.took i)).toList

lemma paired_step {ρ : Type} [Quantity ρ] {d d' : Docket ρ} {e : Option Entry} {i : Nat}
    {es : List Entry} (h : Paired i (d.duty i).key? es) (hs : d.Step e d') :
    Paired i (d'.duty i).key? (es ++ e.toList) := by
  obtain ⟨xs, hxs⟩ := h
  rcases hs.pass_cases i with ⟨x, rfl, hk, hk'⟩ | ⟨x, rfl, hk, hk'⟩ | ⟨he, hk⟩
  · refine ⟨xs, ?_⟩
    rw [List.filter_append, hxs, hk, hk']
    simp [Entry.isPass]
  · refine ⟨xs ++ [x], ?_⟩
    rw [List.filter_append, hxs, hk, hk']
    simp [Entry.isPass]
  · refine ⟨xs, ?_⟩
    have hnone : e.toList.filter (·.isPass i) = [] := by
      cases e with
      | none => rfl
      | some e => simpa using he
    rw [List.filter_append, hxs, hnone, hk, List.append_nil]

namespace Controller

variable {ρ : Type} [Quantity ρ] {c : Controller ρ}

/-! ### What a run keeps -/

lemma run_all {P : String → Prop} (hc : c.desk.Custody) (h : c.docket.All P) (as : List Action)
    (hP : ∀ x, .queued x ∈ c.entries as → P x) : (c.run as).docket.All P := by
  refine run_docket (P := fun es d => (∀ x, .queued x ∈ es → P x) → d.All P) hc (fun _ => h)
    ?_ as hP
  intro es d e d' hd ih hs hes
  have hd' : d.All P := ih fun x hx => hes x (List.mem_append_left _ hx)
  refine hd'.step hd.tidy hs fun x hx => hes x ?_
  simp [hx]

lemma run_paired (hc : c.desk.Custody) (i : Nat) (h : c.docket.duty i = .free) (as : List Action) :
    Paired i ((c.run as).worker i).key? (c.entries as) := by
  rw [← Worker.key?_duty]
  refine run_docket (P := fun es d => Paired i (d.duty i).key? es) hc ⟨[], ?_⟩ ?_ as
  · rw [h]
    rfl
  · exact fun es d e d' _ ih hs => paired_step ih hs

/-! ### What a worker does by itself -/

/-- The steps of that worker alone lead to giving the key back. -/
def Returns (c : Controller ρ) (i : Nat) (key : String) : Prop :=
  ∃ own : List Action, (∀ a ∈ own, a.isOf i) ∧
    (c.entries own).filter (·.isPass i) = [.gave i key]

lemma Returns.cons {i : Nat} {key : String} (a : Action) (ha : a.isOf i)
    (he : (c.noted? a).all (!·.isPass i)) (h : (c.step a).Returns i key) : c.Returns i key := by
  obtain ⟨own, hown, hgave⟩ := h
  refine ⟨a :: own, List.forall_mem_cons.2 ⟨ha, hown⟩, ?_⟩
  have hnone : (c.noted? a).toList.filter (·.isPass i) = [] := by
    cases hn : c.noted? a with
    | none => rfl
    | some e =>
      rw [hn] at he
      simpa using he
  rw [entries, List.filter_append, hnone, hgave, List.nil_append]

omit [Quantity ρ] in
lemma setWorker_self {i : Nat} (hi : c.worker i ≠ .ended) (w : Worker) :
    (c.setWorker i w).worker i = w := by
  rw [worker_setWorker c hi, Function.update_self]

variable {i : Nat} {key : String}

lemma returns_releasing (hi : c.worker i = .releasing key) : c.Returns i key := by
  refine ⟨[.worker i 0], by simp [Action.isOf], ?_⟩
  simp [entries, noted?, hi, Entry.isPass]

lemma returns_finished {a : Attempt} (hi : c.worker i = .reconciling key (.finished a))
    (hl : ∀ reading, (c.work.limiter.next key reading).1.isSome) : c.Returns i key := by
  have hne : c.worker i ≠ .ended := by simp [hi]
  have hstep : c.step (.worker i 0) = c.conclude i key 0 a := by
    simp [step, workerStep, hi, perform]
  refine .cons (.worker i 0) (by simp [Action.isOf]) ?_ (returns_releasing ?_)
  · cases a <;> simp [noted?, hi, Entry.isPass]
  · rw [hstep]
    cases a with
    | ok o => exact setWorker_self hne _
    | error f =>
      have hd : (c.work.addRateLimited key 0).1.isSome := by
        rw [(c.work.limiter_addRateLimited key 0).1]
        exact hl 0
      simp only [conclude]
      generalize c.work.addRateLimited key 0 = delayed at hd ⊢
      obtain ⟨delay?, work⟩ := delayed
      obtain ⟨d, rfl⟩ := Option.isSome_iff_exists.1 hd
      exact setWorker_self hne _

lemma step_complete_running {r : Resource} {b : Sql.Batch} {l : Launch}
    (hi : c.worker i = .running key r b l) :
    c.step (.complete (.worker i)) = { c with world := (c.world.complete l).2 }.setWorker i
      (.reconciling key (.afterStatement r b (c.world.complete l).1)) := by
  simp [step, complete, completeWorker, hi]

/-- Every effect brings the end of the attempt nearer. -/
lemma returns_reconciling {stage : Stage} (hi : c.worker i = .reconciling key stage)
    (hl : ∀ reading, (c.work.limiter.next key reading).1.isSome) : c.Returns i key := by
  induction hn : stage.weight using Nat.strongRecOn generalizing c stage with
  | _ n ih =>
    subst hn
    have hne : c.worker i ≠ .ended := by simp [hi]
    have hstep : c.step (.worker i 0) = c.perform i key 0 stage := by simp [step, workerStep, hi]
    have first (h : (c.perform i key 0 stage).Returns i key) (hs : c.noted? (.worker i 0) = none) :
        c.Returns i key :=
      .cons (.worker i 0) (by simp [Action.isOf]) (by rw [hs]; rfl) (hstep ▸ h)
    cases stage with
    | execute r b =>
      refine first ?_ (by simp [noted?, hi])
      have hrunning : (c.perform i key 0 (.execute r b)).worker i =
          .running key r b (c.world.begin b.current).1 := setWorker_self hne _
      generalize hc' : c.perform i key 0 (.execute r b) = c' at hrunning
      have hl' : ∀ reading, (c'.work.limiter.next key reading).1.isSome := hc' ▸ hl
      have hne' : c'.worker i ≠ .ended := by simp [hrunning]
      refine .cons (.complete (.worker i)) (by simp [Action.isOf]) rfl ?_
      rw [step_complete_running hrunning]
      exact ih _ (Stage.weight_afterStatement r b _) (setWorker_self hne' _) hl' rfl
    | write r v =>
      refine first ?_ (by simp [noted?, hi])
      exact ih _ (Stage.weight_afterWrite r v _) (setWorker_self hne _) hl rfl
    | publish r a =>
      refine first ?_ (by simp [noted?, hi])
      exact returns_finished (setWorker_self hne _) hl
    | finished a => exact returns_finished hi hl

lemma returns_handed (hi : c.worker i = .handed key)
    (hl : ∀ reading, (c.work.limiter.next key reading).1.isSome) : c.Returns i key := by
  have hne : c.worker i ≠ .ended := by simp [hi]
  have hstep : c.step (.worker i 0) = c.lookUp i key := by simp [step, workerStep, hi]
  refine .cons (.worker i 0) (by simp [Action.isOf]) ?_ ?_
  · cases hk : Key.parse key <;> simp [noted?, hi, hk, Entry.isPass]
  · rw [hstep, lookUp]
    cases Key.parse key with
    | error f => exact returns_releasing (setWorker_self hne _)
    | ok k => exact returns_reconciling (setWorker_self hne _) hl

/-- A worker that has not broken down can always give its key back, if the limiter answers. -/
lemma returns_of_key? (hk : (c.worker i).key? = some key) (hd : c.worker i ≠ .dead key)
    (hl : ∀ reading, (c.work.limiter.next key reading).1.isSome) : c.Returns i key := by
  cases hi : c.worker i with
  | idle | waiting | ended => simp [hi, Worker.key?] at hk
  | handed x =>
    obtain rfl : x = key := by simpa [hi, Worker.key?] using hk
    exact returns_handed hi hl
  | reconciling x stage =>
    obtain rfl : x = key := by simpa [hi, Worker.key?] using hk
    exact returns_reconciling hi hl
  | running x r b l =>
    obtain rfl : x = key := by simpa [hi, Worker.key?] using hk
    have hne : c.worker i ≠ .ended := by simp [hi]
    refine .cons (.complete (.worker i)) (by simp [Action.isOf]) rfl ?_
    rw [step_complete_running hi]
    exact returns_reconciling (setWorker_self hne _) hl
  | releasing x =>
    obtain rfl : x = key := by simpa [hi, Worker.key?] using hk
    exact returns_releasing hi
  | dead x =>
    obtain rfl : x = key := by simpa [hi, Worker.key?] using hk
    exact absurd hi hd

/-! ### Workers -/

omit [Quantity ρ] in
/-- If all keys are read back from their texts, two workers with texts of one key are the same. -/
lemma subject_unique {i j : Nat} {k : Key} (hc : c.desk.Custody)
    (h : c.docket.All fun x => ∃ k : Key, k.Plain ∧ k.text = x)
    (hi : (c.worker i).subject? = some k) (hj : (c.worker j).subject? = some k) : i = j := by
  obtain ⟨x, hx, hxk⟩ := Worker.busy_of_subject? hi
  obtain ⟨y, hy, hyk⟩ := Worker.busy_of_subject? hj
  have text_of {l : Nat} {z : String} (hz : (c.worker l).key? = some z)
      (hzk : Key.parse z = .ok k) : z = k.text := by
    obtain ⟨k', hplain, rfl⟩ := h.held l z ((c.worker l).key?_duty ▸ hz)
    rw [Key.parse_text hplain] at hzk
    rw [Except.ok.inj hzk]
  obtain rfl := text_of hx hxk
  obtain rfl := text_of hy hyk
  exact hc.alone i j _ hx hy

/-- No two workers reconcile the same resource at the same time, each worker gives a key back before
it takes the next one, and it can always do so by itself, if the keys that come from outside have
names and no slashes in their parts. -/
theorem run_excludes (policy : Policy) (limiter : Limiter ρ String) (world : World)
    (as : List Action)
    (hplain : ∀ x, .queued x ∈ (opening policy limiter world).entries as →
      ∃ k : Key, k.Plain ∧ k.text = x) :
    let c := opening policy limiter world
    (∀ i j k, ((c.run as).worker i).subject? = some k → ((c.run as).worker j).subject? = some k →
      i = j) ∧
    (∀ i, Paired i ((c.run as).worker i).key? (c.entries as)) ∧
    ∀ i key, ((c.run as).worker i).key? = some key → (c.run as).worker i ≠ .dead key →
      (∀ reading, ((c.run as).work.limiter.next key reading).1.isSome) →
      (c.run as).Returns i key := by
  intro c
  have hc : c.desk.Custody := custody_opening policy limiter world
  have hfree (i : Nat) : c.docket.duty i = .free := rfl
  have hall : c.docket.All fun x => ∃ k : Key, k.Plain ∧ k.text = x := by
    refine ⟨nofun, nofun, fun i x hx => ?_⟩
    rw [hfree] at hx
    cases hx
  refine ⟨fun i j k hi hj => ?_, fun i => run_paired hc i (hfree i) as,
    fun i key hk hd hl => returns_of_key? hk hd hl⟩
  exact subject_unique (custody_run hc as) (run_all hc hall as hplain) hi hj

/-- A resource that is queued again while a worker reconciles it is not for the other worker. -/
theorem run_excludes_orders :
    let as : List Action := [.start 2, .sync true, .main false, .enqueue World.orders, .worker 0 0,
      .worker 0 0, .enqueue World.orders, .worker 1 0]
    (∀ x, .queued x ∈ shop.entries as → ∃ k : Key, k.Plain ∧ k.text = x) ∧
    ((shop.run as).worker 0).subject? = some ⟨"shop", "orders"⟩ ∧
    ∀ j, ((shop.run as).worker j).subject? = some ⟨"shop", "orders"⟩ → 0 = j := by
  intro as
  have hentries : shop.entries as =
      [.queued "shop/orders", .took 0 "shop/orders", .queued "shop/orders"] := by decide
  have hplain : ∀ x, .queued x ∈ shop.entries as → ∃ k : Key, k.Plain ∧ k.text = x := by
    intro x hx
    refine ⟨⟨"shop", "orders"⟩, ⟨by decide, by decide, by decide⟩, ?_⟩
    rw [hentries] at hx
    obtain rfl : x = "shop/orders" := by simpa using hx
    decide
  have hsubject : ((shop.run as).worker 0).subject? = some ⟨"shop", "orders"⟩ := by decide
  exact ⟨hplain, hsubject, fun j hj => (run_excludes _ _ _ as hplain).1 0 j _ hsubject hj⟩

end Controller

end Provisioner
