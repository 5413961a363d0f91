import Provisioner.Proofs.Controller.DeskSteps
import Provisioner.Proofs.Controller.Runs

/-!
Which worker has which key.

A key that a worker has is active in the queue, and no other worker has it. Nobody has a key before
the workers are started, and as long as they serve the queue is open.
-/

namespace Provisioner

namespace Desk

variable {d d' : Desk} {o : Option Deed} {key : String}

structure Custody (d : Desk) : Prop where
  tidy : d.queue.Tidy
  active : ∀ i x, (d.worker i).key? = some x → x ∈ d.queue.active
  alone : ∀ i j x, (d.worker i).key? = some x → (d.worker j).key? = some x → i = j
  early : d.phase = .early → ∀ i, d.worker i = .ended
  opened : d.phase ≠ .over → d.queue.closed = false

/-! ### What a step keeps -/

/-- Only after the start there is a worker that has not ended. -/
lemma Custody.started (h : d.Custody) {i : Nat} (hi : d.worker i ≠ .ended) : d.phase ≠ .early :=
  fun hp => hi (h.early hp i)

/-- Nobody takes a key or gives one back. -/
lemma Custody.of_keys (h : d.Custody) (hk : ∀ i, (d'.worker i).key? = (d.worker i).key?)
    (he : d.phase = .early → d'.worker = d.worker) (ht : d'.queue.Tidy)
    (ha : d'.queue.active = d.queue.active) (hc : d'.queue.closed = d.queue.closed)
    (hp : d'.phase = d.phase) : d'.Custody where
  tidy := ht
  active i x hx := by
    rw [hk] at hx
    rw [ha]
    exact h.active i x hx
  alone i j x hi hj := by
    rw [hk] at hi hj
    exact h.alone i j x hi hj
  early hp' i := by
    rw [hp] at hp'
    rw [he hp']
    exact h.early hp' i
  opened ho := by
    rw [hc]
    exact h.opened (hp ▸ ho)

lemma Custody.of_world (h : d.Custody) (w : World) : Custody { d with world := w } :=
  ⟨h.tidy, h.active, h.alone, h.early, h.opened⟩

lemma Custody.add (h : d.Custody) (key : String) : Custody { d with queue := d.queue.add key } :=
  h.of_keys (fun _ => rfl) (fun _ => rfl) (h.tidy.add key) (d.queue.active_add key)
    (d.queue.closed_add key) rfl

/-- A worker goes on with the key that it has, or with none. -/
lemma Custody.occupy (h : d.Custody) {i : Nat} {w : Worker} (hi : d.worker i ≠ .ended)
    (hw : w.key? = (d.worker i).key?) : (d.occupy i w).Custody := by
  refine h.of_keys (fun j => ?_) (fun hp => absurd hp (h.started hi)) h.tidy rfl rfl rfl
  rcases eq_or_ne j i with rfl | hne
  · rw [worker_occupy_self, hw]
  · rw [worker_occupy_of_ne d hne]

lemma Vacant.key? {i : Nat} (h : d.Vacant i) : (d.worker i).key? = none := by
  rcases h with h | h <;> rw [h] <;> rfl

lemma Vacant.ne_ended {i : Nat} (h : d.Vacant i) : d.worker i ≠ .ended := by
  rcases h with h | h <;> simp [h]

/-- A key in the line is in nobody's hands. -/
lemma Custody.handed (h : d.Custody) {i : Nat} {q : Queue String} (hi : d.Vacant i)
    (hq : d.queue.take = (some key, q)) :
    ({ d with queue := q }.occupy i (.handed key)).Custody := by
  obtain ⟨xs, hline, he⟩ := Queue.take_eq_some hq
  have hfree : key ∉ d.queue.active := ((h.tidy.mem_line key).1 (by simp [hline])).2
  have hactive : q.active = d.queue.active ++ [key] := by rw [he, if_neg hfree]
  have hheld {j : Nat} {x : String}
      (hx : (({ d with queue := q }.occupy i (.handed key)).worker j).key? = some x) :
      j = i ∧ x = key ∨ j ≠ i ∧ (d.worker j).key? = some x := by
    rcases eq_or_ne j i with rfl | hne
    · rw [worker_occupy_self] at hx
      exact .inl ⟨rfl, (Option.some.inj hx).symm⟩
    · rw [worker_occupy_of_ne _ hne] at hx
      exact .inr ⟨hne, hx⟩
  refine ⟨h.tidy.take hq, fun j x hx => ?_, fun j₁ j₂ x h₁ h₂ => ?_,
    fun hp => absurd hp (h.started hi.ne_ended), fun hp => ?_⟩
  · change x ∈ q.active
    rw [hactive, List.mem_append, List.mem_singleton]
    rcases hheld hx with ⟨-, rfl⟩ | ⟨-, hx⟩
    · exact .inr rfl
    · exact .inl (h.active j x hx)
  · rcases hheld h₁ with ⟨e₁, rfl⟩ | ⟨-, hx₁⟩ <;> rcases hheld h₂ with ⟨e₂, e⟩ | ⟨-, hx₂⟩
    · exact e₁.trans e₂.symm
    · exact absurd (h.active j₂ x hx₂) hfree
    · exact absurd (h.active j₁ x hx₁) (e ▸ hfree)
    · exact h.alone j₁ j₂ x hx₁ hx₂
  · exact (Queue.closed_take hq).trans (h.opened hp)

/-- What one worker gives back no other worker has. -/
lemma Custody.released (h : d.Custody) {i : Nat} (hi : d.worker i = .releasing key) :
    ({ d with queue := d.queue.finish key }.occupy i .idle).Custody := by
  have hki : (d.worker i).key? = some key := by rw [hi]; rfl
  have hheld {j : Nat} {x : String}
      (hx : (({ d with queue := d.queue.finish key }.occupy i .idle).worker j).key? = some x) :
      j ≠ i ∧ (d.worker j).key? = some x := by
    rcases eq_or_ne j i with rfl | hne
    · rw [worker_occupy_self] at hx
      cases hx
    · rw [worker_occupy_of_ne _ hne] at hx
      exact ⟨hne, hx⟩
  have hne : d.worker i ≠ .ended := by simp [hi]
  refine ⟨h.tidy.finish (h.active i key hki), fun j x hx => ?_, fun j₁ j₂ x h₁ h₂ => ?_,
    fun hp => absurd hp (h.started hne), h.opened⟩
  · obtain ⟨hji, hxj⟩ := hheld hx
    refine Queue.mem_active_finish.2 ⟨h.active j x hxj, fun e => ?_⟩
    exact hji (h.alone j i x hxj (e ▸ hki))
  · exact h.alone j₁ j₂ x (hheld h₁).2 (hheld h₂).2

lemma Custody.step (h : d.Custody) (hs : d.Step o d') : d'.Custody := by
  have busy {i : Nat} {w : Worker} (world : World) (hi : d.worker i ≠ .ended)
      (hw : w.key? = (d.worker i).key?) : Custody ({ d with world }.occupy i w) :=
    (h.of_world world).occupy hi hw
  cases hs with
  | aside | stored | removed | brokeWrites => exact h.of_world _
  | queued key => exact h.add key
  | announced k => exact h.add k.text
  | @rang due later _ =>
    exact h.of_keys (fun _ => rfl) (fun _ => rfl) (h.tidy.adds due) (d.queue.active_adds due)
      (d.queue.closed_adds due) rfl
  | closed => exact ⟨h.tidy.close, h.active, h.alone, nofun, fun hp => absurd rfl hp⟩
  | started w hp hw =>
    have none_held (i : Nat) (x : String) : (w i).key? ≠ some x := by simp [hw i]
    exact ⟨h.tidy, fun i x hx => absurd hx (none_held i x),
      fun i _ x hx => absurd hx (none_held i x), nofun, fun _ => h.opened (by simp [hp])⟩
  | rested i w hi hw => exact h.occupy hi.ne_ended (hw.trans hi.key?.symm)
  | handed i hi hq => exact h.handed hi hq
  | dropped i hi | consulted i hi | succeeded i hi | died i hi =>
    exact h.occupy (by simp [hi]) (by rw [hi]; rfl)
  | executes i hi | executed i hi | writes i hi | publishes i hi =>
    exact busy _ (by simp [hi]) (by rw [hi]; rfl)
  | @retries i key f hi => exact (h.add key).occupy (by simp [hi]) (by rw [hi]; rfl)
  | @putOff i key f hi =>
    have ha : Custody { d with alarms := d.alarms ++ [key] } :=
      ⟨h.tidy, h.active, h.alone, h.early, h.opened⟩
    exact ha.occupy (by simp [hi]) (by rw [hi]; rfl)
  | released i hi => exact h.released hi

lemma Step.policy (hs : d.Step o d') : d'.policy = d.policy := by
  cases hs <;> rfl

/-! ### Marks -/

/-- A queue that is closed stays closed. -/
lemma Step.opened (hs : d.Step o d') (h : d'.queue.closed = false) : d.queue.closed = false := by
  cases hs with
  | queued x => exact (d.queue.closed_add x).symm.trans h
  | announced k => exact (d.queue.closed_add k.text).symm.trans h
  | @rang due later _ => exact (d.queue.closed_adds due).symm.trans h
  | closed => cases h
  | handed i hi hq => exact (Queue.closed_take hq).symm.trans h
  | @retries i x f hi => exact (d.queue.closed_add x).symm.trans h
  | _ => exact h

/-- When the workers are sent home the queue is closed. -/
lemma Step.shut (hs : d.Step o d') (h : d.phase = .over → d.queue.closed = true)
    (hp : d'.phase = .over) : d'.queue.closed = true := by
  by_contra hc
  have ho : d.queue.closed = false := hs.opened (by simpa using hc)
  have hover : d.phase = .over := by
    cases hs with
    | closed => exact absurd rfl hc
    | started w he hw => cases hp
    | _ => exact hp
  cases ho.symm.trans (h hover)

/-- A notification marks its key, whether it is in the line, in someone's hands or neither. -/
lemma Step.announced_dirty {k : Key} (hs : d.Step (some (.announced k)) d')
    (h : d.queue.closed = false) : k.text ∈ d'.queue.dirty := by
  cases hs
  exact Queue.mem_dirty_add.2 (.inr ⟨h, rfl⟩)

end Desk

namespace Controller

variable {ρ : Type} {c : Controller ρ}

lemma custody_opening (policy : Policy) (limiter : Limiter ρ String) (world : World) :
    (opening policy limiter world).desk.Custody where
  tidy := Queue.tidy_empty
  active i x hx := by simp [desk, opening, worker, Worker.key?] at hx
  alone i j x hx := by simp [desk, opening, worker, Worker.key?] at hx
  early _ i := by simp [desk, opening, worker]
  opened _ := rfl

/-- In every run the keys in the workers' hands are active, each in the hands of one worker. -/
theorem custody_run [Quantity ρ] (h : c.desk.Custody) (as : List Action) : (c.run as).desk.Custody := by
  induction as generalizing c with
  | nil => exact h
  | cons a as ih => exact ih (h.step (c.step_desk a))

lemma run_shut [Quantity ρ] (h : c.main.phase = .over → c.work.queue.closed = true)
    (as : List Action) : (c.run as).main.phase = .over → (c.run as).work.queue.closed = true := by
  induction as generalizing c with
  | nil => exact h
  | cons a as ih => exact ih ((c.step_desk a).shut h)

lemma run_opened [Quantity ρ] {as : List Action} (h : (c.run as).work.queue.closed = false) :
    c.work.queue.closed = false := by
  induction as generalizing c with
  | nil => exact h
  | cons a as ih => exact (c.step_desk a).opened (ih h)

end Controller

end Provisioner
