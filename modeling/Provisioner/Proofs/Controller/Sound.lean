import Provisioner.Proofs.Controller.Runs
import Provisioner.Proofs.Reconcile.Basic
import Provisioner.Proofs.Sql.Server
import Provisioner.Proofs.World.Basic

/-!
Who executes which statements.

Workers execute the statements that provision the resource they looked up; the pump and the caller
execute those that clean up after the deletion they took up last, all of them in order.
-/

namespace Provisioner

/-! ### Batches -/

namespace Sql.Batch

variable {b b' : Batch} {outcome : Except Failure Unit}

lemma advance?_eq_none : b.advance? outcome = none ↔ b.rest = [] := by
  unfold advance?
  split <;> simp_all

lemma advance?_eq_some (h : b.advance? outcome = some b') :
    b.rest = b'.remaining ∧ b'.report = b.reportWith outcome := by
  unfold advance? at h
  split at h
  · simp at h
  · rename_i t ts hr
    obtain rfl := Option.some.inj h
    exact ⟨hr, rfl⟩

lemma remaining_suffix (h : b.advance? outcome = some b') : b'.remaining <:+ b.remaining := by
  rw [← (advance?_eq_some h).1]
  exact List.suffix_cons _ _

/-- A batch of two statements is at the first or at the second one. -/
lemma remaining_of_pair {b : Batch} {t₁ t₂ : Statement}
    (h : b.remaining <:+ [t₁, t₂]) :
    (b.current = t₁ ∧ b.rest = [t₂]) ∨ (b.current = t₂ ∧ b.rest = []) := by
  simp only [remaining, List.suffix_cons_iff, List.suffix_nil, List.cons.injEq,
    reduceCtorEq, or_false] at h
  exact h

end Sql.Batch

/-! ### Stages -/

namespace Stage

variable {r r' : Resource} {b b' : Sql.Batch}

lemma start_eq_execute {policy : Policy} {x : Option Resource}
    (h : start policy x = .execute r b) : b = provisioning r.spec := by
  cases x with
  | none => simp [start] at h
  | some r₀ =>
    simp only [start, provision] at h
    split at h
    · simp at h
    · simp at h
    all_goals
      split at h
      · simp at h
      · simp only [execute.injEq] at h
        rw [← h.1, ← h.2]

lemma conclude_ne_execute (a : Attempt) : conclude r a ≠ .execute r' b := by
  unfold conclude
  split
  · simp
  · split_ifs <;> simp

lemma afterWrite_ne_execute (d : Verdict) (outcome : Except Failure Unit) :
    afterWrite r d outcome ≠ .execute r' b := by
  cases outcome with
  | ok _ => exact conclude_ne_execute d.attempt
  | error f => exact conclude_ne_execute (.error f)

lemma afterStatement_eq_execute {outcome : Except Failure Unit}
    (h : afterStatement r b outcome = .execute r' b') :
    r' = r ∧ b.advance? outcome = some b' := by
  unfold afterStatement at h
  split at h
  · rename_i hb
    simp only [execute.injEq] at h
    exact ⟨h.1.symm, h.2 ▸ hb⟩
  · simp at h

end Stage

/-! ### Histories -/

namespace Occurrence

/-- The resource that someone brings up. -/
def resource? : Occurrence → Option Resource
  | .stored r | .took _ r => some r
  | .broke _ | .completed .. => none

/-- The deletion that `e` takes up. -/
def deletion? (e : Executor) : Occurrence → Option Resource
  | .took e' o => if e' = e then some o else none
  | _ => none

/-- The deletions that `e` took up, in order. -/
def deletions (e : Executor) (h : List Occurrence) : List Resource := h.filterMap (deletion? e)

lemma deletions_append (e : Executor) (g h : List Occurrence) :
    deletions e (g ++ h) = deletions e g ++ deletions e h := List.filterMap_append

lemma mem_deletions_append {e : Executor} {d : Resource} {g h : List Occurrence}
    (hd : d ∈ deletions e h) : d ∈ deletions e (h ++ g) := by
  rw [deletions_append]
  exact List.mem_append_left _ hd

lemma mem_deletions {e : Executor} {d : Resource} {h : List Occurrence} :
    d ∈ deletions e h ↔ .took e d ∈ h := by
  simp only [deletions, List.mem_filterMap]
  constructor
  · rintro ⟨o, ho, hd⟩
    cases o with
    | took e' d' =>
      simp only [deletion?] at hd
      split_ifs at hd with he
      obtain rfl := Option.some.inj hd
      rwa [← he]
    | _ => simp [deletion?] at hd
  · exact fun h => ⟨_, h, by simp [deletion?]⟩

end Occurrence

open Occurrence

namespace View

/-! ### The statements fit those who execute them -/

structure Sound (v : View) (h : List Occurrence) : Prop where
  worker_launch : ∀ i key r b l, v.worker i = .running key r b l → l.statement = b.current
  worker_batch : ∀ i r b, (v.worker i).stage? = some (.execute r b) →
    b.remaining <:+ (Stage.provisioning r.spec).remaining
  launch : ∀ e b l, v.handling e = .running b l → l.statement = b.current
  batch : ∀ e b, (v.handling e).batch? = some b → ∃ o, (deletions e h).getLast? = some o ∧
    b.remaining <:+ (Surroundings.cleanup o.spec).remaining

variable {v v' : View} {h : List Occurrence} {o : Option Occurrence}

lemma Sound.of_occupy {i : Nat} {w : Worker} (world : World) (hs : v.Sound h)
    (ho : ∀ e, deletions e o.toList = [])
    (hl : ∀ key r b l, w = .running key r b l → l.statement = b.current)
    (hb : ∀ r b, w.stage? = some (.execute r b) →
      b.remaining <:+ (Stage.provisioning r.spec).remaining) :
    Sound ({ v with world }.occupy i w) (h ++ o.toList) := by
  refine ⟨fun j key r b l hj => ?_, fun j r b hj => ?_, hs.launch, fun e b he => ?_⟩
  · rcases eq_or_ne j i with rfl | hne
    · exact hl key r b l (by simpa [occupy] using hj)
    · exact hs.worker_launch j key r b l (by simpa [occupy, Function.update_of_ne hne] using hj)
  · rcases eq_or_ne j i with rfl | hne
    · exact hb r b (by simpa [occupy] using hj)
    · exact hs.worker_batch j r b (by simpa [occupy, Function.update_of_ne hne] using hj)
  · rw [deletions_append, ho e, List.append_nil]
    exact hs.batch e b he

lemma Sound.of_handle {e : Executor} {k : Handling} (world : World) (hs : v.Sound h)
    (ho : ∀ e', e' ≠ e → deletions e' o.toList = [])
    (hl : ∀ b l, k = .running b l → l.statement = b.current)
    (hb : ∀ b, k.batch? = some b → ∃ d, (deletions e (h ++ o.toList)).getLast? = some d ∧
      b.remaining <:+ (Surroundings.cleanup d.spec).remaining) :
    Sound ({ v with world }.handle e k) (h ++ o.toList) := by
  refine ⟨hs.worker_launch, hs.worker_batch, fun e' b l he => ?_, fun e' b he => ?_⟩
  · rcases eq_or_ne e' e with rfl | hne
    · exact hl b l (by simpa [handle] using he)
    · exact hs.launch e' b l (by simpa [handle, Function.update_of_ne hne] using he)
  · rcases eq_or_ne e' e with rfl | hne
    · exact hb b (by simpa [handle] using he)
    · rw [deletions_append, ho e' hne, List.append_nil]
      exact hs.batch e' b (by simpa [handle, Function.update_of_ne hne] using he)

lemma Sound.of_world (world : World) (hs : v.Sound h) (ho : ∀ e, deletions e o.toList = []) :
    Sound { v with world } (h ++ o.toList) := by
  refine ⟨hs.worker_launch, hs.worker_batch, hs.launch, fun e b he => ?_⟩
  rw [deletions_append, ho e, List.append_nil]
  exact hs.batch e b he

lemma Sound.step (hs : v.Sound h) (ht : v.Step o v') : v'.Sound (h ++ o.toList) := by
  cases ht with
  | aside => exact hs.of_world v.world fun _ => rfl
  | stored r => exact hs.of_world _ fun _ => rfl
  | removed k => exact hs.of_world _ fun _ => rfl
  | broke faults => exact hs.of_world _ fun _ => rfl
  | brokeWrites fault => exact hs.of_world _ fun _ => rfl
  | took e d he =>
    refine hs.of_handle v.world (fun e' hne => ?_) (fun b l hk => by simp at hk)
      fun b hb => ⟨d, ?_, ?_⟩
    · simp [deletions, deletion?, hne.symm]
    · simp [deletions, deletion?]
    · obtain rfl := Option.some.inj hb
      exact List.suffix_rfl
  | cleans e b he =>
    refine hs.of_handle _ (fun _ _ => rfl) (fun b' l hk => ?_) fun b' hb => ?_
    · obtain ⟨rfl, rfl⟩ := Handling.running.inj hk
      rfl
    · obtain rfl := Option.some.inj hb
      simpa using hs.batch e b (by rw [he]; rfl)
  | cleaned e b l he =>
    refine hs.of_handle _ (fun _ _ => rfl) (fun b' l hk => ?_) fun b' hb => ?_
    · unfold Handling.after at hk
      split at hk <;> simp at hk
    · obtain ⟨d, hd, hr⟩ := hs.batch e b (by rw [he]; rfl)
      refine ⟨d, by simpa [deletions, deletion?] using hd, ?_⟩
      unfold Handling.after at hb
      split at hb
      · rename_i ha
        obtain rfl := Option.some.inj hb
        exact (Sql.Batch.remaining_suffix ha).trans hr
      · simp [Handling.batch?] at hb
  | started w hw =>
    refine ⟨fun i key r b l hi => ?_, fun i r b hi => ?_, hs.launch, by simpa using hs.batch⟩
    · have := hw i
      simp [show w i = _ from hi, Worker.stage?] at this
    · simp [hw i] at hi
  | rests i w hw =>
    refine hs.of_occupy v.world (fun _ => rfl) (fun key r b l hr => ?_)
      fun r b hb => ?_
    · simp [hr, Worker.stage?] at hw
    · simp [hw] at hb
  | looksUp i key policy k =>
    refine hs.of_occupy v.world (fun _ => rfl) (fun key r b l hr => by simp at hr)
      fun r b hb => ?_
    obtain rfl := Stage.start_eq_execute (Option.some.inj hb)
    exact List.suffix_rfl
  | executes i key r b hi =>
    refine hs.of_occupy _ (fun _ => rfl) (fun key' r' b' l hr => ?_) fun r' b' hb => ?_
    · obtain ⟨-, -, rfl, rfl⟩ := Worker.running.inj hr
      rfl
    · obtain ⟨rfl, rfl⟩ := Stage.execute.inj (Option.some.inj hb)
      exact hs.worker_batch i r b (by rw [hi]; rfl)
  | executed i key r b l hi =>
    refine hs.of_occupy _ (fun _ => rfl) (fun key r b l hr => by simp at hr) fun r' b' hb => ?_
    obtain ⟨rfl, ha⟩ := Stage.afterStatement_eq_execute (Option.some.inj hb)
    exact (Sql.Batch.remaining_suffix ha).trans (hs.worker_batch i r' b (by rw [hi]; rfl))
  | writes i key r d hi =>
    refine hs.of_occupy _ (fun _ => rfl) (fun key r b l hr => by simp at hr) fun r' b' hb => ?_
    exact absurd (Option.some.inj hb) (Stage.afterWrite_ne_execute d _)
  | publishes i key r a hi =>
    exact hs.of_occupy _ (fun _ => rfl) (fun key r b l hr => by simp at hr) fun r' b' hb => by
      simp [Worker.stage?] at hb

lemma Sound.run {g : List Occurrence} (hs : v.Sound g) (hr : v.Run h v') : v'.Sound (g ++ h) := by
  induction hr with
  | refl => simpa using hs
  | snoc hr ht ih =>
    rw [← List.append_assoc]
    exact ih.step ht

/-! ### What becomes of attempts, of the cache and of statuses -/

/-- A predicate of the stages that workers are in, when one of them goes on. -/
lemma stage_occupy {P : Stage → Prop} {i : Nat} {w : Worker}
    (hv : ∀ j s, (v.worker j).stage? = some s → P s) (hw : ∀ s, w.stage? = some s → P s) (j : Nat)
    (s : Stage) (hj : ((v.occupy i w).worker j).stage? = some s) : P s := by
  rcases eq_or_ne j i with rfl | hne
  · exact hw s (by simpa [occupy] using hj)
  · exact hv j s (by simpa [occupy, Function.update_of_ne hne] using hj)

/-- A worker is in a stage because it was in it, or has just begun an attempt or gone on with one. -/
lemma Step.stage_cases (ht : v.Step o v') {i : Nat} {s : Stage}
    (hi : (v'.worker i).stage? = some s) :
    (v.worker i).stage? = some s ∨
    (∃ policy k, s = .start policy (v.world.lookup k)) ∨
    (∃ key r b l, v.worker i = .running key r b l ∧ v'.world = (v.world.complete l).2 ∧
      s = .afterStatement r b (v.world.complete l).1) ∨
    (∃ r d, (v.worker i).stage? = some (.write r d) ∧
      s = .afterWrite r d (v.world.write (r.withStatus d.status)).1) ∨
    ∃ a, s = .finished a := by
  have before {v₁ : View} {j : Nat} {w : Worker} (hv : v₁.worker = v.worker)
      (h : ((v₁.occupy j w).worker i).stage? = some s) :
      (v.worker i).stage? = some s ∨ i = j ∧ w.stage? = some s := by
    rcases eq_or_ne i j with rfl | hne
    · exact .inr ⟨rfl, by simpa [occupy] using h⟩
    · exact .inl (by simpa [occupy, Function.update_of_ne hne, hv] using h)
  cases ht with
  | aside | stored | removed | broke | brokeWrites | took | cleans | cleaned => exact .inl hi
  | started w hw => simp [hw i] at hi
  | rests j w hw =>
    rcases before rfl hi with hold | ⟨-, hnew⟩
    · exact .inl hold
    · simp [hw] at hnew
  | looksUp j key policy k =>
    rcases before rfl hi with hold | ⟨-, hnew⟩
    · exact .inl hold
    · exact .inr (.inl ⟨policy, k, (Option.some.inj hnew).symm⟩)
  | executes j key r b hj =>
    rcases before rfl hi with hold | ⟨rfl, hnew⟩
    · exact .inl hold
    · exact .inl (by rw [hj]; exact hnew)
  | executed j key r b l hj =>
    rcases before rfl hi with hold | ⟨rfl, hnew⟩
    · exact .inl hold
    · exact .inr (.inr (.inl ⟨key, r, b, l, hj, rfl, (Option.some.inj hnew).symm⟩))
  | writes j key r d hj =>
    rcases before rfl hi with hold | ⟨rfl, hnew⟩
    · exact .inl hold
    · exact .inr (.inr (.inr (.inl ⟨r, d, by rw [hj]; rfl, (Option.some.inj hnew).symm⟩)))
  | publishes j key r a hj =>
    rcases before rfl hi with hold | ⟨-, hnew⟩
    · exact .inl hold
    · exact .inr (.inr (.inr (.inr ⟨a, (Option.some.inj hnew).symm⟩)))

/-- A worker is busy with a resource because it was so before, or finds it in the cache. -/
lemma Step.resource_cases (ht : v.Step o v') {i : Nat} {s : Stage} {r : Resource}
    (hi : (v'.worker i).stage? = some s) (hr : s.resource? = some r) :
    (∃ s', (v.worker i).stage? = some s' ∧ s'.resource? = some r) ∨
      ∃ k, v.world.lookup k = some r := by
  rcases ht.stage_cases hi with hold | ⟨policy, k, rfl⟩ | ⟨key, r₀, b, l, hj, -, rfl⟩ |
    ⟨r₀, d, hj, rfl⟩ | ⟨a, rfl⟩
  · exact .inl ⟨s, hold, hr⟩
  · exact .inr ⟨k, Stage.start_resource? hr⟩
  · obtain rfl := Stage.afterStatement_resource? hr
    exact .inl ⟨.execute r₀ b, by rw [hj]; rfl, rfl⟩
  · obtain rfl := Stage.afterWrite_resource? hr
    exact .inl ⟨.write r₀ d, hj, rfl⟩
  · cases hr

/-- What is cached was so before, or was stored just now, by someone else or with a status. -/
lemma Step.lookup_cases (ht : v.Step o v') {k : Key} {r : Resource}
    (hk : v'.world.lookup k = some r) :
    v.world.lookup k = some r ∨ Key.ofResource r = .ok k ∧ (o = some (.stored r) ∨
      ∃ i r₀ d, (v.worker i).stage? = some (.write r₀ d) ∧ r = r₀.withStatus d.status) := by
  cases ht with
  | stored r' =>
    rw [World.lookup_put] at hk
    split_ifs at hk with hr
    · obtain rfl := Option.some.inj hk
      exact .inr ⟨hr, .inl rfl⟩
    · exact .inl hk
  | removed j =>
    rw [World.lookup_remove] at hk
    split_ifs at hk
    exact .inl hk
  | cleaned e b l he => exact .inl (((v.world.sameCache_complete l).lookup k).symm.trans hk)
  | executed i key r' b l hi => exact .inl (((v.world.sameCache_complete l).lookup k).symm.trans hk)
  | writes i key r₀ d hi =>
    rcases v.world.lookup_write (r₀.withStatus d.status) k with he | ⟨hr, he⟩
    · exact .inl (he.symm.trans hk)
    · obtain rfl : r₀.withStatus d.status = r := Option.some.inj (he.symm.trans hk)
      exact .inr ⟨hr, .inr ⟨i, r₀, d, by rw [hi]; rfl, rfl⟩⟩
  | _ => exact .inl hk

/-- A status is recorded in a step only by a worker that writes it. -/
lemma Step.updates_cases (ht : v.Step o v') :
    v'.world.journal.updates = v.world.journal.updates ∨
    ∃ i key r d outcome, v.worker i = .reconciling key (.write r d) ∧
      v'.worker i = .reconciling key (.afterWrite r d outcome) ∧
      v'.world.journal.updates = v.world.journal.updates ++ [r.withStatus d.status] := by
  cases ht with
  | stored r => exact .inl (congrArg Journal.updates (v.world.frame_put r).2.2.2)
  | cleaned e b l he => exact .inl (congrArg Journal.updates (v.world.frame_complete l).2.2.2)
  | executed i key r b l hi =>
    exact .inl (congrArg Journal.updates (v.world.frame_complete l).2.2.2)
  | writes i key r d hi =>
    rcases v.world.journal_write (r.withStatus d.status) with hj | hj
    · exact .inl (congrArg Journal.updates hj)
    · exact .inr ⟨i, key, r, d, _, hi, Function.update_self .., congrArg Journal.updates hj⟩
  | _ => exact .inl rfl

/-- What is recorded was so before, or a worker was about to write it. -/
lemma Step.recorded_cases (ht : v.Step o v') {r : Resource}
    (hr : r ∈ v'.world.journal.updates) :
    r ∈ v.world.journal.updates ∨
      ∃ i r₀ d, (v.worker i).stage? = some (.write r₀ d) ∧ r = r₀.withStatus d.status := by
  rcases ht.updates_cases with hu | ⟨i, key, r₀, d, -, hi, -, hu⟩ <;> rw [hu] at hr
  · exact .inl hr
  · rcases List.mem_append.1 hr with hold | hnew
    · exact .inl hold
    · exact .inr ⟨i, r₀, d, by rw [hi]; rfl, List.mem_singleton.1 hnew⟩

lemma Step.tracking (ht : v.Step o v') : v'.world.tracking = v.world.tracking := by
  cases ht with
  | stored r => exact (v.world.frame_put r).2.1
  | writes i key r d hi => exact (v.world.frame_write _).2.1
  | cleaned e b l he => exact (v.world.frame_complete l).1
  | executed i key r b l hi => exact (v.world.frame_complete l).1
  | _ => rfl

/-! ### What reaches the server -/

/-- In a step the world stays, or a statement completes that the executor was at. -/
lemma Step.server_cases (ht : v.Step o v') :
    v'.world.server = v.world.server ∨
    (∃ e b l, v.handling e = .running b l ∧ o = some (.completed e l) ∧
      v'.world = (v.world.complete l).2) ∨
    (∃ i key r b l, v.worker i = .running key r b l ∧ o = some (.completed (.worker i) l) ∧
      v'.world = (v.world.complete l).2) := by
  cases ht with
  | aside | removed | broke | brokeWrites | took | cleans | started | rests | looksUp => exact .inl rfl
  | executes | publishes => exact .inl rfl
  | stored r => exact .inl (v.world.frame_put r).1
  | writes i key r d hi => exact .inl (v.world.frame_write _).1
  | cleaned e b l he => exact .inr (.inl ⟨e, b, l, he, rfl, rfl⟩)
  | executed i key r b l hi => exact .inr (.inr ⟨i, key, r, b, l, hi, rfl, rfl⟩)

/-- What a worker executes provisions the resource of its attempt. -/
lemma Sound.mem_provisioning {i : Nat} {key : String} {r : Resource} {b : Sql.Batch} {l : Launch}
    (hs : v.Sound h) (hi : v.worker i = .running key r b l) :
    l.statement ∈ (Stage.provisioning r.spec).remaining := by
  have hb : b.remaining <:+ (Stage.provisioning r.spec).remaining :=
    hs.worker_batch i r b (by rw [hi]; rfl)
  rw [hs.worker_launch i key r b l hi]
  exact hb.subset List.mem_cons_self

/-- What the pump or the caller executes cleans up after the deletion it took up last. -/
lemma Sound.mem_cleanup {e : Executor} {b : Sql.Batch} {l : Launch} (hs : v.Sound h)
    (he : v.handling e = .running b l) :
    ∃ d, (deletions e h).getLast? = some d ∧
      l.statement ∈ (Surroundings.cleanup d.spec).remaining := by
  obtain ⟨d, hd, hb⟩ := hs.batch e b (by rw [he]; rfl)
  refine ⟨d, hd, ?_⟩
  rw [hs.launch e b l he]
  exact hb.subset List.mem_cons_self

/-- **Attribution**: what changes the server is a statement of the clean-up that its executor took
up last, or one that provisions a resource. -/
lemma Sound.attribution (hs : v.Sound h) (ht : v.Step o v') :
    v'.world.server = v.world.server ∨ ∃ e l, o = some (.completed e l) ∧
      v'.world.server = (v.world.server.run l.statement).2 ∧
      ((∃ d, (deletions e h).getLast? = some d ∧
          l.statement ∈ (Surroundings.cleanup d.spec).remaining) ∨
        ∃ r : Resource, l.statement ∈ (Stage.provisioning r.spec).remaining) := by
  rcases ht.server_cases with hw | ⟨e, b, l, he, ho, hw⟩ | ⟨i, key, r, b, l, hi, ho, hw⟩
  · exact .inl hw
  · rw [hw]
    rcases v.world.server_complete l with hc | hc
    · exact .inl hc
    · exact .inr ⟨e, l, ho, hc, .inl (hs.mem_cleanup he)⟩
  · rw [hw]
    rcases v.world.server_complete l with hc | hc
    · exact .inl hc
    · exact .inr ⟨.worker i, l, ho, hc, .inr ⟨r, hs.mem_provisioning hi⟩⟩

/-- A role disappears only in a clean-up that names it. -/
lemma Sound.role_lost {u : String} (hs : v.Sound h) (ht : v.Step o v')
    (hu : v.world.server.hasRole u = true) (hn : v'.world.server.hasRole u = false) :
    ∃ e l d, o = some (.completed e l) ∧ (deletions e h).getLast? = some d ∧
      d.spec.username = u := by
  rcases hs.attribution ht with hw | ⟨e, l, ho, hw, hm⟩
  · rw [hw, hu] at hn
    cases hn
  · have hl : l.statement = .dropRole u := Sql.Server.eq_dropRole hu (hw ▸ hn)
    rcases hm with ⟨d, hd, hm⟩ | ⟨r, hm⟩
    · have hdu : u = d.spec.username := by simpa [hl] using Surroundings.mem_cleanup.1 hm
      exact ⟨e, l, d, ho, hd, hdu.symm⟩
    · simp [hl, Stage.mem_provisioning] at hm

/-- A database disappears only in a clean-up that names it. -/
lemma Sound.database_lost {n : String} (hs : v.Sound h) (ht : v.Step o v')
    (hu : v.world.server.hasDatabase n = true) (hn : v'.world.server.hasDatabase n = false) :
    ∃ e l d, o = some (.completed e l) ∧ (deletions e h).getLast? = some d ∧
      d.spec.database = n := by
  rcases hs.attribution ht with hw | ⟨e, l, ho, hw, hm⟩
  · rw [hw, hu] at hn
    cases hn
  · have hl : l.statement = .dropDatabase n := Sql.Server.eq_dropDatabase hu (hw ▸ hn)
    rcases hm with ⟨d, hd, hm⟩ | ⟨r, hm⟩
    · have hdn : n = d.spec.database := by simpa [hl] using Surroundings.mem_cleanup.1 hm
      exact ⟨e, l, d, ho, hd, hdn.symm⟩
    · simp [hl, Stage.mem_provisioning] at hm

end View

lemma Controller.sound_opening {ρ : Type} (policy : Policy) (limiter : Limiter ρ String)
    (world : World) : (opening policy limiter world).view.Sound [] := by
  have hh : ∀ e, (opening policy limiter world).view.handling e = .free := by
    intro e
    cases e <;> rfl
  refine ⟨?_, ?_, fun e b l he => ?_, fun e b he => ?_⟩
  · simp [opening, view, worker]
  · simp [opening, view, worker, Worker.stage?]
  · simp [hh] at he
  · simp [hh, Handling.batch?] at he

end Provisioner
