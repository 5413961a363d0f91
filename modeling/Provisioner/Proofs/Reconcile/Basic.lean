import Provisioner.Proofs.Resource.Validation
import Provisioner.Reconcile.Basic

/-!
An attempt written out: which effects it has, in which order, and how it ends.

Stages are followed one effect at a time when an attempt runs; here the stages between a look-up
and its end are put together.
-/

namespace Provisioner

/-- The statements that are not through. -/
def Sql.Batch.remaining (b : Sql.Batch) : List Sql.Statement := b.current :: b.rest

lemma Surroundings.mem_cleanup {s : Spec} {t : Sql.Statement} :
    t ∈ (cleanup s).remaining ↔ t = .dropDatabase s.database ∨ t = .dropRole s.username := by
  simp [Sql.Batch.remaining, cleanup]

lemma Surroundings.cleanup_subset (s : Spec) {t : Sql.Statement} (h : t ∈ (cleanup s).remaining) :
    t ∈ s.statements := by
  rcases mem_cleanup.1 h with rfl | rfl <;> simp [Spec.statements]

namespace Stage

lemma mem_provisioning {s : Spec} {t : Sql.Statement} :
    t ∈ (provisioning s).remaining ↔
      t = .createUser s.username s.password ∨ t = .createDatabase s.database s.username := by
  simp [Sql.Batch.remaining, provisioning]

lemma provisioning_subset (s : Spec) {t : Sql.Statement} (h : t ∈ (provisioning s).remaining) :
    t ∈ s.statements := by
  rcases mem_provisioning.1 h with rfl | rfl <;> simp [Spec.statements]

/-- The outcome of the two provisioning statements. -/
def provisioningReport (s : Spec) (user database : Except Failure Unit) : Sql.Report :=
  (Sql.Report.record {} (.createUser s.username s.password) user).record
    (.createDatabase s.database s.username) database

lemma provision_valid {r : Resource} (h : r.spec.validate = .ok ()) :
    provision r = .execute r (provisioning r.spec) := by
  unfold provision
  rw [h]

/-- How the attempt ends for those outside, to whom a resource that turns out to be deleted is gone. -/
def ending : Attempt → Attempt
  | .ok o => .ok o
  | .error f => if f.isNotFound then .ok .gone else .error f

/-- How the attempt ends once the writer has answered. -/
def answerTo (v : Verdict) : Except Failure Unit → Attempt
  | .ok () => v.attempt
  | .error f => .error f

lemma afterWrite_eq (r : Resource) (v : Verdict) (o : Except Failure Unit) :
    afterWrite r v o = conclude r (answerTo v o) := by
  cases o <;> rfl

/-! ### Whom a stage is about -/

/-- The resource whose status is to be written. -/
def pending? : Stage → Option Resource
  | .execute r _ | .write r _ => some r
  | .publish .. | .finished _ => none

/-- The resource that the attempt is about. -/
def resource? : Stage → Option Resource
  | .execute r _ | .write r _ | .publish r _ => some r
  | .finished _ => none

variable {r r' : Resource}

lemma start_resource? {policy : Policy} {x : Option Resource}
    (h : (start policy x).resource? = some r) : x = some r := by
  cases x with
  | none => simp [start, resource?] at h
  | some r₀ =>
    simp only [start, provision] at h
    split at h
    · exact h
    · exact h
    all_goals split at h <;> exact h

lemma conclude_resource? {a : Attempt} (h : (conclude r a).resource? = some r') : r = r' := by
  unfold conclude at h
  split at h
  · exact Option.some.inj h
  · split_ifs at h
    · simp [resource?] at h
    · exact Option.some.inj h

lemma afterWrite_resource? {d : Verdict} {outcome : Except Failure Unit}
    (h : (afterWrite r d outcome).resource? = some r') : r = r' := by
  cases outcome with
  | ok _ => exact conclude_resource? (a := d.attempt) h
  | error f => exact conclude_resource? (a := .error f) h

lemma afterStatement_resource? {b : Sql.Batch} {outcome : Except Failure Unit}
    (h : (afterStatement r b outcome).resource? = some r') : r = r' := by
  unfold afterStatement at h
  split at h <;> exact Option.some.inj h

/-- Nothing is to be written for a resource that was provisioned when it was looked up. -/
lemma start_pending? {policy : Policy} {x : Option Resource}
    (h : (start policy x).pending? = some r) : x = some r ∧ r.progress ≠ .provisioned := by
  have provisions {r₀ : Resource} (h : (provision r₀).pending? = some r) : r₀ = r := by
    unfold provision at h
    split at h <;> exact Option.some.inj h
  cases x with
  | none => cases h
  | some r₀ =>
    simp only [start] at h
    split at h
    · cases h
    · cases h
    · rename_i he
      obtain rfl := provisions h
      exact ⟨rfl, by simp [he]⟩
    · rename_i hu
      obtain rfl := provisions h
      exact ⟨rfl, by simp [hu]⟩

lemma afterStatement_pending? {b : Sql.Batch} {outcome : Except Failure Unit} :
    (afterStatement r b outcome).pending? = some r := by
  unfold afterStatement
  split <;> rfl

lemma afterWrite_pending? {v : Verdict} {outcome : Except Failure Unit} :
    (afterWrite r v outcome).pending? = none := by
  rw [afterWrite_eq]
  unfold conclude
  split
  · rfl
  · split_ifs <;> rfl

end Stage

namespace Surroundings

variable {σ : Type} (e : Surroundings σ)

/-! ### One effect at a time -/

/-- The effect that comes next, and the stage that follows it. -/
def proceed (stage : Stage) (s : σ) : Stage × σ :=
  match stage with
  | .execute r b => (.afterStatement r b (e.execute b.current s).1, (e.execute b.current s).2)
  | .write r v =>
    (.afterWrite r v (e.write (r.withStatus v.status) s).1, (e.write (r.withStatus v.status) s).2)
  | .publish r a => (.finished a, e.publish r (Stage.notice a) s)
  | .finished a => (.finished a, s)

lemma proceed_pending? {stage : Stage} {r : Resource} {s : σ}
    (h : (e.proceed stage s).1.pending? = some r) : stage.pending? = some r := by
  cases stage with
  | execute r' b => exact Stage.afterStatement_pending?.symm.trans h
  | write r' v => cases Stage.afterWrite_pending?.symm.trans h
  | publish r' a => cases h
  | finished a => cases h

lemma weight_proceed {stage : Stage} (s : σ) (h : ∀ a, stage ≠ .finished a) :
    (e.proceed stage s).1.weight < stage.weight := by
  cases stage with
  | execute r b => exact Stage.weight_afterStatement r b _
  | write r v => exact Stage.weight_afterWrite r v _
  | publish r a => exact Nat.zero_lt_one
  | finished a => exact absurd rfl (h a)

/-- An attempt that nobody disturbs is one effect after the other. -/
lemma carryOut_proceed (stage : Stage) (s : σ) :
    e.carryOut (e.proceed stage s).1 (e.proceed stage s).2 = e.carryOut stage s := by
  cases stage with
  | execute r b =>
    conv_rhs => rw [carryOut]
    rfl
  | write r v =>
    conv_rhs => rw [carryOut]
    rfl
  | publish r a => rw [proceed, carryOut, carryOut]
  | finished a => rfl

/-! ### All together -/

lemma carryOut_conclude (r : Resource) (a : Attempt) (s : σ) :
    e.carryOut (Stage.conclude r a) s =
      match a with
      | .ok o => (.ok o, e.publish r .synced s)
      | .error f =>
        if f.isNotFound then (.ok .gone, s) else (.error f, e.publish r (.failed f) s) := by
  cases a with
  | ok o => simp [Stage.conclude, carryOut, Stage.notice]
  | error f => by_cases h : f.isNotFound <;> simp [Stage.conclude, h, carryOut, Stage.notice]

lemma carryOut_write (r : Resource) (v : Verdict) (s : σ) :
    e.carryOut (.write r v) s =
      e.carryOut (Stage.conclude r (Stage.answerTo v (e.write (r.withStatus v.status) s).1))
        (e.write (r.withStatus v.status) s).2 := by
  rw [carryOut, Stage.afterWrite_eq]

/-- A batch that advances statement by statement is a run of all its statements. -/
lemma carryOut_execute (r : Resource) (b : Sql.Batch) (s : σ) :
    e.carryOut (.execute r b) s =
      e.carryOut (.write r (Stage.verdict (Sql.runAll e.execute b.remaining b.report s).1))
        (Sql.runAll e.execute b.remaining b.report s).2 := by
  obtain ⟨t, ts, report⟩ := b
  induction ts generalizing t report s with
  | nil =>
    rw [carryOut]
    rfl
  | cons u us ih =>
    rw [carryOut]
    exact ih (e.execute t s).2 u (report.record t (e.execute t s).1)

/-- Both statements are executed, whatever the first one leads to. -/
lemma carryOut_provisioning (r : Resource) (s : σ) :
    e.carryOut (.execute r (Stage.provisioning r.spec)) s =
      let user := e.execute (.createUser r.spec.username r.spec.password) s
      let database := e.execute (.createDatabase r.spec.database r.spec.username) user.2
      e.carryOut
        (.write r (Stage.verdict (Stage.provisioningReport r.spec user.1 database.1))) database.2 := by
  rw [carryOut_execute]
  rfl

/-! ### Surroundings that keep more -/

/-- `e'` answers as `e` does, and may keep more: `π` forgets what that is. -/
structure Extends {τ : Type} (e' : Surroundings τ) (e : Surroundings σ) (π : τ → σ) : Prop where
  lookup (k : Key) (s : τ) : e'.lookup k s = e.lookup k (π s)
  execute (t : Sql.Statement) (s : τ) :
    (e'.execute t s).1 = (e.execute t (π s)).1 ∧ π (e'.execute t s).2 = (e.execute t (π s)).2
  write (r : Resource) (s : τ) :
    (e'.write r s).1 = (e.write r (π s)).1 ∧ π (e'.write r s).2 = (e.write r (π s)).2
  publish (r : Resource) (n : Notice) (s : τ) : π (e'.publish r n s) = e.publish r n (π s)

variable {e} {τ : Type} {e' : Surroundings τ} {π : τ → σ}

lemma Extends.carryOut (h : e'.Extends e π) (stage : Stage) (s : τ) :
    (e'.carryOut stage s).1 = (e.carryOut stage (π s)).1 ∧
      π (e'.carryOut stage s).2 = (e.carryOut stage (π s)).2 := by
  induction hn : stage.weight using Nat.strongRecOn generalizing stage s with
  | _ n ih =>
    subst hn
    cases stage with
    | execute r b =>
      rw [Surroundings.carryOut, Surroundings.carryOut, (h.execute b.current s).1,
        ← (h.execute b.current s).2]
      exact ih _ (Stage.weight_afterStatement r b _) _ _ rfl
    | write r v =>
      rw [Surroundings.carryOut, Surroundings.carryOut, (h.write (r.withStatus v.status) s).1,
        ← (h.write (r.withStatus v.status) s).2]
      exact ih _ (Stage.weight_afterWrite r v _) _ _ rfl
    | publish r a =>
      rw [Surroundings.carryOut, Surroundings.carryOut]
      exact ⟨rfl, h.publish r _ s⟩
    | finished a =>
      rw [Surroundings.carryOut, Surroundings.carryOut]
      exact ⟨rfl, rfl⟩

lemma Extends.reconcile (h : e'.Extends e π) (policy : Policy) (k : Key) (s : τ) :
    (e'.reconcile policy k s).1 = (e.reconcile policy k (π s)).1 ∧
      π (e'.reconcile policy k s).2 = (e.reconcile policy k (π s)).2 := by
  unfold Surroundings.reconcile
  rw [h.lookup]
  exact h.carryOut _ s

end Surroundings

end Provisioner
