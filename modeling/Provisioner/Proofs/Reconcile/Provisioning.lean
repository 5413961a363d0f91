import Provisioner.Proofs.Reconcile.Basic
import Provisioner.Proofs.Resource.Validation
import Provisioner.Proofs.World.Basic

/-!
An attempt to provision a resource, in a world that keeps what is written.

Up to the status write only the server and the journal change; the write then replaces the cached
resource by the one with the new status.
-/

namespace Provisioner.World

/-- A valid resource is cached under its key, the server tracks what it is told, and a status that
is written shows in the cache. -/
structure Provisionable (w : World) (k : Key) (r : Resource) : Prop where
  tracking : w.tracking = true
  storesWrites : w.storesWrites = true
  lookup : w.lookup k = some r
  key : Key.ofResource r = .ok k
  valid : r.spec.validate = .ok ()

variable {w : World} {k : Key} {r : Resource}

lemma Provisionable.of_faults (h : w.Provisionable k r) (faults : Table String Failure)
    (fault : Option Failure) : Provisionable { w with faults, writeFault := fault } k r :=
  ⟨h.1, h.2, h.3, h.4, h.5⟩

lemma Provisionable.publish (h : w.Provisionable k r) (r' : Resource) (n : Notice) :
    (w.publish r' n).Provisionable k r := ⟨h.1, h.2, h.3, h.4, h.5⟩

/-! ### The statements -/

lemma Provisionable.fault?_eq (h : w.Provisionable k r) {t : Sql.Statement}
    (ht : t ∈ r.spec.statements) : w.fault? t = w.faults.find? t.action := by
  obtain ⟨text, hx⟩ := Spec.exists_render?_eq_ok h.valid ht
  simp only [fault?, hx]

/-- Both statements are executed, each unless it is made to fail, and then the status is written. -/
lemma Provisionable.reconcile_eq (h : w.Provisionable k r) {policy : Policy}
    (hs : Stage.start policy (some r) = Stage.provision r) :
    let user := w.server.attempt (w.faults.find? "creating user")
      (.createUser r.spec.username r.spec.password)
    let database := user.2.attempt (w.faults.find? "creating database")
      (.createDatabase r.spec.database r.spec.username)
    ∃ w', w'.Provisionable k r ∧ w'.server = database.2 ∧ w'.writeFault = w.writeFault ∧
      w'.faults = w.faults ∧ w'.journal.updates = w.journal.updates ∧
      surroundings.reconcile policy k w = surroundings.carryOut
        (.write r (Stage.verdict (Stage.provisioningReport r.spec user.1 database.1))) w' := by
  intro user database
  have hu := execute_eq h.tracking (.createUser r.spec.username r.spec.password)
  rw [h.fault?_eq (by simp [Spec.statements])] at hu
  have h' : ((w.execute (.createUser r.spec.username r.spec.password)).2).Provisionable k r := by
    rw [hu]
    exact ⟨h.tracking, h.storesWrites, h.lookup, h.key, h.valid⟩
  have hd := execute_eq h'.tracking (.createDatabase r.spec.database r.spec.username)
  rw [h'.fault?_eq (by simp [Spec.statements]), hu] at hd
  have hl : surroundings.lookup k w = some r := h.lookup
  refine ⟨((w.execute (.createUser r.spec.username r.spec.password)).2.execute
    (.createDatabase r.spec.database r.spec.username)).2, ?_, ?_, ?_, ?_, ?_, ?_⟩
  · rw [hu, hd]
    exact ⟨h.tracking, h.storesWrites, h.lookup, h.key, h.valid⟩
  · rw [hu, hd]
    rfl
  · rw [hu, hd]
  · rw [hu, hd]
  · rw [hu, hd]
  · rw [Surroundings.reconcile, hl, hs, Stage.provision_valid h.valid,
      Surroundings.carryOut_provisioning]
    simp only [surroundings]
    rw [hu, hd]
    rfl

/-! ### The status write -/

lemma Provisionable.write (h : w.Provisionable k r) (s : Status) (hf : w.writeFault = none) :
    ∃ w', w.write (r.withStatus s) = (.ok (), w') ∧ w'.Provisionable k (r.withStatus s) ∧
      w'.server = w.server ∧ w'.writeFault = none ∧ w'.faults = w.faults ∧
      w'.journal.updates = w.journal.updates ++ [r.withStatus s] := by
  have hk : Key.ofResource (r.withStatus s) = .ok k := h.key
  have hw : w.write (r.withStatus s) = (.ok (), { w with
      objects := w.objects.insert k (r.withStatus s)
      journal := { w.journal with updates := w.journal.updates ++ [r.withStatus s] } }) := by
    simp [World.write, hf, h.storesWrites, put, hk]
  exact ⟨_, hw, ⟨h.tracking, h.storesWrites, by simp [World.lookup], hk, h.valid⟩, rfl, hf, rfl, rfl⟩

/-- A written status is recorded and cached, however the attempt ends. -/
lemma Provisionable.carryOut_write (h : w.Provisionable k r) (v : Verdict)
    (hf : w.writeFault = none) :
    ∃ w', surroundings.carryOut (.write r v) w = (Stage.ending v.attempt, w') ∧
      w'.Provisionable k (r.withStatus v.status) ∧ w'.server = w.server ∧ w'.writeFault = none ∧
      w'.faults = w.faults ∧ w'.journal.updates = w.journal.updates ++ [r.withStatus v.status] := by
  obtain ⟨w', hw, hr, hs, hf', hfs, hu⟩ := h.write v.status hf
  have hw' : surroundings.write (r.withStatus v.status) w = (.ok (), w') := hw
  simp only [Surroundings.carryOut_write, hw', Stage.answerTo, Surroundings.carryOut_conclude]
  cases v.attempt with
  | ok o => exact ⟨_, rfl, hr.publish r .synced, hs, hf', hfs, hu⟩
  | error f =>
    simp only [Stage.ending]
    split_ifs
    · exact ⟨_, rfl, hr, hs, hf', hfs, hu⟩
    · exact ⟨_, rfl, hr.publish r (.failed f), hs, hf', hfs, hu⟩

end Provisioner.World
