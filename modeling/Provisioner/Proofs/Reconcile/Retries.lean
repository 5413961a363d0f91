import Provisioner.Proofs.Reconcile.StatusWrites

/-!
Repeated reconcile calls under the policy that provisions again after an error, while statements are
made to fail.

A role that is there is refused from then on. So the first call in which the role's creation is let
through decides: either that call creates the database too, or no later call succeeds.
-/

namespace Provisioner

/-! ### What two statements lead to -/

namespace Stage

variable (s : Spec) (f : Failure)

lemma verdict_created :
    verdict (provisioningReport s (.ok ()) (.ok ())) = ⟨World.success, .ok .provisioned⟩ := rfl

lemma verdict_user_failed (database : Except Failure Unit) :
    let v := verdict (provisioningReport s (.error f) database)
    v.status.progress = .error ∧ v.attempt = .error f := by
  cases database <;> exact ⟨rfl, rfl⟩

lemma verdict_database_failed :
    (verdict (provisioningReport s (.ok ()) (.error f))).status.progress = .error := rfl

end Stage

/-! ### How far the calls get -/

/-- How far calls whose statements are made to fail have brought a resource. -/
inductive Standing where
  /-- Neither name is taken. -/
  | untried
  /-- The role is taken, and the status is an error. -/
  | stuck
  | done
  deriving Repr, DecidableEq

namespace Standing

/-- The creation of the role is not made to fail. -/
def admitsUser (faults : Table String Failure) : Bool := (faults.find? "creating user").isNone

/-- The creation of the database is not made to fail. -/
def admitsDatabase (faults : Table String Failure) : Bool :=
  (faults.find? "creating database").isNone

/-- A resource gets somewhere only while nothing was created for it. -/
def next (p : Standing) (faults : Table String Failure) : Standing :=
  match p with
  | .untried =>
    if admitsUser faults then (if admitsDatabase faults then .done else .stuck) else .untried
  | .stuck => .stuck
  | .done => .done

/-- How a call ends in which no statement is made to fail. -/
def outcome (s : Spec) : Standing → Attempt
  | .untried => .ok .provisioned
  | .stuck => .error (Sql.Server.takenRole s.username)
  | .done => .ok .alreadyProvisioned

lemma foldl_next_of_ne {p : Standing} (h : p ≠ .untried) (calls : List (Table String Failure)) :
    calls.foldl next p = p := by
  induction calls with
  | nil => rfl
  | cons faults calls ih =>
    have hp : p.next faults = p := by
      cases p with
      | untried => exact absurd rfl h
      | stuck => rfl
      | done => rfl
    rw [List.foldl_cons, hp, ih]

/-- The first call that lets the role through decides. -/
lemma foldl_next_untried (calls : List (Table String Failure)) :
    calls.foldl next .untried =
      match calls.find? admitsUser with
      | none => .untried
      | some first => if admitsDatabase first then .done else .stuck := by
  induction calls with
  | nil => rfl
  | cons faults calls ih =>
    rw [List.foldl_cons]
    by_cases hu : admitsUser faults = true
    · have hn : next .untried faults = if admitsDatabase faults then .done else .stuck := by
        simp [next, hu]
      have hne : next .untried faults ≠ .untried := by
        rw [hn]
        split_ifs <;> simp
      rw [foldl_next_of_ne hne, hn, List.find?_cons_of_pos hu]
    · have hn : next .untried faults = .untried := by simp [next, hu]
      rw [hn, ih, List.find?_cons_of_neg hu]

end Standing

namespace World

open Standing

/-- A reconcile call that finds these statements made to fail. -/
def retry (k : Key) (w : World) (faults : Table String Failure) : Attempt × World :=
  surroundings.reconcile .retry k { w with faults }

def retries (k : Key) (w : World) (calls : List (Table String Failure)) : World :=
  calls.foldl (fun w faults => (w.retry k faults).2) w

/-- The names and the status are as the standing has it. -/
def Agrees (w : World) (r : Resource) : Standing → Prop
  | .untried => w.Fresh r.spec ∧ r.progress ≠ .provisioned
  | .stuck => w.server.hasRole r.spec.username = true ∧ r.progress = .error
  | .done => r.progress = .provisioned

/-- A resource that has come as far as that, in a world that takes status writes. -/
structure Stands (w : World) (k : Key) (r : Resource) (p : Standing) : Prop where
  provisionable : w.Provisionable k r
  writable : w.writeFault = none
  agrees : w.Agrees r p

variable {w : World} {k : Key} {r : Resource} {p : Standing}

/-! ### One call -/

/-- A resource that is not provisioned is provisioned again. -/
lemma Provisionable.retry_eq (h : w.Provisionable k r) (hf : w.writeFault = none)
    (hp : r.progress ≠ .provisioned) (faults : Table String Failure) :
    let user := w.server.attempt (faults.find? "creating user")
      (.createUser r.spec.username r.spec.password)
    let database := user.2.attempt (faults.find? "creating database")
      (.createDatabase r.spec.database r.spec.username)
    let v := Stage.verdict (Stage.provisioningReport r.spec user.1 database.1)
    ∃ w', w.retry k faults = (Stage.ending v.attempt, w') ∧
      w'.Provisionable k (r.withStatus v.status) ∧ w'.writeFault = none ∧
      w'.server = database.2 := by
  intro user database v
  have hs : Stage.start .retry (some r) = Stage.provision r := by
    cases hr : r.progress with
    | provisioned => exact absurd hr hp
    | error => simp [Stage.start, hr]
    | unprovisioned => simp [Stage.start, hr]
  obtain ⟨w₁, h₁, hs₁, hf₁, -, -, e₁⟩ := (h.of_faults faults w.writeFault).reconcile_eq hs
  obtain ⟨w₂, e₂, h₂, hs₂, hf₂, -, -⟩ := h₁.carryOut_write v (hf₁.trans hf)
  exact ⟨w₂, e₁.trans e₂, h₂, hf₂, hs₂.trans hs₁⟩

/-- A resource that is provisioned is left alone. -/
lemma Stands.retry_done (h : w.Stands k r .done) (faults : Table String Failure) :
    (w.retry k faults).1 = .ok .alreadyProvisioned ∧ (w.retry k faults).2.Stands k r .done := by
  have hp : r.progress = .provisioned := h.agrees
  have hs : Stage.start .retry (some r) = .publish r (.ok .alreadyProvisioned) := by
    simp [Stage.start, hp]
  have hl : surroundings.lookup k { w with faults } = some r := h.provisionable.lookup
  rw [retry, Surroundings.reconcile, hl, hs, Surroundings.carryOut]
  exact ⟨rfl, (h.provisionable.of_faults faults w.writeFault).publish r _, h.writable, hp⟩

/-- Nothing was created yet: the statements are executed on a server that has neither name. -/
lemma Stands.retry_untried (h : w.Stands k r .untried) (faults : Table String Failure) :
    (∃ s, (w.retry k faults).2.Stands k (r.withStatus s) (next .untried faults)) ∧
      (admitsUser faults = true → admitsDatabase faults = true →
        (w.retry k faults).1 = .ok .provisioned) := by
  obtain ⟨⟨hr, hd⟩, hp⟩ := h.agrees
  obtain ⟨w', e, h', hf', hs'⟩ := h.provisionable.retry_eq h.writable hp faults
  cases hu : faults.find? "creating user" with
  | some f =>
    obtain ⟨f', hf⟩ := Sql.Server.attempt_createDatabase_of_missing hr
      (faults.find? "creating database") r.spec.database
    rw [hu, Sql.Server.attempt_some, hf] at e h' hs'
    have hv := (Stage.verdict_user_failed r.spec f (.error f')).1
    have hn : next .untried faults = .untried := by simp [next, admitsUser, hu]
    rw [e, hn]
    refine ⟨⟨_, h', hf', ⟨?_, ?_⟩, ?_⟩, fun hx => by simp [admitsUser, hu] at hx⟩
    · rw [hs']
      exact hr
    · rw [hs']
      exact hd
    · exact fun hx => by cases hv.symm.trans hx
  | none =>
    have hrun := Sql.Server.run_createUser_ok hr r.spec.password
    have hrole : (w.server.run (.createUser r.spec.username r.spec.password)).2.hasRole
        r.spec.username = true := by simp [Sql.Server.hasRole_run]
    have hdb : (w.server.run (.createUser r.spec.username r.spec.password)).2.hasDatabase
        r.spec.database = false := by simp [Sql.Server.hasDatabase_run, hd]
    rw [hu, Sql.Server.attempt_none] at e h' hs'
    rw [hrun] at e h'
    cases hx : faults.find? "creating database" with
    | some f =>
      rw [hx, Sql.Server.attempt_some] at e h' hs'
      have hv := Stage.verdict_database_failed r.spec f
      have hn : next .untried faults = .stuck := by simp [next, admitsUser, admitsDatabase, hu, hx]
      rw [e, hn]
      refine ⟨⟨_, h', hf', ?_, hv⟩, fun _ hy => by simp [admitsDatabase, hx] at hy⟩
      rw [hs']
      exact hrole
    | none =>
      have hok := Sql.Server.run_createDatabase_ok hrole hdb
      rw [hx, Sql.Server.attempt_none, hok, Stage.verdict_created] at e h'
      have hn : next .untried faults = .done := by simp [next, admitsUser, admitsDatabase, hu, hx]
      rw [e, hn]
      exact ⟨⟨_, h', hf', rfl⟩, fun _ _ => rfl⟩

/-- The role is refused, and whatever becomes of the database, the status is an error again. -/
lemma Stands.retry_stuck (h : w.Stands k r .stuck) (faults : Table String Failure) :
    (∃ s, (w.retry k faults).2.Stands k (r.withStatus s) .stuck) ∧
      (admitsUser faults = true →
        (w.retry k faults).1 = .error (Sql.Server.takenRole r.spec.username)) := by
  obtain ⟨hrole, hp⟩ := h.agrees
  obtain ⟨w', e, h', hf', hs'⟩ := h.provisionable.retry_eq h.writable (by simp [hp]) faults
  obtain ⟨f, hu, hf⟩ := Sql.Server.attempt_createUser_of_taken hrole
    (faults.find? "creating user") r.spec.password
  rw [hu] at e h' hs'
  obtain ⟨hv, ha⟩ := Stage.verdict_user_failed r.spec f (w.server.attempt
    (faults.find? "creating database") (.createDatabase r.spec.database r.spec.username)).1
  rw [e]
  refine ⟨⟨_, h', hf', ?_, hv⟩, fun hx => ?_⟩
  · rw [hs']
    cases faults.find? "creating database" with
    | none => simp [Sql.Server.hasRole_run, hrole]
    | some f' => exact hrole
  · rw [ha, hf (by simpa [admitsUser] using hx)]
    rfl

/-! ### Many calls -/

lemma Stands.retry (h : w.Stands k r p) (faults : Table String Failure) :
    (∃ r', r'.spec = r.spec ∧ (w.retry k faults).2.Stands k r' (p.next faults)) ∧
      (admitsUser faults = true → admitsDatabase faults = true →
        (w.retry k faults).1 = p.outcome r.spec) := by
  cases p with
  | untried =>
    obtain ⟨⟨s, hs⟩, ho⟩ := h.retry_untried faults
    exact ⟨⟨r.withStatus s, rfl, hs⟩, ho⟩
  | stuck =>
    obtain ⟨⟨s, hs⟩, ho⟩ := h.retry_stuck faults
    exact ⟨⟨r.withStatus s, rfl, hs⟩, fun hu _ => ho hu⟩
  | done =>
    obtain ⟨ho, hs⟩ := h.retry_done faults
    exact ⟨⟨r, rfl, hs⟩, fun _ _ => ho⟩

lemma Stands.retries (h : w.Stands k r p) (calls : List (Table String Failure)) :
    ∃ r', r'.spec = r.spec ∧ (w.retries k calls).Stands k r' (calls.foldl next p) := by
  induction calls generalizing w r p with
  | nil => exact ⟨r, rfl, h⟩
  | cons faults calls ih =>
    obtain ⟨⟨r₁, hr₁, h₁⟩, -⟩ := h.retry faults
    obtain ⟨r₂, hr₂, h₂⟩ := ih h₁
    exact ⟨r₂, hr₂.trans hr₁, h₂⟩

/-- **Trying again**: after any calls in which statements were made to fail, the next call in which
none is succeeds exactly if the resource was provisioned from the start, or the first call that let
the role be created, if there was one, let the database be created too. Otherwise the role is
refused as already there. -/
theorem retries_recover_iff (h : w.Provisionable k r) (hw : w.writeFault = none)
    (hf : w.Fresh r.spec) (calls : List (Table String Failure)) (last : Table String Failure)
    (hu : admitsUser last = true) (hd : admitsDatabase last = true) :
    let outcome := ((w.retries k calls).retry k last).1
    (outcome = .ok .provisioned ∨ outcome = .ok .alreadyProvisioned ↔
      r.progress = .provisioned ∨
        ∀ first, calls.find? admitsUser = some first → admitsDatabase first = true) ∧
    (outcome = .ok .provisioned ∨ outcome = .ok .alreadyProvisioned ∨
      outcome = .error (Sql.Server.takenRole r.spec.username)) := by
  intro outcome
  by_cases hp : r.progress = .provisioned
  · have hs : w.Stands k r .done := ⟨h, hw, hp⟩
    obtain ⟨r', hr', hs'⟩ := hs.retries calls
    rw [foldl_next_of_ne (by simp)] at hs'
    have ho : outcome = .ok .alreadyProvisioned := (hs'.retry last).2 hu hd
    simp [ho, hp]
  · have hs : w.Stands k r .untried := ⟨h, hw, hf, hp⟩
    obtain ⟨r', hr', hs'⟩ := hs.retries calls
    have ho : outcome = (calls.foldl next .untried).outcome r.spec := by
      rw [← hr']
      exact (hs'.retry last).2 hu hd
    rw [foldl_next_untried] at ho
    cases hc : calls.find? admitsUser with
    | none =>
      rw [hc] at ho
      simp [ho, Standing.outcome]
    | some first =>
      rw [hc] at ho
      cases ha : admitsDatabase first with
      | true => simp [ho, Standing.outcome, ha]
      | false => simp [ho, Standing.outcome, ha, hp]

/-! ### A role without its database -/

def timeout : Failure := .connection "timeout"

def userFails : Table String Failure := ({} : Table String Failure).insert "creating user" timeout

def databaseFails : Table String Failure :=
  ({} : Table String Failure).insert "creating database" timeout

/-- No call lets the role be created before the last one, which then creates both. -/
theorem retries_recover_orders :
    let k : Key := ⟨"shop", "orders"⟩
    let outcome := (((solo k orders).retries k [userFails, userFails]).retry k {}).1
    outcome = .ok .provisioned ∨ outcome = .ok .alreadyProvisioned :=
  ((retries_recover_iff (solo_ready rfl rfl).provisionable rfl ⟨rfl, rfl⟩ [userFails, userFails]
    {} rfl rfl).1).2 (.inr fun _ hfirst => by cases hfirst)

/-- One call that creates the role alone, and every later call is refused. -/
theorem role_alone_never_recovers :
    let k : Key := ⟨"shop", "orders"⟩
    let w := solo k orders
    w.Provisionable k orders ∧ w.writeFault = none ∧ w.Fresh orders.spec ∧
      ((w.retries k [databaseFails]).retry k {}).1 = .error (Sql.Server.takenRole "clerk") := by
  intro k w
  have hr : w.Provisionable k orders := (solo_ready rfl rfl).provisionable
  have hf : w.Fresh orders.spec := ⟨rfl, rfl⟩
  have hs : w.Stands k orders .untried := ⟨hr, rfl, hf, by decide⟩
  refine ⟨hr, rfl, hf, ?_⟩
  obtain ⟨r', hr', hs'⟩ := hs.retries [databaseFails]
  have ho := (hs'.retry {}).2 rfl rfl
  rw [hr'] at ho
  exact ho

end World

end Provisioner
