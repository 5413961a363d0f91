import Provisioner.Proofs.Reconcile.Basic

/-!
All that an attempt does, and how it ends.

The surroundings answer as they like, and from state to state. What an attempt does is told as the list
of its effects with the answers to them; from the resource that was looked up and these answers it is
clear what comes next and how the attempt ends.
-/

namespace Provisioner

/-- An effect of an attempt on its surroundings, with their answer. -/
inductive Effect where
  | executed (t : Sql.Statement) (answer : Except Failure Unit)
  /-- The whole resource is submitted. -/
  | written (r : Resource) (answer : Except Failure Unit)
  | published (r : Resource) (n : Notice)

namespace Effect

/-- The answer to an effect; an event has none. -/
def answer? : Effect → Option (Except Failure Unit)
  | .executed _ answer | .written _ answer => some answer
  | .published .. => none

/-- What is made known about an attempt with this result, and how it ends: a resource that turns out to
be deleted is gone, and nothing is said about it. -/
def closing (r : Resource) : Attempt → List Effect × Attempt
  | .ok o => ([.published r ⟨.normal, "Database synced successfully"⟩], .ok o)
  | .error f =>
    if f.refusalCode? = some 404 then ([], .ok .gone)
    else ([.published r ⟨.warning, "Failed to sync database: " ++ f.message⟩], .error f)

lemma answers_closing (r : Resource) (a : Attempt) : (closing r a).1.filterMap answer? = [] := by
  unfold closing
  split
  · rfl
  · split_ifs <;> rfl

end Effect

/-- What failed of the two statements, on one line. -/
def failureLine (user database : Except Failure Unit) : String :=
  "; ".intercalate <| [("creating user", user), ("creating database", database)].filterMap
    fun (action, answer) =>
      match answer with
      | .ok () => none
      | .error f => some ("error " ++ action ++ ": " ++ f.message)

/-- The status after the two statements. -/
def statusAfter : Except Failure Unit → Except Failure Unit → Status
  | .ok (), .ok () => ⟨.provisioned, "successful"⟩
  | user, database => ⟨.error, failureLine user database⟩

/-- Something is to be done for the resource. -/
def Resource.IsDue (policy : Policy) (r : Resource) : Prop :=
  r.progress = .unprovisioned ∨ r.progress = .error ∧ policy = .retry

/-- What an attempt does for the resource that was looked up, and how it ends. -/
inductive Course (policy : Policy) : Option Resource → List Effect → Attempt → Prop where
  | absent : Course policy none [] (.ok .gone)
  | provisioned {r : Resource} (h : r.progress = .provisioned) :
    Course policy (some r) [.published r ⟨.normal, "Database synced successfully"⟩]
      (.ok .alreadyProvisioned)
  | held {r : Resource} (h : r.progress = .error) (hold : policy = .hold) :
    Course policy (some r) [.published r ⟨.normal, "Database synced successfully"⟩]
      (.ok .heldInError)
  /-- No statement is made of an invalid spec. A failed write counts for more than that. -/
  | invalid {r : Resource} (h : r.IsDue policy) {message : String}
    (hspec : r.spec.validate = .error message) (write : Except Failure Unit) {result : Attempt}
    (hresult : result = do
      write
      throw (.invalidSpec message)) :
    Course policy (some r)
      (.written { r with status := some ⟨.error, message⟩ } write :: (Effect.closing r result).1)
      (Effect.closing r result).2
  /-- Both statements are executed, whatever the first one leads to. A failed write counts for more
  than they do, and the first of them for more than the second. -/
  | valid {r : Resource} (h : r.IsDue policy) (hspec : r.spec.validate = .ok ())
    (user database write : Except Failure Unit) {result : Attempt}
    (hresult : result = do
      write
      user
      database
      return .provisioned) :
    Course policy (some r)
      ([.executed (.createUser r.spec.username r.spec.password) user,
        .executed (.createDatabase r.spec.database r.spec.username) database,
        .written { r with status := some (statusAfter user database) } write] ++
          (Effect.closing r result).1)
      (Effect.closing r result).2

/-- The answers decide what is done and how it ends. -/
lemma Course.unique {policy : Policy} {x : Option Resource} {es es' : List Effect} {a a' : Attempt}
    (h : Course policy x es a) (h' : Course policy x es' a')
    (hanswers : es.filterMap Effect.answer? = es'.filterMap Effect.answer?) : es = es' ∧ a = a' := by
  cases h with
  | absent =>
    cases h'
    exact ⟨rfl, rfl⟩
  | provisioned hp =>
    cases h' with
    | provisioned => exact ⟨rfl, rfl⟩
    | held hp' => simp [hp] at hp'
    | invalid hd | valid hd => simp [Resource.IsDue, hp] at hd
  | held hp hold =>
    cases h' with
    | provisioned hp' => simp [hp] at hp'
    | held => exact ⟨rfl, rfl⟩
    | invalid hd | valid hd => simp [Resource.IsDue, hp, hold] at hd
  | invalid hd hspec write hresult =>
    cases h' with
    | provisioned hp => simp [Resource.IsDue, hp] at hd
    | held hp hold => simp [Resource.IsDue, hp, hold] at hd
    | invalid _ hspec' write' hresult' =>
      obtain rfl := Except.error.inj (hspec.symm.trans hspec')
      obtain rfl : write = write' := by
        simpa [Effect.answer?, Effect.answers_closing] using hanswers
      subst hresult hresult'
      exact ⟨rfl, rfl⟩
    | valid _ hspec' => simp [hspec] at hspec'
  | valid hd hspec user database write hresult =>
    cases h' with
    | provisioned hp => simp [Resource.IsDue, hp] at hd
    | held hp hold => simp [Resource.IsDue, hp, hold] at hd
    | invalid _ hspec' => simp [hspec] at hspec'
    | valid _ _ user' database' write' hresult' =>
      obtain ⟨rfl, rfl, rfl⟩ : user = user' ∧ database = database' ∧ write = write' := by
        simpa [Effect.answer?, Effect.answers_closing] using hanswers
      subst hresult hresult'
      exact ⟨rfl, rfl⟩

namespace Surroundings

variable {σ : Type}

/-! ### The effects of an attempt -/

/-- The same surroundings, with a list of all effects on them. -/
def recorded (e : Surroundings σ) : Surroundings (σ × List Effect) where
  lookup k s := e.lookup k s.1
  execute t s :=
    ((e.execute t s.1).1, (e.execute t s.1).2, s.2 ++ [.executed t (e.execute t s.1).1])
  write r s := ((e.write r s.1).1, (e.write r s.1).2, s.2 ++ [.written r (e.write r s.1).1])
  publish r n s := (e.publish r n s.1, s.2 ++ [.published r n])

lemma recorded_extends (e : Surroundings σ) : e.recorded.Extends e Prod.fst :=
  ⟨fun _ _ => rfl, fun _ _ => ⟨rfl, rfl⟩, fun _ _ => ⟨rfl, rfl⟩, fun _ _ _ => rfl⟩

variable (e : Surroundings σ)

/-- An attempt that comes to an end publishes its result. -/
lemma recorded_conclude (r : Resource) (a : Attempt) (s : σ × List Effect) :
    (e.recorded.carryOut (Stage.conclude r a) s).1 = (Effect.closing r a).2 ∧
      (e.recorded.carryOut (Stage.conclude r a) s).2.2 = s.2 ++ (Effect.closing r a).1 := by
  rw [carryOut_conclude]
  cases a with
  | ok o => exact ⟨rfl, rfl⟩
  | error f =>
    by_cases h : f.refusalCode? = some 404 <;>
      simp [h, Failure.isNotFound, Effect.closing, recorded, Notice.failed]

/-- The status is written, and then the attempt ends. -/
lemma recorded_write (r : Resource) (v : Verdict) (s : σ × List Effect) :
    let write := (e.write (r.withStatus v.status) s.1).1
    let result : Attempt := do
      write
      v.attempt
    (e.recorded.carryOut (.write r v) s).1 = (Effect.closing r result).2 ∧
      (e.recorded.carryOut (.write r v) s).2.2 =
        s.2 ++ .written (r.withStatus v.status) write :: (Effect.closing r result).1 := by
  intro write result
  have hresult : Stage.answerTo v (e.recorded.write (r.withStatus v.status) s).1 = result := by
    change Stage.answerTo v write = do
      write
      v.attempt
    cases write <;> rfl
  obtain ⟨hend, heffects⟩ :=
    e.recorded_conclude r result (e.recorded.write (r.withStatus v.status) s).2
  rw [carryOut_write, hresult]
  exact ⟨hend, heffects.trans (List.append_assoc ..)⟩

/-- The status and the result of the two statements. -/
lemma verdict_provisioningReport (s : Spec) (user database : Except Failure Unit) :
    Stage.verdict (Stage.provisioningReport s user database) =
      ⟨statusAfter user database, do
        user
        database
        return .provisioned⟩ := by
  rcases user with f | ⟨⟩ <;> rcases database with g | ⟨⟩ <;> rfl

lemma recorded_provision {policy : Policy} {r : Resource} (h : r.IsDue policy) (s : σ) :
    Course policy (some r) (e.recorded.carryOut (Stage.provision r) (s, [])).2.2
      (e.recorded.carryOut (Stage.provision r) (s, [])).1 := by
  cases hspec : r.spec.validate with
  | error message =>
    have hp : Stage.provision r = .write r ⟨⟨.error, message⟩, .error (.invalidSpec message)⟩ := by
      simp [Stage.provision, hspec]
    obtain ⟨hend, heffects⟩ := e.recorded_write r
      ⟨⟨.error, message⟩, .error (.invalidSpec message)⟩ (s, [])
    rw [hp, hend, heffects]
    exact .invalid h hspec _ rfl
  | ok _ =>
    set user := e.execute (.createUser r.spec.username r.spec.password) s
    set database := e.execute (.createDatabase r.spec.database r.spec.username) user.2
    let v : Verdict := ⟨statusAfter user.1 database.1, do
      user.1
      database.1
      return .provisioned⟩
    let before : List Effect := [.executed (.createUser r.spec.username r.spec.password) user.1,
      .executed (.createDatabase r.spec.database r.spec.username) database.1]
    have hprovision : e.recorded.carryOut (Stage.provision r) (s, []) =
        e.recorded.carryOut (.write r v) (database.2, before) := by
      rw [Stage.provision_valid hspec, carryOut_provisioning,
        show v = _ from (verdict_provisioningReport r.spec user.1 database.1).symm]
      rfl
    obtain ⟨hend, heffects⟩ := e.recorded_write r v (database.2, before)
    rw [hprovision, hend, heffects]
    exact .valid h hspec user.1 database.1 _ rfl

lemma recorded_start (policy : Policy) (x : Option Resource) (s : σ) :
    Course policy x (e.recorded.carryOut (.start policy x) (s, [])).2.2
      (e.recorded.carryOut (.start policy x) (s, [])).1 := by
  cases x with
  | none =>
    rw [Stage.start, carryOut]
    exact .absent
  | some r =>
    cases hp : r.progress with
    | provisioned =>
      simp only [Stage.start, hp]
      rw [carryOut]
      exact .provisioned hp
    | unprovisioned =>
      simp only [Stage.start, hp]
      exact e.recorded_provision (.inl hp) s
    | error =>
      cases policy with
      | hold =>
        simp only [Stage.start, hp]
        rw [carryOut]
        exact .held hp rfl
      | retry =>
        simp only [Stage.start, hp]
        exact e.recorded_provision (.inr ⟨hp, rfl⟩) s

/-- **The course of an attempt**: for every key and policy, and in whatever surroundings, the effects of
an attempt and the way it ends are one of the courses for the resource that was looked up, and the only
one with the answers that the surroundings gave. To keep a list of the effects changes nothing. -/
theorem reconcile_takes_course (policy : Policy) (k : Key) (s : σ) :
    let r := e.recorded.reconcile policy k (s, [])
    (r.1, r.2.1) = e.reconcile policy k s ∧ Course policy (e.lookup k s) r.2.2 r.1 ∧
      ∀ es a, Course policy (e.lookup k s) es a →
        es.filterMap Effect.answer? = r.2.2.filterMap Effect.answer? → es = r.2.2 ∧ a = r.1 := by
  intro r
  obtain ⟨hend, hstate⟩ := e.recorded_extends.reconcile policy k (s, [])
  have hcourse : Course policy (e.lookup k s) r.2.2 r.1 := e.recorded_start policy (e.lookup k s) s
  exact ⟨Prod.ext hend hstate, hcourse, fun es a h hanswers => h.unique hcourse hanswers⟩

end Surroundings

end Provisioner
