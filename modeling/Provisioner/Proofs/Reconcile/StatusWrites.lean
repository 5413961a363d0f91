import Provisioner.Proofs.Reconcile.Provisioning

/-!
Repeated reconcile calls while the status cannot be written.

The two statements are executed before the write. A call whose write fails leaves them done and the
resource unprovisioned, and the next call does them again on a server that refuses both.
-/

namespace Provisioner.World

/-- A reconcile call that finds the writer failing like that, or working. -/
def call (policy : Policy) (k : Key) (w : World) (fault : Option Failure) : World :=
  (surroundings.reconcile policy k { w with writeFault := fault }).2

def calls (policy : Policy) (k : Key) (w : World) (faults : List (Option Failure)) : World :=
  faults.foldl (call policy k) w

/-- A valid resource is cached under its key, the server tracks what it is told, and nothing but
the server's own checks makes a statement fail. -/
structure Ready (w : World) (k : Key) (r : Resource) : Prop where
  tracking : w.tracking = true
  storesWrites : w.storesWrites = true
  faultless : w.Faultless
  lookup : w.lookup k = some r
  key : Key.ofResource r = .ok k
  valid : r.spec.validate = .ok ()

/-- Both names of the spec are taken. -/
def Made (w : World) (s : Spec) : Prop :=
  w.server.hasRole s.username = true ∧ w.server.hasDatabase s.database = true

/-- Neither name of the spec is taken. -/
def Fresh (w : World) (s : Spec) : Prop :=
  w.server.hasRole s.username = false ∧ w.server.hasDatabase s.database = false

variable {w : World} {k : Key} {r : Resource} (policy : Policy)

/-! ### The statements -/

lemma Ready.provisionable (h : w.Ready k r) : w.Provisionable k r := ⟨h.1, h.2, h.4, h.5, h.6⟩

lemma Provisionable.ready (h : w.Provisionable k r) (hf : w.Faultless) : w.Ready k r :=
  ⟨h.1, h.2, hf, h.3, h.4, h.5⟩

/-- Up to the status write a call changes only the server and the list of statements. -/
lemma Ready.reconcile_eq (h : w.Ready k r)
    (hs : Stage.start policy (some r) = Stage.provision r) :
    let user := w.server.run (.createUser r.spec.username r.spec.password)
    let database := user.2.run (.createDatabase r.spec.database r.spec.username)
    ∃ w', w'.Ready k r ∧ w'.server = database.2 ∧ w'.writeFault = w.writeFault ∧
      w'.journal.updates = w.journal.updates ∧
      surroundings.reconcile policy k w = surroundings.carryOut
        (.write r (Stage.verdict (Stage.provisioningReport r.spec user.1 database.1))) w' := by
  obtain ⟨w', h', hserver, hf, hfs, hu, e⟩ := h.provisionable.reconcile_eq hs
  rw [h.faultless, h.faultless] at hserver e
  exact ⟨w', h'.ready (by rw [Faultless, hfs]; exact h.faultless), hserver, hf, hu, e⟩

/-! ### The status write -/

lemma carryOut_write_failing {f : Failure} (v : Verdict) (hf : w.writeFault = some f)
    (hn : f.isNotFound = false) :
    surroundings.carryOut (.write r v) w = (.error f, w.publish r (.failed f)) := by
  have hw : surroundings.write (r.withStatus v.status) w = (.error f, w) := by
    simp [surroundings, write, hf]
  rw [Surroundings.carryOut_write, hw, Stage.answerTo, Surroundings.carryOut_conclude]
  simp [hn, surroundings]

lemma Ready.publish (h : w.Ready k r) (r' : Resource) (n : Notice) :
    (w.publish r' n).Ready k r := (h.provisionable.publish r' n).ready h.faultless

/-- A written status is recorded and cached, however the attempt ends. -/
lemma Ready.carryOut_write (h : w.Ready k r) (v : Verdict) (hf : w.writeFault = none) :
    let w' := (surroundings.carryOut (.write r v) w).2
    w'.Ready k (r.withStatus v.status) ∧ w'.server = w.server ∧
      w'.journal.updates = w.journal.updates ++ [r.withStatus v.status] := by
  obtain ⟨w', e, hr, hs, -, hfs, hu⟩ := h.provisionable.carryOut_write v hf
  rw [e]
  exact ⟨hr.ready (by rw [Faultless, hfs]; exact h.faultless), hs, hu⟩

/-! ### One call -/

def success : Status := ⟨.provisioned, Stage.provisionedMessage⟩

/-- The status of a resource both of whose names were refused, the role's refusal first. -/
def refused (s : Spec) : Status where
  progress := .error
  message :=
    Sql.Casualty.message ⟨.createUser s.username s.password, Sql.Server.takenRole s.username⟩ ++
      "; " ++ Sql.Casualty.message
        ⟨.createDatabase s.database s.username, Sql.Server.takenDatabase s.database⟩

lemma Fresh.run {s : Spec} (h : w.Fresh s) :
    let user := w.server.run (.createUser s.username s.password)
    let database := user.2.run (.createDatabase s.database s.username)
    (Stage.verdict (Stage.provisioningReport s user.1 database.1)).status = success ∧
      database.2.hasRole s.username = true ∧ database.2.hasDatabase s.database = true := by
  obtain ⟨hr, hd⟩ := h
  intro user database
  have hu1 : user.1 = .ok () := Sql.Server.run_createUser_ok hr s.password
  have hur : user.2.hasRole s.username = true := by simp [user, Sql.Server.hasRole_run]
  have hud : user.2.hasDatabase s.database = false := by simp [user, Sql.Server.hasDatabase_run, hd]
  have hd1 : database.1 = .ok () := Sql.Server.run_createDatabase_ok hur hud
  refine ⟨?_, ?_, ?_⟩
  · rw [hu1, hd1]
    rfl
  · simp [database, Sql.Server.hasRole_run, hur]
  · simp [database, Sql.Server.hasDatabase_run, hur]

lemma Made.run {s : Spec} (h : w.Made s) :
    let user := w.server.run (.createUser s.username s.password)
    let database := user.2.run (.createDatabase s.database s.username)
    (Stage.verdict (Stage.provisioningReport s user.1 database.1)).status = refused s ∧
      database.2 = w.server := by
  have hu : w.server.run (.createUser s.username s.password) =
      (.error (Sql.Server.takenRole s.username), w.server) := by simp [Sql.Server.run, h.1]
  have hd : w.server.run (.createDatabase s.database s.username) =
      (.error (Sql.Server.takenDatabase s.database), w.server) := by
    simp [Sql.Server.run, h.1, h.2]
  intro user database
  simp only [user, database, hu, hd]
  exact ⟨rfl, trivial⟩

lemma Ready.of_writeFault (h : w.Ready k r) (fault : Option Failure) :
    Ready { w with writeFault := fault } k r := ⟨h.1, h.2, h.3, h.4, h.5, h.6⟩

/-- A call that cannot write its status has executed the statements all the same. -/
lemma Ready.call_failing {f : Failure} (h : w.Ready k r) (hp : r.progress = .unprovisioned)
    (hm : w.Fresh r.spec ∨ w.Made r.spec) (hn : f.isNotFound = false) :
    (w.call policy k (some f)).Ready k r ∧ (w.call policy k (some f)).Made r.spec ∧
      (w.call policy k (some f)).journal.updates = w.journal.updates := by
  obtain ⟨w', hr, hs, hf, hu, e⟩ := (h.of_writeFault (some f)).reconcile_eq policy
    (by simp [Stage.start, hp])
  rw [carryOut_write_failing _ hf hn] at e
  rw [call, e]
  have hw : w'.Made r.spec := by
    rw [Made, hs]
    rcases hm with hm | hm
    · exact (Fresh.run hm).2
    · rw [(Made.run hm).2]
      exact hm
  exact ⟨hr.publish r (.failed f), hw, hu⟩

lemma Ready.call_fresh (h : w.Ready k r) (hp : r.progress = .unprovisioned)
    (hm : w.Fresh r.spec) :
    (w.call policy k none).Ready k (r.withStatus success) ∧
      (w.call policy k none).journal.updates = w.journal.updates ++ [r.withStatus success] := by
  obtain ⟨w', hr, -, hf, hu, e⟩ := (h.of_writeFault none).reconcile_eq policy
    (by simp [Stage.start, hp])
  obtain ⟨hr', -, hu'⟩ := hr.carryOut_write _ hf
  rw [call, e, hu', hu, (Fresh.run hm).1]
  exact ⟨(Fresh.run hm).1 ▸ hr', rfl⟩

lemma Ready.call_made (h : w.Ready k r)
    (hp : Stage.start policy (some r) = Stage.provision r) (hm : w.Made r.spec) :
    (w.call policy k none).Ready k (r.withStatus (refused r.spec)) ∧
      (w.call policy k none).Made r.spec ∧ (w.call policy k none).journal.updates =
        w.journal.updates ++ [r.withStatus (refused r.spec)] := by
  obtain ⟨w', hr, hs, hf, hu, e⟩ := (h.of_writeFault none).reconcile_eq policy hp
  obtain ⟨hr', hs', hu'⟩ := hr.carryOut_write _ hf
  rw [call, e, hu', hu, (Made.run hm).1, Made, hs', hs, (Made.run hm).2]
  exact ⟨(Made.run hm).1 ▸ hr', hm, rfl⟩

/-! ### Many calls -/

/-- The calls whose write fails leave the names taken and nothing recorded. -/
lemma Ready.calls_failing {fs : List Failure} (h : w.Ready k r)
    (hp : r.progress = .unprovisioned) (hm : w.Made r.spec) (hn : ∀ f ∈ fs, f.isNotFound = false) :
    (w.calls policy k (fs.map some)).Ready k r ∧ (w.calls policy k (fs.map some)).Made r.spec ∧
      (w.calls policy k (fs.map some)).journal.updates = w.journal.updates := by
  induction fs generalizing w with
  | nil => exact ⟨h, hm, rfl⟩
  | cons f fs ih =>
    obtain ⟨h', hm', hu⟩ := h.call_failing policy hp (.inr hm) (hn f (by simp))
    rw [← hu]
    exact ih h' hm' fun g hg => hn g (by simp [hg])

/-- The resource has a status that no further call changes. -/
structure Settled (w : World) (k : Key) (r : Resource) : Prop where
  ready : w.Ready k r
  status : r.status = some success ∨ r.status = some (refused r.spec) ∧ w.Made r.spec

/-- At most the same status is recorded once more. -/
lemma Settled.call (h : w.Settled k r) :
    (w.call policy k none).Settled k r ∧
      ∃ n, (w.call policy k none).journal.updates = w.journal.updates ++ List.replicate n r := by
  obtain ⟨h, hr⟩ := h
  have hl : surroundings.lookup k { w with writeFault := none } = some r := h.lookup
  -- without a write the call ends in an event
  have hp : ∀ o, Stage.start policy (some r) = .publish r (.ok o) →
      (w.call policy k none).Ready k r ∧ (w.call policy k none).server = w.server ∧
        (w.call policy k none).journal.updates = w.journal.updates := by
    intro o ho
    rw [World.call, Surroundings.reconcile, hl, ho, Surroundings.carryOut]
    exact ⟨(h.of_writeFault none).publish r _, rfl, rfl⟩
  rcases hr with hr | ⟨hr, hm⟩
  · obtain ⟨h', -, hu⟩ := hp .alreadyProvisioned (by simp [Stage.start, Resource.progress, hr, success])
    exact ⟨⟨h', .inl hr⟩, 0, by simpa using hu⟩
  · cases policy with
    | hold =>
      obtain ⟨h', hs, hu⟩ := hp .heldInError
        (by simp [Stage.start, Resource.progress, hr, refused])
      exact ⟨⟨h', .inr ⟨hr, by rwa [Made, hs]⟩⟩, 0, by simpa using hu⟩
    | retry =>
      obtain ⟨h', hm', hu⟩ := h.call_made .retry
        (by simp [Stage.start, Resource.progress, hr, refused]) hm
      have he : r.withStatus (refused r.spec) = r := by rw [Resource.withStatus, ← hr]
      rw [he] at h' hu
      exact ⟨⟨h', .inr ⟨hr, hm'⟩⟩, 1, hu⟩

lemma Settled.calls (h : w.Settled k r) (m : Nat) :
    (w.calls policy k (List.replicate m none)).Settled k r ∧
      ∃ n, (w.calls policy k (List.replicate m none)).journal.updates =
        w.journal.updates ++ List.replicate n r := by
  induction m generalizing w with
  | zero => exact ⟨h, 0, by simp [World.calls]⟩
  | succ m ih =>
    obtain ⟨h', n, hn⟩ := h.call policy
    obtain ⟨h'', n', hn'⟩ := ih h'
    refine ⟨h'', n + n', hn'.trans ?_⟩
    rw [hn, List.append_assoc, List.replicate_append_replicate]

/-- What becomes of a resource whose first calls could not write a status. -/
def finalStatus (fs : List Failure) (s : Spec) : Status := if fs = [] then success else refused s

/-- The first write that succeeds settles the matter. -/
lemma Ready.calls_first (h : w.Ready k r) (hp : r.progress = .unprovisioned) (hf : w.Fresh r.spec)
    (fs : List Failure) (hn : ∀ f ∈ fs, f.isNotFound = false) :
    let w' := (w.calls policy k (fs.map some)).call policy k none
    w'.Settled k (r.withStatus (finalStatus fs r.spec)) ∧
      w'.journal.updates = w.journal.updates ++ [r.withStatus (finalStatus fs r.spec)] := by
  cases fs with
  | nil =>
    obtain ⟨h', hu⟩ := h.call_fresh policy hp hf
    exact ⟨⟨h', .inl rfl⟩, hu⟩
  | cons f fs =>
    -- the first of the calls takes the names
    obtain ⟨h₁, hm₁, hu₁⟩ := h.call_failing policy hp (.inl hf) (hn f (by simp))
    obtain ⟨h₂, hm₂, hu₂⟩ := h₁.calls_failing policy hp hm₁
      fun g hg => hn g (List.mem_cons_of_mem f hg)
    obtain ⟨h', hm', hu⟩ := h₂.call_made policy (by simp [Stage.start, hp]) hm₂
    rw [hu₂, hu₁] at hu
    exact ⟨⟨h', .inr ⟨rfl, hm'⟩⟩, hu⟩

/-- **Interrupted provisioning**: after any number of calls that cannot write a status and at least
one that can, the resource is provisioned and no error is recorded exactly if there was no
interrupted call; if there was one, all that is ever recorded is that both names were refused. -/
theorem calls_settle (h : w.Ready k r) (hp : r.progress = .unprovisioned) (hf : w.Fresh r.spec)
    (fs : List Failure) (hn : ∀ f ∈ fs, f.isNotFound = false) (m : Nat) :
    let w' := w.calls policy k (fs.map some ++ List.replicate (m + 1) none)
    let r' := r.withStatus (finalStatus fs r.spec)
    w'.lookup k = some r' ∧
      (∃ n, w'.journal.updates = w.journal.updates ++ List.replicate (n + 1) r') ∧
      ((w'.lookup k).map Resource.progress = some .provisioned ∧
        (∀ u ∈ w'.journal.updates.drop w.journal.updates.length, u.progress ≠ .error) ↔
          fs = []) := by
  intro w' r'
  have hw : w' = ((w.calls policy k (fs.map some)).call policy k none).calls policy k
      (List.replicate m none) := by
    simp only [w', calls, List.foldl_append, List.replicate_succ, List.foldl_cons]
  obtain ⟨hs, hu⟩ := h.calls_first policy hp hf fs hn
  obtain ⟨hs', n, hn'⟩ := hs.calls policy m
  rw [← hw] at hs' hn'
  have hl : w'.lookup k = some r' := hs'.ready.lookup
  have hu' : w'.journal.updates = w.journal.updates ++ List.replicate (n + 1) r' := by
    rw [hn', hu, List.append_assoc, List.replicate_succ, List.singleton_append]
  refine ⟨hl, ⟨n, hu'⟩, ?_⟩
  rw [hl, hu', List.drop_left]
  by_cases hfs : fs = []
  · simp [r', finalStatus, hfs, Resource.progress, Resource.withStatus, success]
  · simp [r', finalStatus, hfs, Resource.progress, Resource.withStatus, refused]

/-! ### One conflict -/

lemma solo_ready (hk : Key.ofResource r = .ok k) (hv : r.spec.validate = .ok ()) :
    (solo k r).Ready k r :=
  ⟨rfl, rfl, fun _ => rfl, by simp [solo, World.lookup], hk, hv⟩

def conflict : Failure := .api (.refused { reason := "Conflict", code := 409 })

/-- Two conflicts and then a working writer. -/
theorem calls_settle_orders :
    let w := solo ⟨"shop", "orders"⟩ orders
    let w' := w.calls .hold ⟨"shop", "orders"⟩ [some conflict, some conflict, none]
    w'.lookup ⟨"shop", "orders"⟩ = some (orders.withStatus (refused orders.spec)) :=
  (calls_settle .hold (solo_ready rfl rfl) rfl ⟨rfl, rfl⟩ [conflict, conflict] (by decide) 0).1

/-- One conflict is enough for a resource to end in error. -/
theorem conflict_leads_to_error :
    let k : Key := ⟨"shop", "orders"⟩
    let w := solo k orders
    w.Ready k orders ∧ orders.progress = .unprovisioned ∧ w.Fresh orders.spec ∧
      conflict.isNotFound = false ∧
      let w' := w.calls .hold k [some conflict, none]
      (w'.lookup k).map Resource.progress = some .error ∧
        w'.journal.updates.map Resource.progress = [.error] := by
  intro k w
  have hr : w.Ready k orders := solo_ready rfl rfl
  have hf : w.Fresh orders.spec := ⟨rfl, rfl⟩
  refine ⟨hr, rfl, hf, rfl, ?_⟩
  obtain ⟨hs, hu⟩ := hr.calls_first .hold rfl hf [conflict] (by decide)
  intro w'
  have hl : w'.lookup k = _ := hs.ready.lookup
  have hu : w'.journal.updates = _ := hu
  rw [hl, hu]
  exact ⟨rfl, rfl⟩

end Provisioner.World
