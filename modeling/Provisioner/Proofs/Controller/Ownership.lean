import Provisioner.Proofs.Controller.Isolation
import Provisioner.Proofs.Controller.Origins

/-!
Whether a status tells the truth.

A resource is recorded as provisioned only after its database was created for its role. Both stay as
long as no deletion is taken up that names one of them; and whatever is on the server that was not
there at the beginning is named by a resource for which an attempt was made.
-/

namespace Provisioner

open Occurrence

namespace View

variable {v v' : View} {h : List Occurrence} {o : Option Occurrence}

/-! ### What comes to the server -/

/-- What makes a name appear on the server is a statement that a worker executes for a resource. -/
lemma Sound.created (hs : v.Sound h) (ht : v.Step o v') :
    v'.world.server = v.world.server ∨
    ∃ t, v'.world.server = (v.world.server.run t).2 ∧
      ((∃ d : Resource, t ∈ (Surroundings.cleanup d.spec).remaining) ∨
        ∃ i r b, (v.worker i).stage? = some (.execute r b) ∧
          t ∈ (Stage.provisioning r.spec).remaining) := by
  rcases ht.server_cases with hw | ⟨e, b, l, he, -, hw⟩ | ⟨i, key, r, b, l, hi, -, hw⟩
  · exact .inl hw
  · rw [hw]
    obtain ⟨d, -, hm⟩ := hs.mem_cleanup he
    exact (v.world.server_complete l).imp_right fun hc => ⟨l.statement, hc, .inl ⟨d, hm⟩⟩
  · rw [hw]
    have hm := hs.mem_provisioning hi
    exact (v.world.server_complete l).imp_right fun hc =>
      ⟨l.statement, hc, .inr ⟨i, r, b, by rw [hi]; rfl, hm⟩⟩

lemma Sound.role_created {u : String} (hs : v.Sound h) (ht : v.Step o v')
    (hu : v.world.server.hasRole u = false) (hn : v'.world.server.hasRole u = true) :
    ∃ i r b, (v.worker i).stage? = some (.execute r b) ∧ r.spec.username = u := by
  rcases hs.created ht with hw | ⟨t, hw, hm⟩
  · rw [hw, hu] at hn
    cases hn
  · obtain ⟨p, rfl⟩ := Sql.Server.eq_createUser hu (hw ▸ hn)
    rcases hm with ⟨d, hm⟩ | ⟨i, r, b, hi, hm⟩
    · simp [Surroundings.mem_cleanup] at hm
    · have hur : u = r.spec.username ∧ p = r.spec.password := by
        simpa [Stage.mem_provisioning] using hm
      exact ⟨i, r, b, hi, hur.1.symm⟩

lemma Sound.database_created {n u : String} (hs : v.Sound h) (ht : v.Step o v')
    (hu : v.world.server.databases.find? n ≠ some u)
    (hn : v'.world.server.databases.find? n = some u) :
    ∃ i r b, (v.worker i).stage? = some (.execute r b) ∧ r.spec.database = n ∧
      r.spec.username = u := by
  rcases hs.created ht with hw | ⟨t, hw, hm⟩
  · rw [hw] at hn
    exact absurd hn hu
  · obtain rfl := Sql.Server.eq_createDatabase hu (hw ▸ hn)
    rcases hm with ⟨d, hm⟩ | ⟨i, r, b, hi, hm⟩
    · simp [Surroundings.mem_cleanup] at hm
    · have hnr : n = r.spec.database ∧ u = r.spec.username := by
        simpa [Stage.mem_provisioning] using hm
      exact ⟨i, r, b, hi, hnr.1.symm, hnr.2.symm⟩

/-! ### Owners that are kept -/

/-- The database belongs to the role, or a deletion was taken up that names the database. -/
def KeepsOwner (v : View) (h : List Occurrence) (s : Spec) : Prop :=
  v.world.server.databases.find? s.database = some s.username ∨
    ∃ e, ∃ d ∈ deletions e h, d.spec.database = s.database

/-- A database changes hands only in a clean-up that names it. -/
lemma Sound.owner_lost {n u : String} (hs : v.Sound h) (ht : v.Step o v')
    (hu : v.world.server.databases.find? n = some u)
    (hn : v'.world.server.databases.find? n ≠ some u) :
    ∃ e, ∃ d ∈ deletions e h, d.spec.database = n := by
  rcases hs.attribution ht with hw | ⟨e, l, -, hw, hm⟩
  · rw [hw] at hn
    exact absurd hu hn
  · have hl : l.statement = .dropDatabase n := Sql.Server.eq_dropDatabase_of_owner hu (hw ▸ hn)
    rcases hm with ⟨d, hd, hm⟩ | ⟨r, hm⟩
    · have hdn : n = d.spec.database := by simpa [hl] using Surroundings.mem_cleanup.1 hm
      exact ⟨e, d, List.mem_of_getLast? hd, hdn.symm⟩
    · simp [hl, Stage.mem_provisioning] at hm

lemma KeepsOwner.step {s : Spec} (hk : v.KeepsOwner h s) (hs : v.Sound h) (ht : v.Step o v') :
    v'.KeepsOwner (h ++ o.toList) s := by
  rcases hk with hu | ⟨e, d, hd, hn⟩
  · by_cases hn : v'.world.server.databases.find? s.database = some s.username
    · exact .inl hn
    · obtain ⟨e, d, hd, hdn⟩ := hs.owner_lost ht hu hn
      exact .inr ⟨e, d, mem_deletions_append hd, hdn⟩
  · exact .inr ⟨e, d, mem_deletions_append hd, hn⟩

/-- Before a success is written the database belongs to the role. -/
def Earned (v : View) (h : List Occurrence) : Stage → Prop
  | .write r d => d.status.progress = .provisioned → v.KeepsOwner h r.spec
  | .execute .. | .publish .. | .finished _ => True

structure Owned (v : View) (h : List Occurrence) : Prop where
  tracking : v.world.tracking = true
  stage : ∀ i s, (v.worker i).stage? = some s → v.Earned h s
  recorded : ∀ r ∈ v.world.journal.updates, r.progress = .provisioned → v.KeepsOwner h r.spec

lemma Earned.step {s : Stage} (hb : v.Earned h s) (hs : v.Sound h) (ht : v.Step o v') :
    v'.Earned (h ++ o.toList) s := by
  cases s with
  | write r d => exact fun hp => (hb hp).step hs ht
  | execute r b => trivial
  | publish r a => trivial
  | finished a => trivial

lemma Earned.conclude (r : Resource) (a : Attempt) : v.Earned h (Stage.conclude r a) := by
  unfold Stage.conclude
  split
  · trivial
  · split_ifs <;> trivial

lemma Earned.start (policy : Policy) (x : Option Resource) : v.Earned h (Stage.start policy x) := by
  generalize hx : Stage.start policy x = s
  cases s with
  | write r d =>
    intro hp
    simp [Stage.start_ne_provisioned hx] at hp
  | execute r b => trivial
  | publish r a => trivial
  | finished a => trivial

/-- The last statement of an attempt succeeds only by creating the database for the role. -/
lemma Owned.executed {i : Nat} {key : String} {r : Resource} {b : Sql.Batch} {l : Launch}
    (hh : v.Owned h) (hs : v.Sound h) (hi : v.worker i = .running key r b l)
    (hw : v'.world = (v.world.complete l).2) :
    v'.Earned (h ++ o.toList) (.afterStatement r b (v.world.complete l).1) := by
  have hst : (v.worker i).stage? = some (.execute r b) := by rw [hi]; rfl
  unfold Stage.afterStatement
  rcases Sql.Batch.remaining_of_pair (hs.worker_batch i r b hst) with ⟨-, hr⟩ | ⟨hb, hr⟩
  · rw [Sql.Batch.advance?, hr]
    trivial
  · rw [Sql.Batch.advance?, hr]
    intro hp
    obtain ⟨-, ho⟩ := Sql.Report.isSuccess_record.1 (Stage.verdict_provisioned hp)
    obtain ⟨hok, hv⟩ := World.server_complete_ok hh.tracking ho
    rw [hs.worker_launch i key r b l hi, hb] at hok hv
    refine .inl ?_
    rw [hw, hv]
    exact Sql.Server.owner_of_createDatabase hok

lemma Owned.step (hh : v.Owned h) (hs : v.Sound h) (ht : v.Step o v') :
    v'.Owned (h ++ o.toList) := by
  refine ⟨ht.tracking.trans hh.tracking, fun i s hi => ?_, fun r hr hp => ?_⟩
  · rcases ht.stage_cases hi with hold | ⟨policy, k, rfl⟩ | ⟨key, r, b, l, hj, hw, rfl⟩ |
      ⟨r, d, -, rfl⟩ | ⟨a, rfl⟩
    · exact (hh.stage i s hold).step hs ht
    · exact .start policy _
    · exact hh.executed hs hj hw
    · rw [Stage.afterWrite_eq]
      exact .conclude r _
    · trivial
  · rcases ht.recorded_cases hr with hold | ⟨i, r₀, d, hi, rfl⟩
    · exact (hh.recorded r hold hp).step hs ht
    · exact (hh.stage i (.write r₀ d) hi).step hs ht hp

lemma Owned.run {g : List Occurrence} (hh : v.Owned g) (hs : v.Sound g) (hr : v.Run h v') :
    v'.Owned (g ++ h) := by
  induction hr with
  | refl => simpa using hh
  | snoc hr ht ih =>
    rw [← List.append_assoc]
    exact ih.step (hs.run hr) ht

end View

namespace Controller

variable {ρ : Type}

lemma owned_opening (policy : Policy) (limiter : Limiter ρ String) {world : World}
    (ht : world.tracking = true) (hu : world.journal.updates = []) :
    (opening policy limiter world).view.Owned [] := by
  refine ⟨ht, fun i s hi => ?_, fun r hr => ?_⟩
  · simp [opening, view, worker, Worker.stage?] at hi
  · simp [opening, view, hu] at hr

variable [Quantity ρ] {c : Controller ρ} {as : List Action}

/-- The resources of a run, but for the statuses that the operator writes. -/
def Appears (c : Controller ρ) (as : List Action) (r : Resource) : Prop :=
  (∃ j, c.world.lookup j = some r) ∨ ∃ x ∈ c.history as, x.resource? = some r

/-- What is recorded is what appeared, with another status. -/
lemma appears_of_recorded (hc : c.Orderly) (hw : ∀ i, (c.worker i).stage? = none)
    (hu : c.world.journal.updates = []) {r : Resource}
    (hr : r ∈ (c.run as).world.journal.updates) :
    ∃ r₀, c.Appears as r₀ ∧ r₀.metadata = r.metadata ∧ r₀.spec = r.spec := by
  have start : c.view.Known fun r =>
      ∃ r₀, c.Appears as r₀ ∧ r₀.metadata = r.metadata ∧ r₀.spec = r.spec := by
    refine ⟨fun j r hj => ⟨r, .inl ⟨j, hj⟩, rfl, rfl⟩, fun i s hi => ?_, fun r hr => ?_⟩
    · simp [view, hw i] at hi
    · simp [view, hu] at hr
  exact (start.run (fun r s h => h) (run_view hc as) fun r hm =>
    ⟨r, .inr ⟨_, hm, rfl⟩, rfl, rfl⟩).recorded r hr

section Created

variable (hc : c.Orderly) (hs : c.view.Sound []) (hw : ∀ i, (c.worker i).stage? = none)

include hc hs hw

lemma role_named {u : String} (hu : (c.run as).world.server.hasRole u = true) :
    c.world.server.hasRole u = true ∨ ∃ r, c.Attempted as r ∧ r.spec.username = u := by
  induction as using List.reverseRecOn with
  | nil => exact .inl hu
  | append_singleton as a ih =>
    by_cases hold : (c.run as).world.server.hasRole u = true
    · exact (ih hold).imp_right fun ⟨r, hr, hru⟩ => ⟨r, hr.concat a, hru⟩
    · rw [run_append] at hu
      obtain ⟨i, r, b, hi, hru⟩ := (hs.run (run_view hc as)).role_created
        ((c.run as).step_view (hc.run as) a) (eq_false_of_ne_true hold) hu
      exact .inr ⟨r, (run_executing hw hi).concat a, hru⟩

lemma database_named {n u : String}
    (hu : (c.run as).world.server.databases.find? n = some u) :
    c.world.server.databases.find? n = some u ∨
      ∃ r, c.Attempted as r ∧ r.spec.database = n ∧ r.spec.username = u := by
  induction as using List.reverseRecOn with
  | nil => exact .inl hu
  | append_singleton as a ih =>
    by_cases hold : (c.run as).world.server.databases.find? n = some u
    · exact (ih hold).imp_right fun ⟨r, hr, hrn⟩ => ⟨r, hr.concat a, hrn⟩
    · rw [run_append] at hu
      obtain ⟨i, r, b, hi, hrn⟩ := (hs.run (run_view hc as)).database_created
        ((c.run as).step_view (hc.run as) a) hold hu
      exact .inr ⟨r, (run_executing hw hi).concat a, hrn⟩

end Created

/-- **A status tells the truth**: let resources be told apart by anything in their metadata, and no
two of them share a role or a database. Whenever a resource has been recorded as provisioned, and no
deletion of it has been taken up, its role is on the server, and its database with that role as its
owner. Any role, and any database with its owner, was there at the beginning or is named by a
resource that a worker has set out to provision. -/
theorem run_truthful {ι : Type} (identity : Metadata → ι) (policy : Policy)
    (limiter : Limiter ρ String) (world : World) (ht : world.tracking = true)
    (hu : world.journal.updates = []) (as : List Action)
    (hp : ∀ r r', (opening policy limiter world).Appears as r →
      (opening policy limiter world).Appears as r' →
      identity r.metadata ≠ identity r'.metadata →
      r.spec.username ≠ r'.spec.username ∧ r.spec.database ≠ r'.spec.database) :
    let c := opening policy limiter world
    let server := (c.run as).world.server
    (∀ r ∈ (c.run as).world.journal.updates, r.progress = .provisioned →
      (∀ e d, .took e d ∈ c.history as → identity d.metadata ≠ identity r.metadata) →
      server.hasRole r.spec.username = true ∧
        server.databases.find? r.spec.database = some r.spec.username) ∧
    (∀ u, server.hasRole u = true →
      world.server.hasRole u = true ∨ ∃ r, c.Attempted as r ∧ r.spec.username = u) ∧
    ∀ n u, server.databases.find? n = some u →
      world.server.databases.find? n = some u ∨
        ∃ r, c.Attempted as r ∧ r.spec.database = n ∧ r.spec.username = u := by
  intro c server
  have hc : c.Orderly := orderly_opening policy limiter world
  have hs : c.view.Sound [] := sound_opening policy limiter world
  have hw : ∀ i, (c.worker i).stage? = none := fun i => by
    simp [c, opening, worker, Worker.stage?]
  have hr := run_view hc as
  refine ⟨fun r hrec hprog hnone => ?_, fun u => role_named hc hs hw,
    fun n u => database_named hc hs hw⟩
  obtain ⟨r₀, happ, hmeta, hspec⟩ := appears_of_recorded hc hw hu hrec
  -- a deletion that names the role or the database would be one of this resource
  have apart {e : Executor} {d : Resource} (hd : d ∈ deletions e (c.history as)) :
      d.spec.username ≠ r.spec.username ∧ d.spec.database ≠ r.spec.database := by
    have htook : .took e d ∈ c.history as := mem_deletions.1 hd
    rw [← hspec]
    refine hp d r₀ (.inr ⟨_, htook, rfl⟩) happ ?_
    rw [hmeta]
    exact hnone e d htook
  have hrole := ((held_opening policy limiter ht hu).run hs hr).recorded r hrec hprog
  have howner := ((owned_opening policy limiter ht hu).run hs hr).recorded r hrec hprog
  refine ⟨hrole.1.resolve_right ?_, howner.resolve_right ?_⟩
  · rintro ⟨e, d, hd, hn⟩
    exact (apart hd).1 hn
  · rintro ⟨e, d, hd, hn⟩
    exact (apart hd).2 hn

omit [Quantity ρ]

/-- `invoices` comes and goes, with names of its own; what was recorded of `orders` stays true. -/
theorem run_truthful_orders :
    let d := shop.run comingAndGoing
    (World.orders.withStatus ⟨.provisioned, "successful"⟩ ∈ d.world.journal.updates ∧
      invoices.withStatus ⟨.provisioned, "successful"⟩ ∈ d.world.journal.updates ∧
      .took .caller invoices ∈ shop.history comingAndGoing) ∧
    d.world.server.hasRole "teller" = false ∧ d.world.server.hasRole "clerk" = true ∧
    d.world.server.databases.find? "orders" = some "clerk" := by
  intro d
  have hpair (r : Resource) (h : shop.Appears comingAndGoing r) :
      r = World.orders ∨ r = invoices := by
    rcases h with ⟨j, hj⟩ | ⟨x, hx, hr⟩
    · simp only [shop, opening, World.lookup, World.solo, Table.find?_insert] at hj
      split_ifs at hj
      · exact .inl (Option.some.inj hj).symm
      · cases hj
    · exact .inr (eq_invoices hx hr)
  have hinvoices :
      invoices.withStatus ⟨.provisioned, "successful"⟩ ∈ d.world.journal.updates := by decide
  have htook : .took .caller invoices ∈ shop.history comingAndGoing :=
    mem_deletions.1 (show invoices ∈ deletions .caller _ by decide)
  refine ⟨⟨orders_recorded, hinvoices, htook⟩, by decide, ?_⟩
  refine (run_truthful (fun m => (m.scope, m.name)) .hold (RetryPace.limiter {} 0)
    (World.solo ⟨"shop", "orders"⟩ World.orders) rfl rfl comingAndGoing
    (fun r r' hr hr' hne => ?_)).1 _ orders_recorded rfl fun e r hr => ?_
  · rcases hpair r hr with rfl | rfl <;> rcases hpair r' hr' with rfl | rfl
    · exact absurd rfl hne
    · decide
    · decide
    · exact absurd rfl hne
  · rw [eq_invoices hr rfl]
    decide

end Controller

end Provisioner
