import Provisioner.Proofs.Controller.Sound
import Provisioner.Proofs.Reconcile.Basic

/-!
What the clean-up after one resource does to the others.

Roles and databases are dropped by name, and nobody keeps who created them. What was provisioned
stays until a deletion is handled that names it, and goes with the first one that does.
-/

namespace Provisioner

open Occurrence

/-! ### What an attempt knows about its two statements -/

lemma Sql.Report.isSuccess_record {p : Report} {t : Statement} {outcome : Except Failure Unit} :
    (p.record t outcome).isSuccess = true ↔ p.isSuccess = true ∧ outcome = .ok () := by
  cases outcome with
  | ok _ => simp [record]
  | error f => simp [record, isSuccess]

lemma Stage.verdict_provisioned {p : Sql.Report}
    (h : (Stage.verdict p).status.progress = .provisioned) : p.isSuccess = true := by
  unfold verdict at h
  split at h
  · rename_i hf
    simpa [Sql.Report.firstFailure?, Sql.Report.isSuccess] using hf
  · simp at h

lemma Stage.start_ne_provisioned {policy : Policy} {x : Option Resource} {r : Resource}
    {d : Verdict} (h : Stage.start policy x = .write r d) : d.status.progress = .error := by
  cases x with
  | none => simp [start] at h
  | some r₀ =>
    simp only [start, provision] at h
    split at h
    · simp at h
    · simp at h
    all_goals
      split at h
      · simp only [write.injEq] at h
        rw [← h.2]
      · simp at h

namespace View

/-! ### Names that are kept -/

/-- The role is there, or a deletion was taken up that names it. -/
def KeepsRole (v : View) (h : List Occurrence) (u : String) : Prop :=
  v.world.server.hasRole u = true ∨ ∃ e, ∃ d ∈ deletions e h, d.spec.username = u

def KeepsDatabase (v : View) (h : List Occurrence) (n : String) : Prop :=
  v.world.server.hasDatabase n = true ∨ ∃ e, ∃ d ∈ deletions e h, d.spec.database = n

variable {v v' : View} {h : List Occurrence} {o : Option Occurrence}

lemma KeepsRole.step {u : String} (hk : v.KeepsRole h u) (hs : v.Sound h) (ht : v.Step o v') :
    v'.KeepsRole (h ++ o.toList) u := by
  rcases hk with hu | ⟨e, d, hd, hn⟩
  · cases hn : v'.world.server.hasRole u with
    | true => exact .inl hn
    | false =>
      obtain ⟨e, -, d, -, hd, hdu⟩ := hs.role_lost ht hu hn
      exact .inr ⟨e, d, mem_deletions_append (List.mem_of_getLast? hd), hdu⟩
  · exact .inr ⟨e, d, mem_deletions_append hd, hn⟩

lemma KeepsDatabase.step {n : String} (hk : v.KeepsDatabase h n) (hs : v.Sound h)
    (ht : v.Step o v') : v'.KeepsDatabase (h ++ o.toList) n := by
  rcases hk with hu | ⟨e, d, hd, hn⟩
  · cases hn : v'.world.server.hasDatabase n with
    | true => exact .inl hn
    | false =>
      obtain ⟨e, -, d, -, hd, hdu⟩ := hs.database_lost ht hu hn
      exact .inr ⟨e, d, mem_deletions_append (List.mem_of_getLast? hd), hdu⟩
  · exact .inr ⟨e, d, mem_deletions_append hd, hn⟩

/-- Before the second statement the role is there, before a success is written both names are. -/
def Backed (v : View) (h : List Occurrence) : Stage → Prop
  | .execute r b => b.rest = [] → b.report.isSuccess = true → v.KeepsRole h r.spec.username
  | .write r d => d.status.progress = .provisioned →
    v.KeepsRole h r.spec.username ∧ v.KeepsDatabase h r.spec.database
  | .publish .. | .finished _ => True

structure Held (v : View) (h : List Occurrence) : Prop where
  tracking : v.world.tracking = true
  stage : ∀ i s, (v.worker i).stage? = some s → v.Backed h s
  recorded : ∀ r ∈ v.world.journal.updates, r.progress = .provisioned →
    v.KeepsRole h r.spec.username ∧ v.KeepsDatabase h r.spec.database

lemma Backed.step {s : Stage} (hb : v.Backed h s) (hs : v.Sound h) (ht : v.Step o v') :
    v'.Backed (h ++ o.toList) s := by
  cases s with
  | execute r b => exact fun h₁ h₂ => (hb h₁ h₂).step hs ht
  | write r d => exact fun hp => ⟨(hb hp).1.step hs ht, (hb hp).2.step hs ht⟩
  | publish r a => trivial
  | finished a => trivial

lemma Backed.conclude (r : Resource) (a : Attempt) : v.Backed h (Stage.conclude r a) := by
  unfold Stage.conclude
  split
  · trivial
  · split_ifs <;> trivial

lemma Backed.start (policy : Policy) (x : Option Resource) : v.Backed h (Stage.start policy x) := by
  generalize hx : Stage.start policy x = s
  cases s with
  | execute r b =>
    intro hr
    simp [Stage.start_eq_execute hx, Stage.provisioning] at hr
  | write r d =>
    intro hp
    simp [Stage.start_ne_provisioned hx] at hp
  | publish r a => trivial
  | finished a => trivial

/-- What one statement of an attempt achieves. -/
lemma Held.executed {i : Nat} {key : String} {r : Resource} {b : Sql.Batch} {l : Launch}
    (hh : v.Held h) (hs : v.Sound h) (hi : v.worker i = .running key r b l)
    (ht : v.Step o v') (hw : v'.world = (v.world.complete l).2) :
    v'.Backed (h ++ o.toList) (.afterStatement r b (v.world.complete l).1) := by
  have hst : (v.worker i).stage? = some (.execute r b) := by rw [hi]; rfl
  have hc : l.statement = b.current := hs.worker_launch i key r b l hi
  -- an outcome without failure means that the server has taken the statement
  have hok (ho : (v.world.complete l).1 = .ok ()) :
      (v.world.server.run b.current).1 = .ok () ∧
        v'.world.server = (v.world.server.run b.current).2 := by
    rw [← hc, hw]
    exact World.server_complete_ok hh.tracking ho
  unfold Stage.afterStatement
  rcases Sql.Batch.remaining_of_pair (hs.worker_batch i r b hst) with ⟨hb, hr⟩ | ⟨hb, hr⟩
  · rw [Sql.Batch.advance?, hr]
    intro _ hsuc
    obtain ⟨-, ho⟩ := Sql.Report.isSuccess_record.1 hsuc
    obtain ⟨-, hv⟩ := hok ho
    exact .inl (by simp [hv, hb, Stage.provisioning, Sql.Server.hasRole_run])
  · rw [Sql.Batch.advance?, hr]
    intro hp
    obtain ⟨hsuc, ho⟩ := Sql.Report.isSuccess_record.1 (Stage.verdict_provisioned hp)
    obtain ⟨hv₁, hv⟩ := hok ho
    refine ⟨(hh.stage i _ hst hr hsuc).step hs ht, .inl ?_⟩
    rw [hb] at hv₁ hv
    simp only [Sql.Server.run] at hv₁
    split_ifs at hv₁ with h₁ h₂
    have hu : v.world.server.hasRole r.spec.username = true := by simpa using h₁
    simp [hv, Sql.Server.hasDatabase_run, hu]

lemma Held.recorded_step (hh : v.Held h) (hs : v.Sound h) (ht : v.Step o v') :
    ∀ r ∈ v'.world.journal.updates, r.progress = .provisioned →
      v'.KeepsRole (h ++ o.toList) r.spec.username ∧
        v'.KeepsDatabase (h ++ o.toList) r.spec.database := by
  intro r hr hp
  rcases ht.recorded_cases hr with hold | ⟨i, r₀, d, hi, rfl⟩
  · obtain ⟨hrole, hdatabase⟩ := hh.recorded r hold hp
    exact ⟨hrole.step hs ht, hdatabase.step hs ht⟩
  · exact (hh.stage i (.write r₀ d) hi).step hs ht hp

lemma Held.step (hh : v.Held h) (hs : v.Sound h) (ht : v.Step o v') : v'.Held (h ++ o.toList) := by
  refine ⟨ht.tracking.trans hh.tracking, fun i s hi => ?_, hh.recorded_step hs ht⟩
  rcases ht.stage_cases hi with hold | ⟨policy, k, rfl⟩ | ⟨key, r, b, l, hj, hw, rfl⟩ |
    ⟨r, d, -, rfl⟩ | ⟨a, rfl⟩
  · exact (hh.stage i s hold).step hs ht
  · exact .start policy _
  · exact hh.executed hs hj ht hw
  · rw [Stage.afterWrite_eq]
    exact .conclude r _
  · trivial

lemma Held.run {g : List Occurrence} (hh : v.Held g) (hs : v.Sound g) (hr : v.Run h v') :
    v'.Held (g ++ h) := by
  induction hr with
  | refl => simpa using hh
  | snoc hr ht ih =>
    rw [← List.append_assoc]
    exact ih.step (hs.run hr) ht

end View

namespace Controller

variable {ρ : Type}

lemma occurrence?_eq_completed {c : Controller ρ} {a : Action} {e : Executor} {l : Launch}
    (h : c.occurrence? a = some (.completed e l)) : a = .complete e := by
  have notified (e' : Executor) (n : Notification) : n.occurrence? e' ≠ some (.completed e l) := by
    cases n <;> simp [Notification.occurrence?]
  cases a with
  | complete e' =>
    simp only [occurrence?, Option.map_eq_some_iff, Occurrence.completed.injEq] at h
    obtain ⟨l', -, rfl, -⟩ := h
    rfl
  | call n =>
    simp only [occurrence?] at h
    split at h
    · exact absurd h (notified _ n)
    · simp at h
  | pump =>
    simp only [occurrence?] at h
    split at h
    · exact absurd h (notified _ _)
    · simp at h
  | _ => simp [occurrence?] at h

lemma held_opening (policy : Policy) (limiter : Limiter ρ String) {world : World}
    (ht : world.tracking = true) (hu : world.journal.updates = []) :
    (opening policy limiter world).view.Held [] := by
  refine ⟨ht, fun i s hi => ?_, fun r hr => ?_⟩
  · simp [opening, view, worker, Worker.stage?] at hi
  · simp [opening, view, hu] at hr

variable [Quantity ρ]

/-- **Isolation**: a name disappears from the server only when the deletion that its executor took up
last names it. So a resource that was provisioned keeps its role and its database until a deletion
is taken up that names the same role, or the same database. -/
theorem run_isolated (policy : Policy) (limiter : Limiter ρ String) (world : World)
    (ht : world.tracking = true) (hu : world.journal.updates = []) (as : List Action) :
    let c := opening policy limiter world
    let history := c.history as
    let before := (c.run as).world
    (∀ a u, before.server.hasRole u = true → (c.run (as ++ [a])).world.server.hasRole u = false →
      ∃ e d, a = .complete e ∧ (deletions e history).getLast? = some d ∧ d.spec.username = u) ∧
    (∀ a n, before.server.hasDatabase n = true →
      (c.run (as ++ [a])).world.server.hasDatabase n = false →
      ∃ e d, a = .complete e ∧ (deletions e history).getLast? = some d ∧ d.spec.database = n) ∧
    ∀ r ∈ before.journal.updates, r.progress = .provisioned →
      (before.server.hasRole r.spec.username = true ∨
        ∃ e, ∃ d ∈ deletions e history, d.spec.username = r.spec.username) ∧
      (before.server.hasDatabase r.spec.database = true ∨
        ∃ e, ∃ d ∈ deletions e history, d.spec.database = r.spec.database) := by
  intro c history before
  have hc : c.Orderly := orderly_opening policy limiter world
  have hs : c.view.Sound [] := sound_opening policy limiter world
  have hr := run_view hc as
  have step (a : Action) : (c.run as).view.Step ((c.run as).occurrence? a)
      (c.run (as ++ [a])).view := by
    rw [run_append]
    exact (c.run as).step_view (hc.run as) a
  refine ⟨fun a u h₁ h₂ => ?_, fun a n h₁ h₂ => ?_, ?_⟩
  · obtain ⟨e, l, d, ho, hd, hdu⟩ := (hs.run hr).role_lost (step a) h₁ h₂
    exact ⟨e, d, occurrence?_eq_completed ho, hd, hdu⟩
  · obtain ⟨e, l, d, ho, hd, hdn⟩ := (hs.run hr).database_lost (step a) h₁ h₂
    exact ⟨e, d, occurrence?_eq_completed ho, hd, hdn⟩
  · exact ((held_opening policy limiter ht hu).run hs hr).recorded

/-! ### Two resources with names of their own -/

def invoices : Resource where
  metadata := { name := some "invoices", scope := some "shop" }
  spec := ⟨"teller", "secret", "invoices"⟩

/-- After `orders`, `invoices` is provisioned and then deleted. -/
def comingAndGoing : List Action :=
  provisioningOrders ++
    [.worker 0 0, .worker 0 0, .put invoices, .enqueue invoices, .worker 0 0, .worker 0 0,
      .worker 0 0, .worker 0 0, .complete (.worker 0), .worker 0 0, .complete (.worker 0),
      .worker 0 0, .remove ⟨"shop", "invoices"⟩, .call (.deleted invoices), .caller,
      .complete .caller, .caller, .complete .caller]

/-- Nothing else is brought up. -/
lemma eq_invoices {x : Occurrence} {r : Resource} (hx : x ∈ shop.history comingAndGoing)
    (hr : x.resource? = some r) : r = invoices := by
  have hall : (shop.history comingAndGoing).filterMap resource? = [invoices, invoices] := by decide
  have hmem : r ∈ [invoices, invoices] := hall ▸ List.mem_filterMap.2 ⟨x, hx, hr⟩
  simpa using hmem

lemma orders_recorded : World.orders.withStatus ⟨.provisioned, "successful"⟩ ∈
    (shop.run comingAndGoing).world.journal.updates := by decide

/-- `orders` keeps its role and its database while those of `invoices` come and go. -/
theorem run_isolated_shop :
    let d := shop.run comingAndGoing
    (shop.world.tracking = true ∧ shop.world.journal.updates = []) ∧
    d.world.journal.updates.map (fun r => (r.metadata.name, r.progress)) =
      [(some "orders", .provisioned), (some "invoices", .provisioned)] ∧
    (d.world.server.hasRole "teller" = false ∧ d.world.server.hasDatabase "invoices" = false) ∧
    d.world.server.hasRole "clerk" = true ∧ d.world.server.hasDatabase "orders" = true := by
  intro d
  have hnobody {P : Resource → Prop} (hP : ¬ P invoices) :
      ¬ ∃ e, ∃ r ∈ deletions e (shop.history comingAndGoing), P r := by
    rintro ⟨e, r, hr, hname⟩
    obtain rfl := eq_invoices (mem_deletions.1 hr) rfl
    exact hP hname
  obtain ⟨hrole, hdatabase⟩ := (run_isolated .hold (RetryPace.limiter {} 0)
    (World.solo ⟨"shop", "orders"⟩ World.orders) rfl rfl comingAndGoing).2.2 _ orders_recorded rfl
  exact ⟨⟨rfl, rfl⟩, by decide, by decide, hrole.resolve_right (hnobody (by decide)),
    hdatabase.resolve_right (hnobody (by decide))⟩

/-! ### Two resources with the same names -/

def ledger : Resource where
  metadata := { name := some "ledger", scope := some "shop" }
  spec := ⟨"clerk", "other", "orders"⟩

def deletingLedger : List Action :=
  [.put ledger, .remove ⟨"shop", "ledger"⟩, .call (.deleted ledger), .caller, .complete .caller,
    .caller, .complete .caller]

/-- A deletion takes away what was provisioned for another resource. -/
theorem orders_lost_with_ledger :
    let c₁ := shop.run provisioningOrders
    let c₂ := c₁.run deletingLedger
    Key.ofResource ledger ≠ Key.ofResource World.orders ∧
    c₁.world.journal.updates.map Resource.progress = [.provisioned] ∧
    c₁.world.server.hasRole "clerk" = true ∧ c₁.world.server.hasDatabase "orders" = true ∧
    (c₂.world.lookup ⟨"shop", "orders"⟩).map Resource.progress = some .provisioned ∧
    c₂.world.server.hasRole "clerk" = false ∧ c₂.world.server.hasDatabase "orders" = false := by
  decide

end Controller

end Provisioner
