import Provisioner.Proofs.Reconcile.Effects
import Provisioner.Proofs.Reconcile.Secrecy
import Provisioner.Proofs.Reconcile.StatusWrites
import Provisioner.Proofs.Sql.Omission

/-!
A clean-up after a successful attempt, whatever happens to other resources in between.

The world after the attempt is compared with the world in which the attempt never took place. They
differ in the two names of the spec, and in the resources with that spec that are cached; nothing that
is done for resources with other names can tell one from the other.
-/

namespace Provisioner

open Sql Sql.Server

/-! ### What happens to a world -/

/-- Something that happens to a world, from its beginning to its end. -/
inductive Happening where
  | operation (policy : Policy) (o : Operation)
  | remove (k : Key)
  /-- A status is written. -/
  | report (r : Resource) (status : Status)
  /-- From now on writes are made to fail like that, or not any more. -/
  | breakWrites (fault : Option Failure)

namespace World

def happen (w : World) : Happening → World
  | .operation policy o => (setting.act policy o w).2
  | .remove k => (w.remove k).2
  | .report r status => (surroundings.report r status w).2
  | .breakWrites fault => { w with writeFault := fault }

/-- All that happens, one after the other. -/
def live (w : World) (hs : List Happening) : World := hs.foldl happen w

end World

/-- No statement is executed that mentions a name of the spec. -/
def Operation.Spares (s : Spec) (w : World) : Operation → Prop
  | .put _ => True
  | .reconcile k => ∀ r, w.lookup k = some r → r.spec.Disjoint s
  | .delete r => r.spec.Disjoint s
  | .execute ts => ∀ t ∈ ts, s.Unmentioned t

def Happening.Spares (s : Spec) (w : World) : Happening → Prop
  | .operation _ o => o.Spares s w
  | .remove _ | .report .. | .breakWrites _ => True

namespace Stage

/-- What is left to execute mentions no name of the spec. -/
def Spares (s : Spec) : Stage → Prop
  | .execute _ b => ∀ t ∈ b.remaining, s.Unmentioned t
  | .write .. | .publish .. | .finished _ => True

variable {s : Spec} {r : Resource}

lemma spares_conclude (r : Resource) (a : Attempt) : (conclude r a).Spares s := by
  unfold conclude
  split
  · trivial
  · split_ifs <;> trivial

lemma spares_afterWrite (r : Resource) (v : Verdict) (o : Except Failure Unit) :
    (afterWrite r v o).Spares s := by
  rw [afterWrite_eq]
  exact spares_conclude r _

lemma Spares.afterStatement {b : Batch} (h : (execute r b).Spares s) (o : Except Failure Unit) :
    (afterStatement r b o).Spares s := by
  obtain ⟨t, _ | ⟨u, us⟩, x⟩ := b
  · trivial
  · exact fun v hv => h v (List.mem_cons_of_mem t hv)

lemma spares_provision (h : r.spec.Disjoint s) : (provision r).Spares s := by
  unfold provision
  split
  · trivial
  · exact fun t ht => h.unmentioned (provisioning_subset r.spec ht)

/-- An attempt for a resource with other names spares these. -/
lemma spares_start (policy : Policy) {x : Option Resource} (h : ∀ r, x = some r → r.spec.Disjoint s) :
    (start policy x).Spares s := by
  cases x with
  | none => trivial
  | some r =>
    simp only [start]
    split
    · trivial
    · trivial
    all_goals exact spares_provision (h r rfl)

end Stage

namespace World

/-- All that happens spares the names, as it comes. -/
def Spared (s : Spec) : World → List Happening → Prop
  | _, [] => True
  | w, a :: as => a.Spares s w ∧ Spared s (w.happen a) as

/-! ### Two worlds that differ in two names -/

/-- The first world has the names of the spec, and resources with that spec, besides what the other one
has. -/
structure Besides (s : Spec) (w w' : World) : Prop where
  tracks : w.tracking = true
  faultless : w.Faultless
  made : w.Made s
  server : w.server.without s = w'.server
  lookup (k : Key) : w.lookup k = w'.lookup k ∨ ∃ r, w.lookup k = some r ∧ r.spec = s
  tracking : w.tracking = w'.tracking
  faults : w.faults = w'.faults
  storesWrites : w.storesWrites = w'.storesWrites
  writeFault : w.writeFault = w'.writeFault

namespace Besides

variable {s : Spec} {w w' : World} {t : Statement} {ts : List Statement} {stage : Stage}

/-- What is noted makes no difference. -/
lemma noting (h : Besides s w w') (j j' : Journal) :
    Besides s { w with journal := j } { w' with journal := j' } :=
  ⟨h.tracks, h.faultless, h.made, h.server, h.lookup, h.tracking, h.faults, h.storesWrites,
    h.writeFault⟩

/-! ### One effect -/

lemma execute (h : Besides s w w') (ht : s.Unmentioned t) :
    (w.execute t).1 = (w'.execute t).1 ∧ Besides s (w.execute t).2 (w'.execute t).2 := by
  have hfault : w.fault? t = w'.fault? t := by rw [fault?, fault?, h.faults]
  have hattempt : w'.server.attempt (w'.fault? t) t =
      ((w.server.attempt (w.fault? t) t).1, (w.server.attempt (w.fault? t) t).2.without s) := by
    rw [hfault, ← h.server]
    cases w'.fault? t with
    | none => exact run_without ht
    | some f => rfl
  have hmade : (w.server.attempt (w.fault? t) t).2.hasRole s.username = true ∧
      (w.server.attempt (w.fault? t) t).2.hasDatabase s.database = true := by
    cases w.fault? t with
    | none => exact ⟨ht.apart.hasRole_run.trans h.made.1, ht.apart.hasDatabase_run.trans h.made.2⟩
    | some f => exact h.made
  rw [execute_eq h.tracks, execute_eq (h.tracking.symm.trans h.tracks), hattempt]
  exact ⟨rfl, h.tracks, h.faultless, hmade, rfl, h.lookup, h.tracking, h.faults, h.storesWrites,
    h.writeFault⟩

/-- What is cached may change as long as it is still the same on both sides, or has the spec. -/
lemma caching (h : Besides s w w') {objects objects' : Table Key Resource}
    (hlookup : ∀ k, objects.find? k = objects'.find? k ∨ ∃ r, objects.find? k = some r ∧ r.spec = s) :
    Besides s { w with objects } { w' with objects := objects' } :=
  ⟨h.tracks, h.faultless, h.made, h.server, hlookup, h.tracking, h.faults, h.storesWrites,
    h.writeFault⟩

lemma put (h : Besides s w w') (r : Resource) : Besides s (w.put r).2 (w'.put r).2 := by
  have hlookup (k : Key) : (w.put r).2.lookup k = (w'.put r).2.lookup k ∨
      ∃ r', (w.put r).2.lookup k = some r' ∧ r'.spec = s := by
    rw [lookup_put, lookup_put]
    split_ifs
    · exact .inl rfl
    · exact h.lookup k
  rw [put_eq w, put_eq w']
  exact h.caching hlookup

lemma remove (h : Besides s w w') (k : Key) : Besides s (w.remove k).2 (w'.remove k).2 := by
  have hlookup (j : Key) : (w.remove k).2.lookup j = (w'.remove k).2.lookup j ∨
      ∃ r, (w.remove k).2.lookup j = some r ∧ r.spec = s := by
    rw [lookup_remove, lookup_remove]
    split_ifs
    · exact .inl rfl
    · exact h.lookup j
  exact h.caching hlookup

lemma write (h : Besides s w w') (r : Resource) :
    (w.write r).1 = (w'.write r).1 ∧ Besides s (w.write r).2 (w'.write r).2 :=
  write_related h h.writeFault h.storesWrites h.noting fun j j' => (h.noting j j').put r

/-! ### Everything that happens -/

lemma runAll (h : Besides s w w') (ht : ∀ t ∈ ts, s.Unmentioned t) (x : Report) :
    (Sql.runAll surroundings.execute ts x w).1 = (Sql.runAll surroundings.execute ts x w').1 ∧
      Besides s (Sql.runAll surroundings.execute ts x w).2
        (Sql.runAll surroundings.execute ts x w').2 := by
  induction ts generalizing x w w' with
  | nil => exact ⟨rfl, h⟩
  | cons t ts ih =>
    obtain ⟨ho, h'⟩ := h.execute (ht t List.mem_cons_self)
    have ih := ih h' (fun u hu => ht u (List.mem_cons_of_mem _ hu)) (x.record t (w.execute t).1)
    simp only [Sql.runAll, surroundings] at ih ⊢
    rwa [← ho]

lemma proceed (h : Besides s w w') (hs : stage.Spares s) :
    (surroundings.proceed stage w).1 = (surroundings.proceed stage w').1 ∧
      (surroundings.proceed stage w).1.Spares s ∧
      Besides s (surroundings.proceed stage w).2 (surroundings.proceed stage w').2 := by
  cases stage with
  | execute r b =>
    obtain ⟨ho, h'⟩ := h.execute (hs b.current List.mem_cons_self)
    exact ⟨congrArg (Stage.afterStatement r b) ho, hs.afterStatement _, h'⟩
  | write r v =>
    obtain ⟨ho, h'⟩ := h.write (r.withStatus v.status)
    exact ⟨congrArg (Stage.afterWrite r v) ho, Stage.spares_afterWrite r v _, h'⟩
  | publish r a => exact ⟨rfl, trivial, h.noting _ _⟩
  | finished a => exact ⟨rfl, trivial, h⟩

lemma carryOut (h : Besides s w w') (hs : stage.Spares s) :
    Besides s (surroundings.carryOut stage w).2 (surroundings.carryOut stage w').2 := by
  induction hn : stage.weight using Nat.strongRecOn generalizing stage w w' with
  | _ n ih =>
    subst hn
    by_cases hfinished : ∃ a, stage = .finished a
    · obtain ⟨a, rfl⟩ := hfinished
      rw [Surroundings.carryOut, Surroundings.carryOut]
      exact h
    · obtain ⟨hnext, hs', h'⟩ := h.proceed hs
      rw [← surroundings.carryOut_proceed stage w, ← surroundings.carryOut_proceed stage w', ← hnext]
      exact ih _ (surroundings.weight_proceed w (not_exists.1 hfinished)) h' hs' rfl

lemma act (h : Besides s w w') (policy : Policy) {o : Operation} (ho : o.Spares s w) :
    Besides s (setting.act policy o w).2 (setting.act policy o w').2 := by
  cases o with
  | put r => exact h.put r
  | reconcile k =>
    -- a resource with the spec is not touched, and any other is the same in both worlds
    have hlookup : surroundings.lookup k w = surroundings.lookup k w' := by
      rcases h.lookup k with hl | ⟨r, hr, hspec⟩
      · exact hl
      · exact absurd (congrArg Spec.username hspec) (ho r hr).username
    have hstage : (Stage.start policy (surroundings.lookup k w)).Spares s :=
      Stage.spares_start policy ho
    simp only [Setting.act, setting, Surroundings.reconcile, ← hlookup]
    exact h.carryOut hstage
  | delete r =>
    have hspared : ∀ t ∈ (Surroundings.cleanup r.spec).remaining, s.Unmentioned t :=
      fun t ht => Spec.Disjoint.unmentioned ho (Surroundings.cleanup_subset r.spec ht)
    exact (h.runAll hspared {}).2
  | execute ts => exact (h.runAll ho {}).2

lemma happen (h : Besides s w w') {a : Happening} (ha : a.Spares s w) :
    Besides s (w.happen a) (w'.happen a) := by
  cases a with
  | operation policy o => exact h.act policy ha
  | remove k => exact h.remove k
  | report r status => exact (h.write (r.withStatus status)).2
  | breakWrites fault =>
    exact ⟨h.tracks, h.faultless, h.made, h.server, h.lookup, h.tracking, h.faults, h.storesWrites,
      rfl⟩

lemma live (h : Besides s w w') {as : List Happening} (ha : w.Spared s as) :
    Besides s (w.live as) (w'.live as) := by
  induction as generalizing w w' with
  | nil => exact h
  | cons a as ih => exact ih (h.happen ha.1) ha.2

end Besides

end World

/-! ### An attempt that provisions -/

lemma Effect.closing_ne_provisioned (r : Resource) (f : Failure) :
    (closing r (.error f)).2 ≠ .ok .provisioned := by
  simp only [closing]
  split_ifs <;> simp

/-- A resource is provisioned only if that is due, and only with a valid spec. -/
lemma Course.of_provisioned {policy : Policy} {r : Resource} {es : List Effect} {a : Attempt}
    (h : Course policy (some r) es a) (ha : a = .ok .provisioned) :
    r.IsDue policy ∧ r.spec.validate = .ok () := by
  cases h with
  | provisioned | held => cases ha
  | invalid _ _ write hresult =>
    rcases write with f | ⟨⟩ <;> subst hresult <;>
      exact absurd ha (Effect.closing_ne_provisioned r _)
  | valid hdue hspec => exact ⟨hdue, hspec⟩

lemma Resource.IsDue.start_eq {policy : Policy} {r : Resource} (h : r.IsDue policy) :
    Stage.start policy (some r) = Stage.provision r := by
  rcases h with hp | ⟨hp, rfl⟩ <;> simp [Stage.start, hp]

lemma Surroundings.of_provisioned {σ : Type} {e : Surroundings σ} {policy : Policy} {k : Key} {s : σ}
    {r : Resource} (hr : e.lookup k s = some r) (h : (e.reconcile policy k s).1 = .ok .provisioned) :
    r.spec.validate = .ok () ∧
      Stage.start policy (some r) = .execute r (Stage.provisioning r.spec) := by
  rw [reconcile, hr, ← (e.recorded_extends.carryOut _ (s, [])).1] at h
  obtain ⟨hdue, hvalid⟩ := (e.recorded_start policy (some r) s).of_provisioned h
  exact ⟨hvalid, hdue.start_eq.trans (Stage.provision_valid hvalid)⟩

namespace World

/-! ### The attempt and the clean-up -/

variable {w : World} {k : Key} {r : Resource}

/-- Without injected faults a statement that has a text does what the server says, and nothing else. -/
lemma Faultless.execute_eq (h : w.Faultless) (htracks : w.tracking = true) {t : Statement}
    {text : String} (ht : t.render? = .ok text) :
    ∃ w', w.execute t = ((w.server.run t).1, w') ∧ w'.server = (w.server.run t).2 ∧
      w'.tracking = true ∧ w'.faults = w.faults ∧ w'.Faultless ∧ w.SameCache w' := by
  rw [World.execute_eq htracks, h.fault?_eq_none ht]
  exact ⟨_, rfl, rfl, htracks, rfl, h, rfl, rfl, rfl⟩

/-- The two statements of an attempt make the names, and nothing else. -/
lemma Fresh.besides {s : Spec} (hfresh : w.Fresh s) (htracks : w.tracking = true)
    (hfaultless : w.Faultless) (hvalid : s.validate = .ok ()) :
    Besides s ((w.execute (.createUser s.username s.password)).2.execute
      (.createDatabase s.database s.username)).2 w := by
  obtain ⟨_, huser⟩ := Spec.exists_render?_eq_ok hvalid
    (t := .createUser s.username s.password) (by simp [Spec.statements])
  obtain ⟨_, hdatabase⟩ := Spec.exists_render?_eq_ok hvalid
    (t := .createDatabase s.database s.username) (by simp [Spec.statements])
  have hserver : (((w.server.run (.createUser s.username s.password)).2.run
      (.createDatabase s.database s.username)).2).without s = w.server := by
    rw [without_run (by simp [Spec.statements]), without_run (by simp [Spec.statements]),
      without_of_free hfresh.1 hfresh.2]
  obtain ⟨w₁, e₁, hserver₁, htracks₁, hfaults₁, hfaultless₁, hcache₁⟩ :=
    hfaultless.execute_eq htracks huser
  obtain ⟨w₂, e₂, hserver₂, htracks₂, hfaults₂, hfaultless₂, hcache₂⟩ :=
    hfaultless₁.execute_eq htracks₁ hdatabase
  rw [hserver₁] at hserver₂
  rw [e₁, e₂]
  refine ⟨htracks₂, hfaultless₂, ?_, ?_, fun j => .inl ?_, htracks₂.trans htracks.symm,
    hfaults₂.trans hfaults₁, hcache₂.storesWrites.trans hcache₁.storesWrites,
    hcache₂.writeFault.trans hcache₁.writeFault⟩
  · rw [Made, hserver₂]
    exact (Fresh.run hfresh).2
  · rw [hserver₂, hserver]
  · rw [hcache₂.lookup, hcache₁.lookup]

namespace Besides

variable {s : Spec} {w' : World}

/-- A resource with the spec may be cached with a new status. -/
lemma write_left (h : Besides s w w') (hr : r.spec = s) : Besides s (w.write r).2 w' := by
  have hput (j : Journal) : Besides s (World.put r { w with journal := j }).2 w' := by
    have hlookup (k : Key) : (World.put r { w with journal := j }).2.lookup k = w'.lookup k ∨
        ∃ r', (World.put r { w with journal := j }).2.lookup k = some r' ∧ r'.spec = s := by
      rw [lookup_put]
      split_ifs
      · exact .inr ⟨r, rfl, hr⟩
      · exact h.lookup k
    rw [put_eq]
    exact (h.noting j w'.journal).caching hlookup
  cases hf : w.writeFault with
  | some f => rwa [write_eq_error hf]
  | none =>
    rw [write_eq hf]
    split_ifs
    · exact hput _
    · exact h.noting _ w'.journal

lemma conclude_left (h : Besides s w w') (r : Resource) (a : Attempt) :
    Besides s (surroundings.carryOut (Stage.conclude r a) w).2 w' := by
  rw [Surroundings.carryOut_conclude]
  cases a with
  | ok o => exact h.noting _ w'.journal
  | error f =>
    simp only
    split_ifs
    · exact h
    · exact h.noting _ w'.journal

end Besides

/-- The clean-up takes the names away, and nothing else. -/
lemma Made.delete {s : Spec} (hmade : w.Made s) (htracks : w.tracking = true)
    (hfaultless : w.Faultless) (hvalid : s.validate = .ok ()) (hr : r.spec = s) :
    (surroundings.delete r w).1.isSuccess = true ∧
      (surroundings.delete r w).2.server = w.server.without s := by
  subst hr
  obtain ⟨_, hdatabase⟩ := Spec.exists_render?_eq_ok hvalid
    (t := .dropDatabase r.spec.database) (by simp [Spec.statements])
  obtain ⟨_, hrole⟩ := Spec.exists_render?_eq_ok hvalid
    (t := .dropRole r.spec.username) (by simp [Spec.statements])
  obtain ⟨hdropped, hdrops⟩ := run_drops hmade.1 hmade.2
  obtain ⟨w₁, e₁, hserver₁, htracks₁, -, hfaultless₁, -⟩ :=
    hfaultless.execute_eq htracks hdatabase
  obtain ⟨w₂, e₂, hserver₂, -⟩ := hfaultless₁.execute_eq htracks₁ hrole
  rw [hserver₁, hdrops] at e₂ hserver₂
  have hdelete : surroundings.delete r w = ({}, w₂) := by
    simp [Surroundings.delete, Surroundings.cleanup, Sql.runAll, surroundings, e₁, e₂, hdropped,
      Sql.Report.record]
  rw [hdelete]
  exact ⟨rfl, hserver₂⟩

end World

/-- **There and back**: a resource both of whose names were free is provisioned, then other things happen
that do not mention these names, and then it is cleaned up after. The clean-up succeeds, and the server
is as it would be if only the other things had happened. Neither the attempt nor the clean-up touches a
role or a database of another name. -/
theorem World.delete_undoes {w : World} {k : Key} {r r' : Resource} {policy : Policy}
    (htracks : w.tracking = true) (hfaultless : w.Faultless) (hfresh : w.Fresh r.spec)
    (hcached : w.lookup k = some r)
    (hprovisioned : (surroundings.reconcile policy k w).1 = .ok .provisioned) {hs : List Happening}
    (hspared : (surroundings.reconcile policy k w).2.Spared r.spec hs) (hr' : r'.spec = r.spec) :
    let created := (surroundings.reconcile policy k w).2
    let later := created.live hs
    let deleted := surroundings.delete r' later
    deleted.1.isSuccess = true ∧ deleted.2.server = (w.live hs).server ∧
      w.server.AgreesBeyond created.server r.spec ∧
      later.server.AgreesBeyond deleted.2.server r.spec := by
  intro created later deleted
  obtain ⟨hvalid, hstart⟩ := Surroundings.of_provisioned hcached hprovisioned
  have hcreated : Besides r.spec created w := by
    have hlookup : surroundings.lookup k w = some r := hcached
    have hbesides := hfresh.besides htracks hfaultless hvalid
    simp only [created, Surroundings.reconcile, hlookup, hstart, Surroundings.carryOut_provisioning,
      Surroundings.carryOut_write]
    exact (hbesides.write_left (r := r.withStatus _) rfl).conclude_left r _
  have hlater : Besides r.spec later (w.live hs) := hcreated.live hspared
  obtain ⟨hsuccess, hdeleted⟩ := hlater.made.delete hlater.tracks hlater.faultless hvalid hr'
  have hdeleted : deleted.2.server = later.server.without r.spec := hdeleted
  refine ⟨hsuccess, hdeleted.trans hlater.server, ?_, ?_⟩
  · rw [← hcreated.server]
    exact (agreesBeyond_without created.server r.spec).symm
  · rw [hdeleted]
    exact agreesBeyond_without later.server r.spec

namespace World

/-! ### Orders and a ledger -/

def ledger : Resource where
  metadata := { name := some "ledger", scope := some "shop" }
  spec := ⟨"bookkeeper", "secret", "ledger"⟩

/-- Another resource comes and is provisioned, a statement fails, and the resource is gone from the
cache before it is cleaned up after. -/
def bustle : List Happening :=
  [.operation .retry (.put ledger), .operation .retry (.reconcile ⟨"shop", "ledger"⟩),
    .operation .hold (.execute [.createUser "guest" "pass", .dropRole "nobody"]),
    .remove ⟨"shop", "orders"⟩]

lemma bustle_spares (w : World) : w.Spared orders.spec bustle := by
  have hnames : ledger.spec.Disjoint orders.spec := ⟨by decide, by decide⟩
  have hstatements : ∀ t ∈ [.createUser "guest" "pass", .dropRole "nobody"],
      orders.spec.Unmentioned t := by
    simp [Spec.Unmentioned, orders]
  refine ⟨trivial, fun r hr => ?_, hstatements, trivial, trivial⟩
  -- the ledger was put there just before
  obtain rfl : ledger = r := Option.some.inj ((lookup_put w ledger ⟨"shop", "ledger"⟩).symm.trans hr)
  exact hnames

lemma solo_orders_provisioned :
    (surroundings.reconcile .hold ⟨"shop", "orders"⟩ (solo ⟨"shop", "orders"⟩ orders)).1 =
      .ok .provisioned := by
  have hready : (solo ⟨"shop", "orders"⟩ orders).Ready ⟨"shop", "orders"⟩ orders := solo_ready rfl rfl
  obtain ⟨w', hr, -, hf, -, e⟩ := hready.reconcile_eq .hold rfl
  obtain ⟨w'', e', -⟩ := hr.provisionable.carryOut_write _ hf
  rw [e, e']
  rfl

/-- The orders are cleaned up after as they are when they are provisioned. -/
theorem delete_undoes_orders :
    let k : Key := ⟨"shop", "orders"⟩
    let w := solo k orders
    let later := (surroundings.reconcile .hold k w).2.live bustle
    let deleted := surroundings.delete (orders.withStatus success) later
    deleted.1.isSuccess = true ∧ deleted.2.server = (w.live bustle).server := by
  intro k w
  have hready : w.Ready k orders := solo_ready rfl rfl
  have hspec : (orders.withStatus success).spec = orders.spec := rfl
  obtain ⟨hsuccess, hserver, -⟩ := delete_undoes hready.tracking hready.faultless
    ⟨rfl, rfl⟩ hready.lookup solo_orders_provisioned (bustle_spares _) hspec
  exact ⟨hsuccess, hserver⟩

end World

end Provisioner
