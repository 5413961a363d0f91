import Provisioner.Proofs.Controller.Removals

/-!
What is left of a resource after it was deleted.

The clean-up is not kept apart from an attempt that is under way for the same resource, so the two
removals can fall anywhere between the two creations. What has reached the server, in order, tells
what is left.
-/

namespace Provisioner

open Occurrence

variable {k : Key} {s : Spec}

namespace View

variable {v v' : View} {h : List Occurrence} {o : Option Occurrence}

/-! ### A resource that is gone -/

/-- The resource is not cached, and no attempt for it is under way. -/
structure Gone (k : Key) (v : View) : Prop where
  cached : v.world.lookup k = none
  stage : ∀ i st, (v.worker i).stage? = some st → ∀ r, st.resource? = some r →
    Key.ofResource r ≠ .ok k

lemma Gone.step (hg : v.Gone k) (hv : v.Suits k s) (ht : v.Step o v')
    (ho : ∀ r, o = some (.stored r) → Key.ofResource r ≠ .ok k) : v'.Gone k := by
  refine ⟨Option.eq_none_iff_forall_ne_some.2 fun r hr => ?_, fun i st hi r hr hk => ?_⟩
  · rcases ht.lookup_cases hr with hold | ⟨hk, he | ⟨i, r₀, d, hi, rfl⟩⟩
    · rw [hg.cached] at hold
      cases hold
    · exact ho r he hk
    · exact hg.stage i (.write r₀ d) hi r₀ rfl hk
  · rcases ht.resource_cases hi hr with ⟨st', hi', hr'⟩ | ⟨j, hl⟩
    · exact hg.stage i st' hi' r hr' hk
    · -- what is cached under `j` has the key `j`
      obtain rfl : j = k := Except.ok.inj ((hv.world.cached j r hl).1.symm.trans hk)
      rw [hg.cached] at hl
      cases hl

/-- Nothing is created for it any more. -/
def Uncreated (s : Spec) (ts : List Sql.Statement) : Prop :=
  s.createUser ∉ ts ∧ s.createDatabase ∉ ts

lemma Gone.uncreated (hg : v.Gone k) (hs : v.Sound h) (hv : v.Suits k s) (ht : v.Step o v') :
    Uncreated s (reached o.toList) := by
  have single {e : Executor} {l : Launch} (h₁ : l.statement ≠ s.createUser)
      (h₂ : l.statement ≠ s.createDatabase) :
      Uncreated s (reached (some (Occurrence.completed e l)).toList) := by
    rw [reached_completed]
    split_ifs
    · simp [Uncreated, h₁.symm, h₂.symm]
    · simp [Uncreated]
  cases ht with
  | cleaned e b l he =>
    obtain ⟨d, -, hmem⟩ := hs.mem_cleanup he
    rcases Surroundings.mem_cleanup.1 hmem with hm | hm
    · exact single (by simp [hm]) (by simp [hm])
    · exact single (by simp [hm]) (by simp [hm])
  | executed i key r b l hi =>
    have hst : (v.worker i).stage? = some (.execute r b) := by rw [hi]; rfl
    obtain ⟨hu, hd⟩ := (hv.stage i _ hst r rfl).other (hg.stage i _ hst r rfl)
    rcases Stage.mem_provisioning.1 (hs.mem_provisioning hi) with hm | hm
    · exact single (by simp [hm, hu]) (by simp [hm])
    · exact single (by simp [hm]) (by simp [hm, hd])
  | _ => simp [Uncreated, reached, reached?]

lemma Gone.run {g : List Occurrence} (hg : v.Gone k) (hf : v.Fits k s g) (hval : s.validate = .ok ())
    (hr : v.Run h v') (hh : ∀ x ∈ g ++ h, x.Suits k s)
    (ho : ∀ r, .stored r ∈ h → Key.ofResource r ≠ .ok k) :
    v'.Gone k ∧ Uncreated s (reached h) := by
  induction hr with
  | refl => exact ⟨hg, by simp [Uncreated, reached]⟩
  | @snoc h o v' v'' hr ht ih =>
    rw [← List.append_assoc] at hh
    have hh' : ∀ x ∈ g ++ h, x.Suits k s := fun x hx => hh x (List.mem_append_left _ hx)
    obtain ⟨hg', hu⟩ := ih hh' fun r hr => ho r (List.mem_append_left _ hr)
    have hf' := hf.run hval hr hh'
    refine ⟨hg'.step hf'.suits ht fun r he => ho r (by simp [he]), ?_⟩
    obtain ⟨h₁, h₂⟩ := hg'.uncreated hf'.sound hf'.suits ht
    rw [reached_append]
    exact ⟨by simp [hu.1, h₁], by simp [hu.2, h₂]⟩

end View

/-- Nothing but that resource is stored or deleted, and nothing is made to fail. -/
def Occurrence.concerns (r : Resource) : Occurrence → Bool
  | .stored r' | .took _ r' => r' = r
  | .broke _ => false
  | .completed .. => true

lemma Occurrence.suits_of_concerns {r : Resource} (hk : Key.ofResource r = .ok k)
    {h : List Occurrence} (hh : h.all (Occurrence.concerns r) = true) :
    ∀ x ∈ h, x.Suits k r.spec := by
  have hr : r.Suits k r.spec := ⟨fun _ => rfl, fun h => absurd hk h⟩
  intro x hx
  have hx' := List.all_eq_true.1 hh x hx
  cases x with
  | stored r' | took e r' =>
    obtain rfl : r' = r := by simpa [concerns] using hx'
    exact hr
  | broke faults => simp [concerns] at hx'
  | completed e l => trivial

namespace Controller

variable {ρ : Type}

lemma fits_opening (policy : Policy) (limiter : Limiter ρ String) {world : World}
    (hw : world.Suits k s) : (opening policy limiter world).view.Fits k s [] := by
  have hh : ∀ e, (opening policy limiter world).view.handling e = .free := by
    intro e
    cases e <;> rfl
  have hi : ∀ i, (opening policy limiter world).view.worker i = .ended := by
    intro i
    simp [opening, view, worker]
  refine ⟨sound_opening policy limiter world, ⟨hw, ?_, ?_, ?_⟩, ⟨?_, ?_, ?_⟩, ?_, ?_⟩
  · simp [hi, Worker.stage?]
  · simp [hi, Worker.launch?]
  · simp [hh, Handling.launch?]
  · simp [Spec.Owns, reached]
  · simp [reached]
  · simp [hi, Worker.stage?]
  · simp [reached, hh, Handling.due, Handling.batch?]
  · simp

/-- No executor is in the middle of a clean-up. -/
def Resting (c : Controller ρ) : Prop := c.handling .pump = .free ∧ c.handling .caller = .free

lemma Resting.handling {c : Controller ρ} (h : c.Resting) (e : Executor) :
    c.view.handling e = .free := by
  cases e with
  | worker i => rfl
  | pump => exact h.1
  | caller => exact h.2

variable [Quantity ρ]

/-- **Cleaning up**: when the one deletion of a resource has been handled, neither name is left on
the server exactly if its role was not created after it had been dropped, and its database not
between the two removals. An attempt that ends before the clean-up begins does neither: if at some
moment before it the resource was gone for good, nothing is left. -/
theorem run_cleaned (policy : Policy) (limiter : Limiter ρ String) (world : World)
    (hw : world.Suits k s) (hval : s.validate = .ok ())
    (hrole : world.server.hasRole s.username = false)
    (hdatabase : world.server.hasDatabase s.database = false) (as : List Action)
    (hh : ∀ x ∈ (opening policy limiter world).history as, x.Suits k s)
    (hone : ((opening policy limiter world).history as).countP (deletes k) = 1)
    (hrest : ((opening policy limiter world).run as).Resting) :
    let c := opening policy limiter world
    let server := (c.run as).world.server
    let neither := server.hasRole s.username = false ∧ server.hasDatabase s.database = false
    (∃ x y z, s.Cleanup (reached (c.history as)) x y z ∧
      (neither ↔ s.createUser ∉ z ∧ s.createDatabase ∉ y)) ∧
    ∀ before later, as = before ++ later → (c.history before).countP (deletes k) = 0 →
      (c.run before).view.Gone k →
      (∀ r, .stored r ∈ (c.run before).history later → Key.ofResource r ≠ .ok k) → neither := by
  intro c server neither
  have hc : c.Orderly := orderly_opening policy limiter world
  have hf : c.view.Fits k s [] := fits_opening policy limiter hw
  have hr := run_view hc as
  have hf' : (c.run as).view.Fits k s (c.history as) := hf.run hval hr hh
  have hserver : server = world.server.after (reached (c.history as)) :=
    (hr.server_eq hw.tracking).2
  obtain ⟨x, y, z, hx⟩ := hf'.exists_cleanup hone hrest.handling
  have hiff : neither ↔ s.createUser ∉ z ∧ s.createDatabase ∉ y := by
    simp only [neither, hserver]
    exact hx.neither_iff hf'.told.owns hrole hdatabase hf'.told.user_first
  refine ⟨⟨x, y, z, hx, hiff⟩, fun before later has hzero hgone hstored => ?_⟩
  rw [has, history_append] at hh hx
  have hh' : ∀ x ∈ c.history before, x.Suits k s := fun x hx => hh x (List.mem_append_left _ hx)
  have hb : (c.run before).view.Fits k s (c.history before) :=
    hf.run hval (run_view hc before) hh'
  obtain ⟨hu, hd⟩ : View.Uncreated s (reached ((c.run before).history later)) :=
    (hgone.run hb hval (run_view (hc.run before) later) hh hstored).2
  -- both removals come later, and nothing is created later
  rw [reached_append] at hx
  obtain ⟨hy, hz⟩ := hx.subset (hb.not_dropped hzero)
  exact hiff.2 ⟨fun h => hu (hz h), fun h => hd (hy h)⟩

/-! ### Deleting in time, and too early -/

omit [Quantity ρ]

lemma suits_solo {r : Resource} (hk : Key.ofResource r = .ok k) :
    (World.solo k r).Suits k r.spec := by
  refine ⟨rfl, fun _ => rfl, fun j r' hj => ?_⟩
  rw [World.lookup, World.solo, Table.find?_insert] at hj
  split_ifs at hj with hjk
  · obtain rfl := Option.some.inj hj
    obtain rfl : j = k := by simpa using hjk
    exact ⟨hk, fun _ => rfl, fun h => absurd hk h⟩
  · cases hj

def deletingOrders : List Action :=
  [.remove ⟨"shop", "orders"⟩, .call (.deleted World.orders), .caller, .complete .caller, .caller,
    .complete .caller]

/-- The clean-up follows the attempt. -/
theorem run_cleaned_orders :
    let as := provisioningOrders ++ deletingOrders
    let server := (shop.run as).world.server
    let s := World.orders.spec
    ∃ x y z, s.Cleanup (reached (shop.history as)) x y z ∧
      (server.hasRole s.username = false ∧ server.hasDatabase s.database = false ↔
          s.createUser ∉ z ∧ s.createDatabase ∉ y) := by
  have hh : (shop.history (provisioningOrders ++ deletingOrders)).all (concerns World.orders) =
      true := by decide
  have hone : (shop.history (provisioningOrders ++ deletingOrders)).countP
      (deletes ⟨"shop", "orders"⟩) = 1 := by decide
  have hrest : (shop.run (provisioningOrders ++ deletingOrders)).Resting := ⟨rfl, rfl⟩
  exact (run_cleaned (k := ⟨"shop", "orders"⟩) (s := World.orders.spec) .hold
    (RetryPace.limiter {} 0) (World.solo ⟨"shop", "orders"⟩ World.orders) (suits_solo rfl) rfl rfl
    rfl (provisioningOrders ++ deletingOrders) (suits_of_concerns rfl hh) hone hrest).1

/-- The worker has begun to create the role when the resource is deleted. -/
def deletingTooEarly : List Action :=
  [.start 1, .sync true, .main false, .addKey "shop/orders", .worker 0 0, .worker 0 0, .worker 0 0,
    .remove ⟨"shop", "orders"⟩, .call (.deleted World.orders), .caller, .complete .caller, .caller,
    .complete .caller, .complete (.worker 0), .worker 0 0, .complete (.worker 0),
    .breakWrites (some (.api (.refused { reason := "NotFound", code := 404 }))), .worker 0 0,
    .worker 0 0, .worker 0 0, .worker 0 0]

/-- A clean-up in the middle of an attempt finds nothing, and what the attempt creates stays. -/
theorem orders_left_behind :
    let c := shop.run deletingTooEarly
    let h := shop.history deletingTooEarly
    let k : Key := ⟨"shop", "orders"⟩
    let s := World.orders.spec
    (shop.world.Suits k s ∧ s.validate = .ok () ∧ shop.world.server.hasRole s.username = false ∧
      shop.world.server.hasDatabase s.database = false ∧ ∀ x ∈ h, x.Suits k s) ∧
    (h.countP (deletes k) = 1 ∧ c.Resting ∧ c.world.lookup k = none) ∧
    (c.work.queue.line = [] ∧ c.work.queue.active = [] ∧ c.work.timers.alarms = []) ∧
    c.world.server.hasRole s.username = true ∧ c.world.server.hasDatabase s.database = true := by
  intro c h k s
  have hval : World.orders.spec.validate = .ok () := rfl
  have hh : (shop.history deletingTooEarly).all (concerns World.orders) = true := by decide
  have hone : (shop.history deletingTooEarly).countP (deletes ⟨"shop", "orders"⟩) = 1 := by decide
  have hrest : (shop.run deletingTooEarly).Resting := ⟨rfl, rfl⟩
  refine ⟨⟨suits_solo rfl, hval, rfl, rfl, suits_of_concerns rfl hh⟩, ⟨hone, hrest, ?_⟩, ?_, ?_, ?_⟩
  all_goals decide

end Controller

end Provisioner
