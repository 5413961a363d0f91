import Provisioner.Proofs.Controller.Settling

/-!
What is left when nothing is left to be done.

From the moment at which a resource is notified on it is decided or due, so when the queue is idle it
is decided: its state is that of the last attempt, or whatever it was stored with.
-/

namespace Provisioner

namespace Controller

variable {ρ : Type} [Quantity ρ] {c : Controller ρ} {as : List Action} {k : Key}

lemma mirrors_run (h : c.desk.Mirrors)
    (hf : ∀ f, .breakWrites (some f) ∈ as → f.isNotFound = false) : (c.run as).desk.Mirrors := by
  induction as generalizing c with
  | nil => exact h
  | cons a as ih =>
    refine ih (h.step (c.step_desk a) fun f ho => ?_) fun f hm => hf f (List.mem_cons_of_mem _ hm)
    obtain rfl := deed?_outside ho rfl
    exact hf f List.mem_cons_self

/-- Once a resource is decided or due it stays so, until another one is stored in its place. -/
lemma run_settled (hk : k.Plain) (hc : c.desk.Custody) (hm : c.desk.Mirrors)
    (h : c.desk.Decided k ∨ c.desk.Due k) (ho : (c.run as).work.queue.closed = false)
    (hf : ∀ f, .breakWrites (some f) ∈ as → f.isNotFound = false)
    (hp : ∀ r, .put r ∈ as → Key.ofResource r ≠ .ok k) :
    (c.run as).desk.Decided k ∨ (c.run as).desk.Due k := by
  induction as generalizing c with
  | nil => exact h
  | cons a as ih =>
    have hs := c.step_desk a
    have hopen : (c.step a).work.queue.closed = false := run_opened ho
    have hput (r : Resource) (hr : c.deed? a = some (.stored r)) : Key.ofResource r ≠ .ok k := by
      obtain rfl := deed?_outside hr rfl
      exact hp r List.mem_cons_self
    have hmirrors : (c.step a).desk.Mirrors := by
      refine hm.step hs fun f hb => ?_
      obtain rfl := deed?_outside hb rfl
      exact hf f List.mem_cons_self
    have hnext : (c.step a).desk.Decided k ∨ (c.step a).desk.Due k := by
      by_cases hd : c.desk.Decided k
      · exact .inl (hd.step hm hs hput)
      · exact (h.resolve_left hd).step hk hc hm hs hopen hd
    exact ih (hc.step hs) hmirrors hnext ho (fun f hb => hf f (List.mem_cons_of_mem _ hb))
      fun r hr => hp r (List.mem_cons_of_mem _ hr)

/-- **Convergence**: in every run whose writes show in the cache and never fail because a resource is
not found, once the workers serve and the queue is idle, a resource that is cached under a key
without slashes in its parts is provisioned or in error, if a notification of it has been taken up
since it was stored for the last time. -/
theorem run_converges (policy : Policy) (limiter : Limiter ρ String) (world : World)
    (as : List Action) (k : Key) (hk : k.Plain) (hw : world.Mirrors)
    (hf : ∀ f, .breakWrites (some f) ∈ as → f.isNotFound = false)
    (hn : (opening policy limiter world).Meets as fun c a later =>
      c.deed? a = some (.announced k) ∧ ∀ r, .put r ∈ later → Key.ofResource r ≠ .ok k)
    (hs : ((opening policy limiter world).run as).main = .serving)
    (hi : ((opening policy limiter world).run as).desk.Idle) :
    ∀ r, ((opening policy limiter world).run as).world.lookup k = some r →
      r.progress = .provisioned ∨ r.progress = .error := by
  obtain ⟨before, a, later, rfl, ha, hp⟩ := hn
  let c := opening policy limiter world
  have hc (bs : List Action) : (c.run bs).desk.Custody :=
    custody_run (custody_opening policy limiter world) bs
  have hm : (c.run before).desk.Mirrors := by
    refine mirrors_run ⟨hw, fun i st hst => ?_⟩ fun f hb => hf f (List.mem_append_left _ hb)
    simp [c, desk, opening, worker, Worker.stage?] at hst
  have hend : c.run (before ++ a :: later) = ((c.run before).step a).run later := run_append ..
  have hopen : (((c.run before).step a).run later).work.queue.closed = false := by
    rw [← hend]
    exact (hc _).opened (by simp [desk, show (c.run _).main = _ from hs, Main.phase])
  -- when the notification is taken up the key is marked, and from then on it is settled
  have ht : Desk.Step (c.run before).desk (some (.announced k)) ((c.run before).step a).desk :=
    ha ▸ step_desk (c.run before) a
  have hdue : ((c.run before).step a).desk.Due k :=
    .inl (ht.announced_dirty (ht.opened (run_opened hopen)))
  have hsettled := run_settled hk ((hc before).step ht) (hm.step ht (by simp)) (.inr hdue) hopen
    (fun f hb => hf f (List.mem_append_right _ (List.mem_cons_of_mem _ hb))) hp
  rw [← hend] at hsettled
  intro r hr
  have hdecided : r.progress ≠ .unprovisioned := hsettled.resolve_right ((hc _).not_due hi) r hr
  cases hprog : r.progress with
  | unprovisioned => exact absurd hprog hdecided
  | provisioned => exact .inl rfl
  | error => exact .inr rfl

/-- A resource is notified, and a worker goes on until there is nothing left to be done. -/
def workingOffOrders : List Action :=
  [.start 1, .sync true, .main false, .call (.added World.orders), .worker 0 0, .worker 0 0,
    .worker 0 0, .complete (.worker 0), .worker 0 0, .complete (.worker 0), .worker 0 0,
    .worker 0 0, .worker 0 0, .worker 0 0]

theorem run_converges_orders :
    let k : Key := ⟨"shop", "orders"⟩
    let c := shop.run workingOffOrders
    c.main = .serving ∧ c.desk.Idle ∧
      ∀ r, c.world.lookup k = some r → r.progress = .provisioned ∨ r.progress = .error := by
  intro k c
  have hk : k.Plain := ⟨by decide, by decide, by decide⟩
  have hw : (World.solo k World.orders).Mirrors := by
    refine ⟨rfl, nofun, fun j r hj => ?_⟩
    simp only [World.lookup, World.solo, Table.find?_insert] at hj
    split_ifs at hj with hjk
    · obtain rfl := Option.some.inj hj
      rw [show j = k by simpa using hjk]
      rfl
    · cases hj
  have hn : shop.Meets workingOffOrders fun c a later =>
      c.deed? a = some (.announced k) ∧ ∀ r, .put r ∈ later → Key.ofResource r ≠ .ok k :=
    ⟨workingOffOrders.take 3, .call (.added World.orders), workingOffOrders.drop 4, rfl, by decide,
      fun r hr => by simp [workingOffOrders] at hr⟩
  have hi : c.desk.Idle := ⟨by decide, by decide, by decide⟩
  exact ⟨rfl, hi, run_converges .hold (RetryPace.limiter {} 0) _ workingOffOrders k hk hw
    (fun f hf => by simp [workingOffOrders] at hf) hn rfl hi⟩

/-- A resource with a slash in its scope. -/
def strayOrders : Resource :=
  { World.orders with metadata := { name := some "orders", scope := some "a/b" } }

/-- A controller without resources. -/
def emptyShop : Controller Float :=
  opening .hold (RetryPace.limiter {} 0) { tracking := true, storesWrites := true }

/-- The resource is stored and notified, and a worker goes on as far as it can. -/
def workingOffStrayOrders : List Action :=
  [.start 1, .sync true, .main false, .put strayOrders, .call (.added strayOrders), .worker 0 0,
    .worker 0 0, .worker 0 0, .worker 0 0]

/-- The key of a resource with a slash in its scope cannot be read back. The worker drops it, and the
resource stays as it is. -/
theorem stray_orders_dropped :
    let k : Key := ⟨"a/b", "orders"⟩
    let c := emptyShop.run workingOffStrayOrders
    k.name ≠ "" ∧ '/' ∉ k.name.toList ∧ emptyShop.policy = .hold ∧ emptyShop.world.Mirrors ∧
      (emptyShop.Meets workingOffStrayOrders fun c a later =>
        c.deed? a = some (.announced k) ∧ ∀ r, .put r ∈ later → Key.ofResource r ≠ .ok k) ∧
      c.main = .serving ∧ c.desk.Idle ∧
      c.world.lookup k = some strayOrders ∧ strayOrders.progress = .unprovisioned := by
  intro k c
  have hw : emptyShop.world.Mirrors := by
    refine ⟨rfl, fun f hf => ?_, fun j r hj => ?_⟩
    · simp [emptyShop, opening] at hf
    · simp [emptyShop, opening, World.lookup, Table.find?] at hj
  have hn : emptyShop.Meets workingOffStrayOrders fun c a later =>
      c.deed? a = some (.announced k) ∧ ∀ r, .put r ∈ later → Key.ofResource r ≠ .ok k :=
    ⟨workingOffStrayOrders.take 4, .call (.added strayOrders), workingOffStrayOrders.drop 5, rfl,
      by decide, fun r hr => by simp [workingOffStrayOrders] at hr⟩
  have hi : c.desk.Idle := ⟨by decide, by decide, by decide⟩
  exact ⟨by decide, by decide, rfl, hw, hn, rfl, hi, by decide, by decide⟩

end Controller

end Provisioner
