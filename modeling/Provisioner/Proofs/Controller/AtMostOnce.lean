import Provisioner.Proofs.Controller.Attempts
import Provisioner.Proofs.Controller.Settling

/-!
How often something is done about a resource.

From the look-up of a resource that is not decided until its status is written, one worker is busy
with it; after that the cache says that it is decided, until someone stores it anew. Meanwhile the
queue hands the same text to nobody else. It does hand out another text of the same key, so two
workers that came by different texts can be busy with one resource.
-/

namespace Provisioner

/-- The worker came by this text, and has still to write a status for the resource of that key. -/
def Worker.Busy (x : String) (k : Key) : Worker → Prop
  | .reconciling key (.execute r _) | .reconciling key (.write r _) | .running key r _ _ =>
    key = x ∧ Key.ofResource r = .ok k
  | _ => False

lemma Worker.Busy.key? {x : String} {k : Key} {w : Worker} (h : w.Busy x k) : w.key? = some x := by
  cases w with
  | reconciling key s =>
    cases s with
    | execute r b => exact congrArg some h.1
    | write r v => exact congrArg some h.1
    | publish r a => exact h.elim
    | finished a => exact h.elim
  | running key r b l => exact congrArg some h.1
  | idle | waiting | handed key | releasing key | ended | dead key => exact h.elim

lemma Stage.provision_busy {r : Resource} {k : Key} (h : Key.ofResource r = .ok k) (x : String) :
    (Worker.reconciling x (provision r)).Busy x k := by
  unfold provision
  split <;> exact ⟨rfl, h⟩

lemma Stage.afterStatement_busy {r : Resource} {k : Key} (h : Key.ofResource r = .ok k) (x : String)
    (b : Sql.Batch) (outcome : Except Failure Unit) :
    (Worker.reconciling x (afterStatement r b outcome)).Busy x k := by
  unfold afterStatement
  split <;> exact ⟨rfl, h⟩

namespace Desk

variable {d d' : Desk} {o : Option Deed} {i : Nat} {x : String} {k : Key}

/-- Writes succeed and show in the cache, and what failed is left alone. -/
structure Steady (d : Desk) : Prop where
  custody : d.Custody
  mirrors : d.Mirrors
  writes : d.world.writeFault = none
  policy : d.policy = .hold

lemma Step.writeFault (hs : d.Step o d') (h : d.world.writeFault = none)
    (ho : ∀ f, o ≠ some (.brokeWrites (some f))) : d'.world.writeFault = none := by
  cases hs with
  | aside hw => exact hw.writeFault.trans h
  | stored r => exact (d.world.writeFault_put r).trans h
  | brokeWrites fault =>
    cases fault with
    | none => rfl
    | some f => exact absurd rfl (ho f)
  | executed i hi => exact (World.sameCache_complete _ _).writeFault.trans h
  | writes i hi => exact (d.world.writeFault_write _).trans h
  | _ => exact h

lemma Steady.step (h : d.Steady) (hs : d.Step o d')
    (ho : ∀ f, o ≠ some (.brokeWrites (some f))) : d'.Steady where
  custody := h.custody.step hs
  mirrors := h.mirrors.step hs fun f hf => absurd hf (ho f)
  writes := hs.writeFault h.writes ho
  policy := hs.policy.trans h.policy

/-- A write succeeds, and what it writes decides. -/
lemma Steady.decided_write (h : d.Steady) {key : String} {r : Resource} {v : Verdict}
    (hi : d.worker i = .reconciling key (.write r v)) (hr : Key.ofResource r = .ok k) (w : Worker) :
    Decided k ({ d with world := (d.world.write (r.withStatus v.status)).2 }.occupy i w) := by
  intro r' hr'
  change (d.world.write (r.withStatus v.status)).2.lookup k = some r' at hr'
  rcases h.mirrors.world.write_cases (r.withStatus v.status) with ⟨f, -, he⟩ | ⟨-, -, hl⟩
  · have hok := World.write_ok h.writes (r.withStatus v.status)
    rw [he] at hok
    cases hok
  · have hrk : Key.ofResource (r.withStatus v.status) = .ok k := hr
    rw [hl, if_pos hrk] at hr'
    obtain rfl := Option.some.inj hr'
    exact h.mirrors.decisive i (.write r v) (by rw [hi]; rfl)

/-- **Step**: a worker that is busy with a resource stays so until the resource is decided. -/
lemma Steady.busy_step (h : d.Steady) (hs : d.Step o d') (hw : (d.worker i).Busy x k) :
    d'.Decided k ∨ (d'.worker i).Busy x k := by
  have elsewhere {d₁ : Desk} {j : Nat} {w : Worker} (hd : d₁.worker = d.worker)
      (hj : ¬ (d.worker j).Busy x k) : ((d₁.occupy j w).worker i).Busy x k := by
    have hij : i ≠ j := by
      rintro rfl
      exact hj hw
    rw [worker_occupy_of_ne _ hij, hd]
    exact hw
  -- the worker that takes the step is another one, or goes on with its attempt
  have goesOn {d₁ : Desk} {j : Nat} {w : Worker} (hd : d₁.worker = d.worker)
      (hj : (d.worker j).Busy x k → w.Busy x k) : ((d₁.occupy j w).worker i).Busy x k := by
    rcases eq_or_ne i j with rfl | hne
    · rw [worker_occupy_self]
      exact hj hw
    · rw [worker_occupy_of_ne _ hne, hd]
      exact hw
  cases hs with
  | aside | stored | removed | brokeWrites | queued | announced | rang | closed => exact .inr hw
  | started w hp hk =>
    rw [h.custody.early hp i] at hw
    exact hw.elim
  | rested j w hj hk =>
    refine .inr (elsewhere rfl fun hb => ?_)
    simpa [hj.key?] using hb.key?
  | handed j hj hq =>
    refine .inr (elsewhere rfl fun hb => ?_)
    simpa [hj.key?] using hb.key?
  | dropped j hj | consulted j hj | publishes j hj | succeeded j hj | died j hj | retries j hj
  | putOff j hj | released j hj =>
    refine .inr (elsewhere rfl fun hb => ?_)
    rw [hj] at hb
    exact hb.elim
  | executes j hj =>
    refine .inr (goesOn rfl fun hb => ?_)
    rw [hj] at hb
    exact hb
  | @executed j key r b l hj =>
    refine .inr (goesOn rfl fun hb => ?_)
    rw [hj] at hb
    obtain ⟨rfl, hr⟩ := hb
    exact Stage.afterStatement_busy hr key b _
  | @writes j key r v hj =>
    by_cases hb : (d.worker j).Busy x k
    · rw [hj] at hb
      exact .inl (h.decided_write hj hb.2 _)
    · exact .inr (elsewhere rfl hb)

/-- The attempt begins with what the cache has. -/
lemma Steady.consulted (h : d.Steady) (hs : d.Step (some (.consulted i x)) d')
    (hk : Key.parse x = .ok k) :
    d'.worker i = .reconciling x (.start .hold (d.world.lookup k)) := by
  cases hs with
  | dropped i hi hp =>
    rw [hp] at hk
    cases hk
  | @consulted i key j hi hp =>
    obtain rfl : j = k := Except.ok.inj (hp.symm.trans hk)
    rw [worker_occupy_self, h.policy]

end Desk

namespace Controller

open Desk

variable {ρ : Type} [Quantity ρ] {c : Controller ρ} {as : List Action} {i : Nat} {x : String}
  {k : Key}

lemma steady_step (h : c.desk.Steady) {a : Action} (ha : ∀ f, a ≠ .breakWrites (some f)) :
    (c.step a).desk.Steady :=
  h.step (c.step_desk a) fun f hf => ha f (deed?_outside hf rfl)

lemma steady_run (h : c.desk.Steady) (hb : ∀ f, .breakWrites (some f) ∉ as) :
    (c.run as).desk.Steady := by
  induction as generalizing c with
  | nil => exact h
  | cons a as ih =>
    have ha : ∀ f, a ≠ .breakWrites (some f) := fun f hf => hb f (by simp [hf])
    exact ih (steady_step h ha) fun f hf => hb f (List.mem_cons_of_mem _ hf)

/-- **Run**: until someone stores the resource anew, it is decided or the worker is still busy. -/
lemma run_busy (h : c.desk.Steady) (hb : ∀ f, .breakWrites (some f) ∉ as)
    (hp : ∀ r, .put r ∈ as → Key.ofResource r ≠ .ok k)
    (hx : c.desk.Decided k ∨ (c.worker i).Busy x k) :
    (c.run as).desk.Decided k ∨ ((c.run as).worker i).Busy x k := by
  induction as generalizing c with
  | nil => exact hx
  | cons a as ih =>
    have ha : ∀ f, a ≠ .breakWrites (some f) := fun f hf => hb f (by simp [hf])
    have hs := c.step_desk a
    refine ih (steady_step h ha) (fun f hf => hb f (List.mem_cons_of_mem _ hf))
      (fun r hr => hp r (List.mem_cons_of_mem _ hr)) ?_
    rcases hx with hd | hw
    · refine .inl (hd.step h.mirrors hs fun r hr => hp r ?_)
      rw [deed?_outside hr rfl]
      exact List.mem_cons_self
    · exact h.busy_step hs hw

/-- A worker that has nothing planned does nothing. -/
lemma efforts_eq_nil (hd : c.desk.Custody) (h : (c.worker i).plan = []) : c.efforts i as = [] := by
  rcases efforts_plan (i := i) hd as with he | he <;> rw [h] at he
  · exact he
  · exact (List.append_eq_nil_iff.1 he).1

/-- A look-up leaves the worker busy with the resource, or with nothing to do about it. -/
lemma consulted_cases (h : c.desk.Steady) {a : Action} (ha : c.deed? a = some (.consulted i x))
    (hk : Key.parse x = .ok k) :
    ((c.step a).worker i).plan = [] ∨
      ∃ r, c.world.lookup k = some r ∧ r.progress = .unprovisioned ∧
        ((c.step a).worker i).plan = (Stage.provision r).plan ∧ ((c.step a).worker i).Busy x k := by
  have hs := c.step_desk a
  rw [ha] at hs
  have hw : (c.step a).worker i = .reconciling x (.start .hold (c.world.lookup k)) :=
    h.consulted hs hk
  rcases Stage.plan_start_hold (c.world.lookup k) with hp | ⟨r, hl, hr, hst⟩
  · exact .inl (by rw [hw]; exact hp)
  · rw [hw, hst]
    exact .inr ⟨r, hl, hr, rfl, Stage.provision_busy (h.mirrors.world.cached k r hl) x⟩

/-- Of two attempts for a key with no store in between one does nothing, unless they came by
different texts and the second began while the first was under way. -/
lemma efforts_once (h : c.desk.Steady) {a b : Action} {between : List Action} (later : List Action)
    {j : Nat} {y : String} (hf : ∀ f, .breakWrites (some f) ∉ a :: between)
    (ha : c.deed? a = some (.consulted i x)) (hx : Key.parse x = .ok k)
    (hb : (c.run (a :: between)).deed? b = some (.consulted j y)) (hy : Key.parse y = .ok k)
    (hp : ∀ r, .put r ∈ between → Key.ofResource r ≠ .ok k) :
    (c.step a).efforts i (between ++ b :: later) = [] ∨
      (c.run (a :: between ++ [b])).efforts j later = [] ∨
      x ≠ y ∧ ((c.run (a :: between)).worker i).Busy x k := by
  have ha' : ∀ f, a ≠ .breakWrites (some f) := fun f hf' => hf f (by simp [hf'])
  have hf' : ∀ f, .breakWrites (some f) ∉ between := fun f hm => hf f (List.mem_cons_of_mem _ hm)
  have h₁ : (c.step a).desk.Steady := steady_step h ha'
  have h₂ : (c.run (a :: between)).desk.Steady := steady_run h hf
  rcases consulted_cases h ha hx with hplan | ⟨r, -, -, -, hbusy⟩
  · exact .inl (efforts_eq_nil h₁.custody hplan)
  · rcases run_busy h₁ hf' hp (.inr hbusy) with hd | hw
    · -- the cache says that it is decided
      refine .inr (.inl ?_)
      rw [run_append]
      refine efforts_eq_nil (h₂.custody.step ((c.run (a :: between)).step_desk b)) ?_
      rcases consulted_cases h₂ hb hy with hplan | ⟨r, hl, hr, -⟩
      · exact hplan
      · exact absurd hr (hd r hl)
    · -- nobody else has the text that the first worker has
      refine .inr (.inr ⟨?_, hw⟩)
      rintro rfl
      have hj : (c.run (a :: between)).worker j = .handed x := handed_of_consulted hb
      have hjx : ((c.run (a :: between)).worker j).key? = some x := by rw [hj]; rfl
      obtain rfl : i = j := h₂.custody.alone i j x hw.key? hjx
      rw [show ((c.step a).run between).worker i = .handed x from hj] at hw
      exact hw.elim

/-- **At most once**: under `hold`, with writes that succeed and show in the cache, an attempt does
nothing, or it is for a resource that was not decided when it was looked up, and does what a plan
says: one statement for the role and then one for the database, if the spec is valid, and then a
status; whatever of the plan it has not done, the worker is still to do. And of two attempts for one
key, with nobody storing the resource between their look-ups, one does nothing, unless they came by
different texts and the second one began while the first one still had its status to write. -/
theorem run_attempts_once (limiter : Limiter ρ String) (world : World) (hw : world.Mirrors)
    (hf : world.writeFault = none) (as : List Action) (hb : ∀ f, .breakWrites (some f) ∉ as) :
    let c := opening .hold limiter world
    (∀ before a later i x k, as = before ++ a :: later →
      (c.run before).deed? a = some (.consulted i x) → Key.parse x = .ok k →
      let done := (c.run (before ++ [a])).efforts i later
      done = [] ∨ ∃ r, (c.run before).world.lookup k = some r ∧ r.progress = .unprovisioned ∧
        let plan := if r.spec.validate = .ok () then
            [.executes (.createUser r.spec.username r.spec.password),
              .executes (.createDatabase r.spec.database r.spec.username), .reports r]
          else [.reports r]
        done = plan ∨ done ++ ((c.run as).worker i).plan = plan) ∧
    ∀ before a between b later i x j y k, as = before ++ a :: (between ++ b :: later) →
      (c.run before).deed? a = some (.consulted i x) → Key.parse x = .ok k →
      (c.run (before ++ a :: between)).deed? b = some (.consulted j y) → Key.parse y = .ok k →
      (∀ r, .put r ∈ between → Key.ofResource r ≠ .ok k) →
      (c.run (before ++ [a])).efforts i (between ++ b :: later) = [] ∨
        (c.run (before ++ a :: between ++ [b])).efforts j later = [] ∨
        x ≠ y ∧ ((c.run (before ++ a :: between)).worker i).Busy x k := by
  intro c
  have hc : c.desk.Steady :=
    ⟨custody_opening .hold limiter world, ⟨hw, fun i st hi => by
      simp [c, desk, opening, worker, Worker.stage?] at hi⟩, hf, rfl⟩
  have steady {before later : List Action} (has : as = before ++ later) :
      (c.run before).desk.Steady :=
    steady_run hc fun f hm => hb f (by simp [has, hm])
  refine ⟨fun before a later i x k has ha hk => ?_,
    fun before a between b later i x j y k has ha hx hb' hy hp => ?_⟩
  · have hs := steady has
    have hcust : ((c.run before).step a).desk.Custody := hs.custody.step ((c.run before).step_desk a)
    have hfirst : c.run (before ++ [a]) = (c.run before).step a := run_append before [a]
    have hrun : c.run as = ((c.run before).step a).run later := by
      rw [has, run_append]
      rfl
    intro done
    have hdone : done = ((c.run before).step a).efforts i later := by rw [← hfirst]
    rcases consulted_cases hs ha hk with hplan | ⟨r, hl, hr, hplan, -⟩
    · exact .inl (hdone.trans (efforts_eq_nil hcust hplan))
    · refine .inr ⟨r, hl, hr, ?_⟩
      rw [hdone, hrun, ← Stage.plan_provision, ← hplan]
      exact efforts_plan hcust later
  · have hnone : ∀ f, .breakWrites (some f) ∉ a :: between := fun f hm => hb f (by
      rw [has, List.append_cons, ← List.append_assoc]
      simp only [List.mem_append, List.mem_cons] at hm ⊢
      tauto)
    rw [run_append] at hb'
    have ho := efforts_once (steady has) later hnone ha hx hb' hy hp
    have h₁ : c.run (before ++ [a]) = (c.run before).step a := run_append before [a]
    have h₂ : c.run (before ++ a :: between ++ [b]) = (c.run before).run (a :: between ++ [b]) := by
      rw [List.append_assoc, run_append]
    rw [h₁, h₂, run_append before (a :: between)]
    exact ho

omit [Quantity ρ]

/-! ### One text, and two texts for one key -/

/-- Two workers are started, and the resource is notified. -/
def announcingOrders : List Action :=
  [.start 2, .sync true, .main false, .call (.added World.orders), .worker 0 0]

/-- It is notified again while the first worker provisions it. -/
def reannouncingOrders : List Action :=
  [.call (.updated World.orders World.orders), .worker 0 0, .complete (.worker 0), .worker 0 0,
    .complete (.worker 0), .worker 0 0, .worker 0 0, .worker 0 0, .worker 0 0, .worker 1 0]

/-- The second worker gets the same text, and does nothing. -/
theorem run_attempts_once_orders :
    let as := announcingOrders ++ .worker 0 0 :: reannouncingOrders
    let later : List Action := [.worker 1 0, .worker 1 0, .worker 1 0]
    (shop.run as).deed? (.worker 1 0) = some (.consulted 1 "shop/orders") ∧
      (shop.run (as ++ [.worker 1 0])).efforts 1 later = [] := by
  intro as later
  have hb : (shop.run as).deed? (.worker 1 0) = some (.consulted 1 "shop/orders") := by decide
  have hbusy : (shop.run (announcingOrders ++ [.worker 0 0])).efforts 0
      (reannouncingOrders ++ .worker 1 0 :: later) ≠ [] := by decide
  have ho := (run_attempts_once (RetryPace.limiter {} 0) (World.solo ⟨"shop", "orders"⟩ World.orders)
    (World.mirrors_solo rfl) rfl (as ++ .worker 1 0 :: later)
    (fun f hf => by simp [as, later, announcingOrders, reannouncingOrders] at hf)).2
    announcingOrders (.worker 0 0) reannouncingOrders (.worker 1 0) later 0 "shop/orders" 1
    "shop/orders" ⟨"shop", "orders"⟩ (by simp [as]) (by decide) (by decide) hb (by decide)
    (fun r hr => by simp [reannouncingOrders] at hr)
  exact ⟨hb, (ho.resolve_left hbusy).resolve_right fun h => h.1 rfl⟩

/-- A resource without a scope. -/
def bareOrders : Resource := { World.orders with metadata := { name := some "orders" } }

/-- A resource whose name begins with a slash. Its text is another one, but stands for the same
key. -/
def slashedOrders : Resource := { World.orders with metadata := { name := some "/orders" } }

def bareShop : Controller Float :=
  opening .hold (RetryPace.limiter {} 0) (World.solo ⟨"", "orders"⟩ bareOrders)

/-- Both are notified, and each of two workers gets one of the texts. -/
def announcingTwice : List Action :=
  [.start 2, .sync true, .main false, .call (.added bareOrders), .call (.added slashedOrders),
    .worker 0 0, .worker 1 0]

/-- Both workers go on to the end of their attempts. -/
def provisioningTwice : List Action :=
  [.worker 0 0, .worker 1 0, .complete (.worker 0), .complete (.worker 1), .worker 0 0,
    .worker 1 0, .complete (.worker 0), .complete (.worker 1), .worker 0 0, .worker 1 0]

/-- Two workers look up one resource by different texts, and both provision it. -/
theorem orders_attempted_twice :
    let k : Key := ⟨"", "orders"⟩
    let s := World.orders.spec
    let plan : List Effort := [.executes (.createUser s.username s.password),
      .executes (.createDatabase s.database s.username), .reports bareOrders]
    let as := announcingTwice ++ .worker 0 0 :: .worker 1 0 :: provisioningTwice
    (bareShop.policy = .hold ∧ bareShop.world.Mirrors ∧ bareShop.world.writeFault = none ∧
      (∀ f, .breakWrites f ∉ as) ∧ ∀ r, .put r ∉ as) ∧
    ((bareShop.run announcingTwice).deed? (.worker 0 0) = some (.consulted 0 "orders") ∧
      Key.parse "orders" = .ok k) ∧
    ((bareShop.run (announcingTwice ++ [.worker 0 0])).deed? (.worker 1 0) =
        some (.consulted 1 "/orders") ∧ Key.parse "/orders" = .ok k) ∧
    (bareShop.run (announcingTwice ++ [.worker 0 0])).efforts 0 (.worker 1 0 :: provisioningTwice) =
      plan ∧
    (bareShop.run (announcingTwice ++ [.worker 0 0, .worker 1 0])).efforts 1 provisioningTwice =
      plan := by
  intro k s plan as
  have hw : bareShop.world.Mirrors := World.mirrors_solo rfl
  refine ⟨⟨rfl, hw, rfl, fun f hf => ?_, fun r hr => ?_⟩, ⟨?_, ?_⟩, ⟨?_, ?_⟩, ?_, ?_⟩
  · simp [as, announcingTwice, provisioningTwice] at hf
  · simp [as, announcingTwice, provisioningTwice] at hr
  all_goals decide

end Controller

end Provisioner
