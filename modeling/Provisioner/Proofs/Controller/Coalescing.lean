import Provisioner.Proofs.Controller.Custody

/-!
Notifications that become one, and that none of them is lost.

A key is marked when a notification is taken up, and stays marked until it is handed out. Whoever
gets it looks into the cache only afterwards, and sees what the notification was about or something
newer.
-/

namespace Provisioner

namespace Desk

variable {d d' : Desk} {o : Option Deed} {i : Nat} {key : String}

/-- Only a hand-out removes the mark from a key. -/
lemma Step.dirty (hs : d.Step o d') (h : key ∈ d.queue.dirty) :
    key ∈ d'.queue.dirty ∨ ∃ i, o = some (.handed i key) := by
  cases hs with
  | queued | announced | retries => exact .inl (Queue.mem_dirty_add.2 (.inl h))
  | rang => exact .inl (Queue.mem_dirty_adds.2 (.inl h))
  | @handed i x q hi hq =>
    rcases eq_or_ne key x with rfl | hne
    · exact .inr ⟨i, rfl⟩
    · exact .inl ((Queue.mem_dirty_take hq).2 ⟨h, hne⟩)
  | _ => exact .inl h

lemma Vacant.ne_handed (h : d.Vacant i) (key : String) : d.worker i ≠ .handed key := by
  rcases h with h | h <;> simp [h]

lemma Step.handed_worker (hs : d.Step (some (.handed i key)) d') : d'.worker i = .handed key := by
  cases hs
  exact worker_occupy_self ..

/-- A worker with a key in its hands does nothing before it has looked the key up. -/
lemma Custody.handed_step (hd : d.Custody) (hs : d.Step o d') (h : d.worker i = .handed key) :
    d'.worker i = .handed key ∨ o = some (.consulted i key) ∧
      ∀ j, Key.parse key = .ok j →
        d'.worker i = .reconciling key (.start d.policy (d.world.lookup j)) := by
  have others {d₁ : Desk} {j : Nat} {w : Worker} (h₁ : d₁.worker i = .handed key)
      (hj : j ≠ i) : (d₁.occupy j w).worker i = .handed key :=
    (worker_occupy_of_ne d₁ hj.symm w).trans h₁
  have apart {j : Nat} (hj : d.worker j ≠ .handed key) : j ≠ i := by
    rintro rfl
    exact hj h
  cases hs with
  | aside | stored | removed | brokeWrites | queued | announced | rang | closed => exact .inl h
  | started w hp hw =>
    rw [hd.early hp i] at h
    cases h
  | rested j w hj hw => exact .inl (others h (apart (hj.ne_handed key)))
  | handed j hj hq => exact .inl (others h (apart (hj.ne_handed key)))
  | @dropped j x f hj hk =>
    rcases eq_or_ne j i with rfl | hne
    · obtain rfl : x = key := Worker.handed.inj (hj.symm.trans h)
      refine .inr ⟨rfl, fun k hk' => ?_⟩
      rw [hk] at hk'
      cases hk'
    · exact .inl (others h hne)
  | @consulted j x k hj hk =>
    rcases eq_or_ne j i with rfl | hne
    · obtain rfl : x = key := Worker.handed.inj (hj.symm.trans h)
      refine .inr ⟨rfl, fun k' hk' => ?_⟩
      obtain rfl : k = k' := Except.ok.inj (hk.symm.trans hk')
      exact worker_occupy_self ..
    · exact .inl (others h hne)
  | executes j hj | executed j hj | writes j hj | publishes j hj | succeeded j hj | died j hj
  | retries j hj | putOff j hj | released j hj => exact .inl (others h (apart (by simp [hj])))

end Desk

namespace Controller

variable {ρ : Type} [Quantity ρ] {c : Controller ρ} {as : List Action} {i : Nat} {key : String}

/-- The worker begins its attempt with what the cache has at that moment. -/
def Reads (c : Controller ρ) (i : Nat) (key : String) (a : Action) : Prop :=
  c.deed? a = some (.consulted i key) ∧
    ∀ j, Key.parse key = .ok j →
      (c.step a).worker i = .reconciling key (.start c.policy (c.world.lookup j))

/-- A key stays marked for as long as it is not handed out. -/
lemma run_dirty (h : key ∈ c.work.queue.dirty) :
    key ∈ (c.run as).work.queue.dirty ∨
      c.Meets as fun c a _ => ∃ i, c.deed? a = some (.handed i key) := by
  induction as generalizing c with
  | nil => exact .inl h
  | cons a as ih =>
    rw [meets_cons]
    rcases (c.step_desk a).dirty h with hd | hh
    · exact (ih hd).imp_right .inr
    · exact .inr (.inl hh)

/-- Whoever has a key in its hands keeps it until it looks it up. -/
lemma run_handed (hc : c.desk.Custody) (h : c.worker i = .handed key) :
    (c.run as).worker i = .handed key ∨ c.Meets as fun c a _ => c.Reads i key a := by
  induction as generalizing c with
  | nil => exact .inl h
  | cons a as ih =>
    rw [meets_cons]
    rcases hc.handed_step (c.step_desk a) h with hw | hr
    · exact (ih (hc.step (c.step_desk a)) hw).imp_right .inr
    · exact .inr (.inl hr)

/-- **No notification is lost**: in every run whose queue is still open, when a notification that a
resource was added or updated is taken up at some moment, then at the end its key is marked, or it
has been handed out after that moment. And whoever it is handed out to afterwards still has it in
its hands, or has since begun an attempt with what the cache had then. -/
theorem announced_not_lost (policy : Policy) (limiter : Limiter ρ String) (world : World)
    (before : List Action) (a : Action) (later : List Action) (k : Key)
    (ha : ((opening policy limiter world).run before).deed? a = some (.announced k))
    (ho : ((opening policy limiter world).run (before ++ a :: later)).work.queue.closed = false) :
    let c := (opening policy limiter world).run (before ++ [a])
    (k.text ∈ (c.run later).work.queue.dirty ∨
      c.Meets later fun c b _ => ∃ i, c.deed? b = some (.handed i k.text)) ∧
    ∀ l₁ b l₂ i, later = l₁ ++ b :: l₂ → (c.run l₁).deed? b = some (.handed i k.text) →
      (c.run later).worker i = .handed k.text ∨
        (c.run (l₁ ++ [b])).Meets l₂ fun c b' _ => c.Reads i k.text b' := by
  intro c
  have hc : c = ((opening policy limiter world).run before).step a := run_append before [a]
  have hopen : ((opening policy limiter world).run before).work.queue.closed = false := by
    rw [run_append] at ho
    exact run_opened ho
  refine ⟨run_dirty ?_, fun l₁ b l₂ i hl hb => ?_⟩
  · rw [hc]
    exact (ha ▸ step_desk _ a).announced_dirty hopen
  · have hcust : (c.run (l₁ ++ [b])).desk.Custody :=
      custody_run (custody_run (custody_opening policy limiter world) _) _
    have hw : (c.run (l₁ ++ [b])).worker i = .handed k.text := by
      rw [run_append]
      exact (hb ▸ step_desk (c.run l₁) b).handed_worker
    have hrun : c.run later = (c.run (l₁ ++ [b])).run l₂ := by
      rw [hl, List.append_cons, run_append]
    rw [hrun]
    exact run_handed hcust hw

/-- Two notifications become one, and after the second one the key is handed out. -/
theorem announced_not_lost_orders :
    let before : List Action := [.start 1, .sync true, .main false, .call (.added World.orders)]
    let a : Action := .call (.updated World.orders World.orders)
    let later : List Action := [.worker 0 0, .worker 0 0]
    (shop.run before).deed? a = some (.announced ⟨"shop", "orders"⟩) ∧
      (shop.run (before ++ [a])).Meets later fun c b _ =>
        ∃ i, c.deed? b = some (.handed i "shop/orders") := by
  intro before a later
  have ha : (shop.run before).deed? a = some (.announced ⟨"shop", "orders"⟩) := by decide
  have hdirty : "shop/orders" ∉ ((shop.run (before ++ [a])).run later).work.queue.dirty := by decide
  exact ⟨ha, (announced_not_lost _ _ _ before a later _ ha (by decide)).1.resolve_left hdirty⟩

end Controller

end Provisioner
