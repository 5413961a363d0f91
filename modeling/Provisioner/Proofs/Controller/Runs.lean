import Mathlib.Data.List.Induction
import Provisioner.Proofs.Controller.Steps
import Provisioner.Proofs.World.Basic

/-!
Runs of a controller as runs of its view, each with its history.
-/

namespace Provisioner

/-- It is the worker that goes on, or its statement that is through. -/
def Action.isOf (i : Nat) : Action → Bool
  | .worker j _ | .complete (.worker j) => j == i
  | _ => false

/-- Something is put into the queue or into the inbox, or handed to the caller. -/
def Action.isInput : Action → Bool
  | .enqueue _ | .addKey _ | .call _ | .send _ | .closeInbox | .clock _ => true
  | _ => false

namespace Controller

variable {ρ : Type} (c : Controller ρ)

/-! ### What a task leaves alone -/

lemma frame_worker [Quantity ρ] (i reading : Nat) : ∃ work world metrics workers,
    c.workerStep i reading = { c with work, world, metrics, workers } := by
  unfold workerStep
  split
  · exact ⟨_, _, _, _, rfl⟩
  · split_ifs <;> exact ⟨_, _, _, _, rfl⟩
  · unfold lookUp
    split <;> exact ⟨_, _, _, _, rfl⟩
  · unfold perform
    split
    · exact ⟨_, _, _, _, rfl⟩
    · exact ⟨_, _, _, _, rfl⟩
    · exact ⟨_, _, _, _, rfl⟩
    · unfold conclude
      split
      · exact ⟨_, _, _, _, rfl⟩
      · simp only
        split <;> exact ⟨_, _, _, _, rfl⟩
  all_goals exact ⟨_, _, _, _, rfl⟩

lemma frame_completeWorker (i : Nat) : ∃ world workers,
    c.completeWorker i = { c with world, workers } := by
  unfold completeWorker
  split <;> exact ⟨_, _, rfl⟩

lemma frame_take (n : Notification) : ∃ work metrics, (c.take n).2 = { c with work, metrics } := by
  cases n with
  | added r | updated _ r =>
    simp only [take, enqueue]
    split <;> exact ⟨_, _, rfl⟩
  | deleted r => exact ⟨_, _, rfl⟩

lemma frame_input [Quantity ρ] {a : Action} (ha : a.isInput = true) :
    ∃ work metrics caller inbox inboxClosed,
      c.step a = { c with work, metrics, caller, inbox, inboxClosed } := by
  cases a with
  | enqueue r =>
    simp only [step, enqueue]
    split <;> exact ⟨_, _, _, _, _, rfl⟩
  | addKey key | closeInbox => exact ⟨_, _, _, _, _, rfl⟩
  | call n =>
    simp only [step]
    split
    · obtain ⟨work, metrics, h⟩ := c.frame_take n
      rw [h]
      exact ⟨_, _, _, _, _, rfl⟩
    · exact ⟨_, _, _, _, _, rfl⟩
  | send n =>
    simp only [step]
    split_ifs <;> exact ⟨_, _, _, _, _, rfl⟩
  | clock moment =>
    simp only [step, setClock]
    split_ifs <;> exact ⟨_, _, _, _, _, rfl⟩
  | _ => cases ha

lemma frame_clean (h : Handling) : ∃ world, (c.clean h).2 = { c with world } := by
  cases h <;> exact ⟨_, rfl⟩

lemma frame_completeCleanup (h : Handling) : ∃ world metrics,
    (c.completeCleanup h).2 = { c with world, metrics } := by
  cases h with
  | free | cleaning b => exact ⟨_, _, rfl⟩
  | running b l =>
    simp only [completeCleanup]
    split
    · exact ⟨_, _, rfl⟩
    · unfold concludeCleanup
      split <;> exact ⟨_, _, rfl⟩

/-! ### The main task and the pump -/

lemma main_worker [Quantity ρ] (i reading : Nat) :
    (c.workerStep i reading).main = c.main ∧ (c.workerStep i reading).pump = c.pump := by
  obtain ⟨work, world, metrics, workers, h⟩ := c.frame_worker i reading
  rw [h]
  exact ⟨rfl, rfl⟩

lemma main_take (n : Notification) : (c.take n).2.main = c.main ∧ (c.take n).2.pump = c.pump := by
  obtain ⟨work, metrics, h⟩ := c.frame_take n
  rw [h]
  exact ⟨rfl, rfl⟩

lemma main_clean (h : Handling) : (c.clean h).2.main = c.main ∧ (c.clean h).2.pump = c.pump := by
  obtain ⟨world, h⟩ := c.frame_clean h
  rw [h]
  exact ⟨rfl, rfl⟩

lemma main_completeCleanup (h : Handling) :
    (c.completeCleanup h).2.main = c.main ∧ (c.completeCleanup h).2.pump = c.pump := by
  obtain ⟨world, metrics, h⟩ := c.frame_completeCleanup h
  rw [h]
  exact ⟨rfl, rfl⟩

variable {c}

lemma Orderly.pump (h : c.Orderly) : c.pumpStep.Orderly := by
  unfold pumpStep
  split
  · rename_i hp
    have hm : c.main ≠ .unborn := fun hm => by simp [h hm] at hp
    split
    · exact fun hm' => absurd hm' hm
    · split
      · rename_i n inbox _
        exact fun hm' => absurd ((main_take { c with inbox } n).1.symm.trans hm') hm
      · split
        · exact fun hm' => absurd hm' hm
        · exact h
  · rename_i k _ hp
    have hm : c.main ≠ .unborn := fun hm => by simp [h hm] at hp
    exact fun hm' => absurd ((c.main_clean k).1.symm.trans hm') hm
  · exact h
  · exact h

lemma Orderly.complete (h : c.Orderly) (e : Executor) : (c.complete e).Orderly := by
  cases e with
  | worker i =>
    simp only [Controller.complete, completeWorker]
    split <;> exact h
  | pump =>
    simp only [Controller.complete]
    split
    · rename_i k hp
      have hm : c.main ≠ .unborn := fun hm => by simp [h hm] at hp
      exact fun hm' => absurd ((c.main_completeCleanup k).1.symm.trans hm') hm
    · exact h
    · exact h
  | caller =>
    obtain ⟨h₁, h₂⟩ := c.main_completeCleanup c.caller
    exact fun hm => h₂.trans (h (h₁.symm.trans hm))

lemma Orderly.main (h : c.Orderly) (stopFirst : Bool) : (c.mainStep stopFirst).Orderly := by
  unfold mainStep
  split
  · split_ifs
    · exact fun hm => by simp [giveUp] at hm
    · split
      · exact fun hm => by simp [startWorkers] at hm
      · exact fun hm => by simp [giveUp] at hm
      · exact h
  · split_ifs
    · exact fun hm => by simp at hm
    · exact h
  · split_ifs
    · exact fun hm => by simp at hm
    · exact h
  · split
    · exact fun hm => by simp at hm
    · exact h
  · exact h
  · exact h

lemma Orderly.step [Quantity ρ] (h : c.Orderly) (a : Action) : (c.step a).Orderly := by
  have of {c' : Controller ρ} (hm : c'.main = c.main ∧ c'.pump = c.pump) : c'.Orderly :=
    fun hm' => hm.2.trans (h (hm.1.symm.trans hm'))
  by_cases hin : a.isInput = true
  · obtain ⟨work, metrics, caller, inbox, inboxClosed, hs⟩ := c.frame_input hin
    rw [hs]
    exact of ⟨rfl, rfl⟩
  cases a with
  | enqueue r | addKey key | call n | send n | closeInbox | clock moment => exact absurd rfl hin
  | put r | remove k | breakStatements faults | breakWrites fault | stop => exact h
  | start n =>
    simp only [Controller.step, start]
    split
    · exact fun hm => by simp at hm
    · exact h
  | sync success =>
    simp only [Controller.step, sync]
    split <;> exact h
  | worker i reading => exact of (c.main_worker i reading)
  | pump => exact h.pump
  | caller => exact of (c.main_clean c.caller)
  | main stopFirst => exact h.main stopFirst
  | complete e => exact h.complete e

lemma Orderly.run [Quantity ρ] (h : c.Orderly) (as : List Action) : (c.run as).Orderly := by
  induction as generalizing c with
  | nil => exact h
  | cons a as ih => exact ih (h.step a)

/-! ### Runs -/

/-- A controller that nothing has happened to yet. -/
def opening (policy : Policy) (limiter : Limiter ρ String) (world : World) : Controller ρ where
  policy := policy
  work := { limiter }
  world := world

lemma orderly_opening (policy : Policy) (limiter : Limiter ρ String) (world : World) :
    (opening policy limiter world).Orderly := fun _ => rfl

variable [Quantity ρ]

lemma run_append (as bs : List Action) : c.run (as ++ bs) = (c.run as).run bs :=
  List.foldl_append

lemma history_append (as bs : List Action) :
    c.history (as ++ bs) = c.history as ++ (c.run as).history bs := by
  induction as generalizing c with
  | nil => rfl
  | cons a as ih =>
    simp only [List.cons_append, history, ih, List.append_assoc]
    rfl

lemma history_concat (as : List Action) (a : Action) :
    c.history (as ++ [a]) = c.history as ++ ((c.run as).occurrence? a).toList := by
  rw [history_append]
  simp [history]

/-- The view of a run is a run of the view. -/
theorem run_view (h : c.Orderly) (as : List Action) :
    View.Run c.view (c.history as) (c.run as).view := by
  induction as using List.reverseRecOn with
  | nil => exact .refl
  | append_singleton as a ih =>
    rw [history_concat, run_append]
    exact .snoc ih ((c.run as).step_view (h.run as) a)

/-! ### Moments of a run -/

/-- At some moment of the run there is such a state, with such an action and what is left after it. -/
def Meets (c : Controller ρ) (as : List Action)
    (P : Controller ρ → Action → List Action → Prop) : Prop :=
  ∃ before a later, as = before ++ a :: later ∧ P (c.run before) a later

lemma meets_cons {a : Action} {as : List Action} {P : Controller ρ → Action → List Action → Prop} :
    c.Meets (a :: as) P ↔ P c a as ∨ (c.step a).Meets as P := by
  constructor
  · rintro ⟨before, b, later, he, hP⟩
    cases before with
    | nil =>
      obtain ⟨rfl, rfl⟩ := List.cons.inj he
      exact .inl hP
    | cons b' before =>
      obtain ⟨rfl, rfl⟩ := List.cons.inj he
      exact .inr ⟨before, b, later, rfl, hP⟩
  · rintro (hP | ⟨before, b, later, rfl, hP⟩)
    · exact ⟨[], a, as, rfl, hP⟩
    · exact ⟨a :: before, b, later, rfl, hP⟩

/-! ### A small controller -/

/-- A controller for one resource, and a server that has nothing yet. -/
def shop : Controller Float :=
  opening .hold (RetryPace.limiter {} 0) (World.solo ⟨"shop", "orders"⟩ World.orders)

/-- A worker provisions the resource. -/
def provisioningOrders : List Action :=
  [.start 1, .sync true, .main false, .addKey "shop/orders", .worker 0 0, .worker 0 0, .worker 0 0,
    .complete (.worker 0), .worker 0 0, .complete (.worker 0), .worker 0 0]

end Controller

end Provisioner
