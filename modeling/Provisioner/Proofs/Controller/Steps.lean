import Provisioner.Proofs.Controller.View

/-!
Every step of a controller is, in the view, one of those that `View.Step` lists.
-/

namespace Provisioner.Controller

variable {ρ : Type}

/-- The pump comes into being with the start of the main task. -/
def Orderly (c : Controller ρ) : Prop := c.main = .unborn → c.pump = .unborn

variable (c : Controller ρ)

/-! ### What a task changes in the view -/

lemma view_setWorker {i : Nat} (hi : c.worker i ≠ .ended) (w : Worker) :
    (c.setWorker i w).view = c.view.occupy i w := by
  simp only [view, View.occupy, c.worker_setWorker hi w]
  rfl

lemma view_ofPump (r : Handling × Controller ρ) :
    (ofPump r).view = r.2.view.handle .pump r.1 := by
  have hh : (ofPump r).handling = Function.update r.2.handling .pump r.1 := by
    funext e
    cases e <;> rfl
  simp only [view, View.handle, hh]
  rfl

lemma view_setCaller (h : Handling) :
    ({ c with caller := h } : Controller ρ).view = c.view.handle .caller h := by
  have hh : ({ c with caller := h } : Controller ρ).handling =
      Function.update c.handling .caller h := by
    funext e
    cases e <;> rfl
  simp only [view, View.handle, hh]
  rfl

lemma view_concludeCleanup (r : Sql.Report) : (c.concludeCleanup r).view = c.view := by
  unfold concludeCleanup
  split <;> rfl

lemma view_enqueue (r : Resource) : (c.enqueue r).view = c.view := by
  unfold enqueue
  split <;> rfl

/-! ### Every step is one of those listed -/

variable {c} in
lemma step_aside {c' : Controller ρ} (h : c'.view = c.view) : View.Step c.view none c'.view := by
  rw [h]
  exact .aside

variable {c} in
lemma step_setWorker {c' : Controller ρ} {i : Nat} {w : Worker} {o : Option Occurrence}
    (hi : c'.worker i ≠ .ended) (h : View.Step c.view o (c'.view.occupy i w)) :
    View.Step c.view o (c'.setWorker i w).view := by rwa [view_setWorker _ hi]

lemma step_fetch {i : Nat} (hi : c.worker i ≠ .ended) : View.Step c.view none (c.fetch i).view := by
  refine step_setWorker hi (.rests i _ ?_)
  split <;> rfl

lemma step_lookUp {i : Nat} (hi : c.worker i ≠ .ended) (key : String) :
    View.Step c.view none (c.lookUp i key).view := by
  unfold lookUp
  split
  · exact step_setWorker hi (.rests i _ rfl)
  · exact step_setWorker hi (.looksUp i key c.policy _)

lemma step_conclude [Quantity ρ] {i : Nat} (hi : c.worker i ≠ .ended) (key : String) (reading : Nat)
    (a : Attempt) : View.Step c.view none (c.conclude i key reading a).view := by
  cases a with
  | ok o => exact step_setWorker hi (.rests i _ rfl)
  | error f =>
    simp only [conclude]
    split <;> exact step_setWorker hi (.rests i _ rfl)

lemma step_perform [Quantity ρ] {i : Nat} {key : String} {stage : Stage}
    (hw : c.worker i = .reconciling key stage) (reading : Nat) :
    View.Step c.view none (c.perform i key reading stage).view := by
  have hi : c.worker i ≠ .ended := by simp [hw]
  cases stage with
  | execute r b => exact step_setWorker hi (.executes i key r b hw)
  | write r d => exact step_setWorker hi (.writes i key r d hw)
  | publish r a => exact step_setWorker hi (.publishes i key r a hw)
  | finished a => exact c.step_conclude hi key reading a

lemma step_worker [Quantity ρ] (i reading : Nat) :
    View.Step c.view none (c.workerStep i reading).view := by
  unfold workerStep
  cases hw : c.worker i with
  | idle => exact c.step_fetch (by simp [hw])
  | waiting =>
    have hi : c.worker i ≠ .ended := by simp [hw]
    simp only
    split_ifs
    · exact (c.rouse i).step_fetch hi
    · exact .aside
  | handed key => exact c.step_lookUp (by simp [hw]) key
  | reconciling key stage => exact c.step_perform hw reading
  | releasing key =>
    have hi : c.worker i ≠ .ended := by simp [hw]
    exact step_setWorker hi (.rests i _ rfl)
  | running key r b l => exact .aside
  | ended => exact .aside
  | dead key => exact .aside

section

variable {c} {e : Executor} {h : Handling}

lemma step_take (he : c.view.handling e = .free) (n : Notification) :
    View.Step c.view (n.occurrence? e) ((c.take n).2.view.handle e (c.take n).1) := by
  have hv : c.view.handle e .free = c.view := View.handle_self he
  cases n with
  | added r =>
    simp only [take, view_enqueue, hv]
    exact .aside
  | updated old r =>
    simp only [take, view_enqueue, hv]
    exact .aside
  | deleted o => exact .took e o he

lemma step_clean (he : c.view.handling e = h) :
    View.Step c.view none ((c.clean h).2.view.handle e (c.clean h).1) := by
  have hv : c.view.handle e h = c.view := View.handle_self he
  cases h with
  | free =>
    simp only [clean, hv]
    exact .aside
  | cleaning b => exact .cleans e b he
  | running b l =>
    simp only [clean, hv]
    exact .aside

lemma completeCleanup_running (c : Controller ρ) (b : Sql.Batch) (l : Launch) :
    (c.completeCleanup (.running b l)).1 = .after b (c.world.complete l).1 := by
  simp only [completeCleanup, Handling.after]
  cases b.advance? (c.world.complete l).1 <;> rfl

lemma step_completeCleanup (he : c.view.handling e = h) :
    View.Step c.view (h.launch?.map (.completed e))
      ((c.completeCleanup h).2.view.handle e (c.completeCleanup h).1) := by
  have hv : c.view.handle e h = c.view := View.handle_self he
  cases h with
  | free =>
    simp only [completeCleanup, hv]
    exact .aside
  | cleaning b =>
    simp only [completeCleanup, hv]
    exact .aside
  | running b l =>
    have h₂ : (c.completeCleanup (.running b l)).2.view =
        { c.view with world := (c.world.complete l).2 } := by
      simp only [completeCleanup]
      split
      · rfl
      · exact view_concludeCleanup _ _
    rw [completeCleanup_running, h₂]
    exact .cleaned e b l he

end

/-- A pump that ends while it handles nothing is not missed. -/
lemma view_endPump (h : c.pump = .at .free) :
    ({ c with pump := .ended } : Controller ρ).view = c.view := by
  have hh : ({ c with pump := .ended } : Controller ρ).handling = c.handling := by
    funext e
    cases e with
    | pump => simp [handling, h]
    | worker i => rfl
    | caller => rfl
  simp only [view, hh]
  rfl

lemma step_pump : View.Step c.view (c.occurrence? .pump) c.pumpStep.view := by
  cases hp : c.pump with
  | unborn =>
    rw [show c.occurrence? .pump = none by simp [occurrence?, hp],
      show c.pumpStep = c by simp [pumpStep, hp]]
    exact .aside
  | ended =>
    rw [show c.occurrence? .pump = none by simp [occurrence?, hp],
      show c.pumpStep = c by simp [pumpStep, hp]]
    exact .aside
  | «at» h =>
    have hv : c.view.handling .pump = h := by simp [view, handling, hp]
    have busy (ho : c.occurrence? .pump = none) (hs : c.pumpStep = ofPump (c.clean h)) :
        View.Step c.view (c.occurrence? .pump) c.pumpStep.view := by
      rw [ho, hs, view_ofPump]
      exact step_clean hv
    cases h with
    | cleaning b => exact busy (by simp [occurrence?, hp]) (by simp [pumpStep, hp])
    | running b l => exact busy (by simp [occurrence?, hp]) (by simp [pumpStep, hp])
    | free =>
      by_cases hs : c.pumpStopped = true
      · rw [show c.occurrence? .pump = none by simp [occurrence?, hp, hs],
          show c.pumpStep = { c with pump := .ended } by simp [pumpStep, hp, hs],
          c.view_endPump hp]
        exact .aside
      · cases hi : c.inbox with
        | cons n inbox =>
          rw [show c.occurrence? .pump = n.occurrence? .pump by simp [occurrence?, hp, hs, hi],
            show c.pumpStep = ofPump ({ c with inbox }.take n) by simp [pumpStep, hp, hs, hi],
            view_ofPump]
          exact step_take (c := { c with inbox }) hv n
        | nil =>
          rw [show c.occurrence? .pump = none by simp [occurrence?, hp, hi]]
          by_cases hc : c.inboxClosed = true
          · rw [show c.pumpStep = { c with pump := .ended } by simp [pumpStep, hp, hs, hi, hc],
              c.view_endPump hp]
            exact .aside
          · rw [show c.pumpStep = c by simp [pumpStep, hp, hs, hi, hc]]
            exact .aside

lemma step_complete (e : Executor) :
    View.Step c.view (c.occurrence? (.complete e)) (c.complete e).view := by
  cases e with
  | worker i =>
    simp only [occurrence?, launch?, complete, completeWorker]
    cases hw : c.worker i with
    | running key r b l =>
      have hi : c.worker i ≠ .ended := by simp [hw]
      exact step_setWorker hi (.executed i key r b l hw)
    | _ => exact .aside
  | pump =>
    cases hp : c.pump with
    | «at» h =>
      have hc := step_completeCleanup (c := c) (e := .pump) (h := h) (by simp [view, handling, hp])
      rw [show c.occurrence? (.complete .pump) = h.launch?.map (.completed .pump) by
          simp [occurrence?, launch?, handling, hp],
        show c.complete .pump = ofPump (c.completeCleanup h) by simp [complete, hp], view_ofPump]
      exact hc
    | unborn | ended =>
      rw [show c.occurrence? (.complete .pump) = none by
          simp [occurrence?, launch?, handling, hp, Handling.launch?],
        show c.complete .pump = c by simp [complete, hp]]
      exact .aside
  | caller =>
    have hc := step_completeCleanup (c := c) (e := .caller) rfl
    rwa [← view_setCaller] at hc

lemma step_caller : View.Step c.view none c.callerStep.view := by
  have hc := step_clean (c := c) (e := .caller) rfl
  rwa [← view_setCaller] at hc

lemma step_call (n : Notification) [Quantity ρ] :
    View.Step c.view (c.occurrence? (.call n)) (c.step (.call n)).view := by
  cases hc : c.caller with
  | free =>
    have ht := step_take (c := c) (e := .caller) hc n
    rw [← view_setCaller] at ht
    rw [show c.occurrence? (.call n) = n.occurrence? .caller by simp [occurrence?, hc],
      show c.step (.call n) = { (c.take n).2 with caller := (c.take n).1 } by simp [step, hc]]
    exact ht
  | cleaning b | running b l =>
    rw [show c.occurrence? (.call n) = none by simp [occurrence?, hc],
      show c.step (.call n) = c by simp [step, hc]]
    exact .aside

lemma step_main (stopFirst : Bool) : View.Step c.view none (c.mainStep stopFirst).view := by
  have started (n : Nat) : View.Step c.view none (c.startWorkers n).view := by
    refine .started _ fun i => ?_
    by_cases hi : i < n
    · simp [worker, startWorkers, List.getD, hi, Worker.stage?]
    · simp [worker, startWorkers, List.getD, hi, Worker.stage?]
  unfold mainStep
  split
  · split_ifs
    · exact step_aside rfl
    · split
      · exact started _
      · exact step_aside rfl
      · exact step_aside rfl
  · split_ifs <;> exact step_aside rfl
  · split_ifs <;> exact step_aside rfl
  · split <;> exact step_aside rfl
  · exact step_aside rfl
  · exact step_aside rfl

lemma step_start (hc : c.Orderly) (n : Nat) : View.Step c.view none (c.start n).view := by
  unfold start
  split
  · rename_i hm
    have hh : ({ c with main := .syncing n, pump := .at .free } : Controller ρ).handling =
        c.handling := by
      funext e
      cases e with
      | pump => simp [handling, hc hm]
      | worker i => rfl
      | caller => rfl
    simp only [view, hh]
    exact .aside
  · exact .aside

theorem step_view [Quantity ρ] (hc : c.Orderly) (a : Action) :
    View.Step c.view (c.occurrence? a) (c.step a).view := by
  cases a with
  | put r => exact .stored r
  | remove k => exact .removed k
  | breakStatements faults => exact .broke faults
  | breakWrites fault => exact .brokeWrites fault
  | enqueue r => exact step_aside (c.view_enqueue r)
  | addKey key => exact step_aside rfl
  | call n => exact c.step_call n
  | send n =>
    refine step_aside ?_
    simp only [step]
    split_ifs <;> rfl
  | closeInbox => exact step_aside rfl
  | start n => exact c.step_start hc n
  | sync success =>
    refine step_aside ?_
    simp only [step, sync]
    split <;> rfl
  | stop => exact step_aside rfl
  | clock moment =>
    refine step_aside ?_
    simp only [step, setClock]
    split_ifs <;> rfl
  | worker i reading => exact c.step_worker i reading
  | pump => exact c.step_pump
  | caller => exact c.step_caller
  | main stopFirst => exact c.step_main stopFirst
  | complete e => exact c.step_complete e

end Provisioner.Controller
