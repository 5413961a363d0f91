import Provisioner.Proofs.Controller.Sound
import Provisioner.Proofs.Reconcile.Basic
import Provisioner.Proofs.Sql.Names

/-!
Runs in which the names of one resource belong to it alone.

Its spec never changes, no other resource has either of its names, and statements fail only by what
the server has. Then whatever is executed either is a statement of that spec or leaves both names
as they are.
-/

namespace Provisioner

variable {k : Key} {s : Spec}

/-- The resource of that key has that spec, and any other has neither of its names. -/
structure Resource.Suits (k : Key) (s : Spec) (r : Resource) : Prop where
  same : Key.ofResource r = .ok k → r.spec = s
  other : Key.ofResource r ≠ .ok k → r.spec.username ≠ s.username ∧ r.spec.database ≠ s.database

/-- What is stored and what is deleted suits, and no statement is made to fail. -/
def Occurrence.Suits (k : Key) (s : Spec) : Occurrence → Prop
  | .stored r | .took _ r => r.Suits k s
  | .broke faults => ∀ action, faults.find? action = none
  | .completed .. => True

structure World.Suits (k : Key) (s : Spec) (w : World) : Prop where
  tracking : w.tracking = true
  faultless : w.Faultless
  cached : ∀ j r, w.lookup j = some r → Key.ofResource r = .ok j ∧ r.Suits k s

lemma Resource.Suits.owns {r : Resource} (h : r.Suits k s) : s.Owns r.spec.statements := by
  intro t ht
  by_cases hk : Key.ofResource r = .ok k
  · exact .inl (h.same hk ▸ ht)
  · obtain ⟨hu, hd⟩ := h.other hk
    exact .inr (Spec.Disjoint.unmentioned ⟨hu, hd⟩ ht).apart

/-- A resource that has one of the names is the one of that key. -/
lemma Resource.Suits.ofResource_eq {r : Resource} (h : r.Suits k s)
    (hn : r.spec.database = s.database ∨ r.spec.username = s.username) :
    Key.ofResource r = .ok k := by
  by_contra hk
  obtain ⟨hu, hd⟩ := h.other hk
  exact hn.elim hd hu

/-! ### Worlds -/

namespace World.Suits

variable {w : World}

lemma of_cache {w' : World} (h : w.Suits k s) (ht : w'.tracking = w.tracking)
    (hf : w'.faults = w.faults) (ho : w'.objects = w.objects) : w'.Suits k s :=
  ⟨ht.trans h.tracking, by rw [Faultless, hf]; exact h.faultless,
    by simp only [World.lookup, ho]; exact h.cached⟩

lemma put (h : w.Suits k s) {r : Resource} (hr : r.Suits k s) : (w.put r).2.Suits k s := by
  obtain ⟨-, ht, hf, -⟩ := w.frame_put r
  refine ⟨ht.trans h.tracking, by rw [Faultless, hf]; exact h.faultless, fun j r' hj => ?_⟩
  rw [lookup_put] at hj
  split_ifs at hj with hk
  · obtain rfl := Option.some.inj hj
    exact ⟨hk, hr⟩
  · exact h.cached j r' hj

lemma remove (h : w.Suits k s) (j : Key) : (w.remove j).2.Suits k s := by
  refine ⟨h.tracking, h.faultless, fun i r hi => ?_⟩
  rw [lookup_remove] at hi
  split_ifs at hi
  exact h.cached i r hi

lemma write (h : w.Suits k s) {r : Resource} (hr : r.Suits k s) : (w.write r).2.Suits k s := by
  obtain ⟨-, ht, hf⟩ := w.frame_write r
  refine ⟨ht.trans h.tracking, by rw [Faultless, hf]; exact h.faultless, fun j r' hj => ?_⟩
  rcases w.lookup_write r j with he | ⟨hk, he⟩ <;> rw [he] at hj
  · exact h.cached j r' hj
  · obtain rfl := Option.some.inj hj
    exact ⟨hk, hr⟩

lemma complete (h : w.Suits k s) (l : Launch) : (w.complete l).2.Suits k s := by
  obtain ⟨ht, hf, ho, -⟩ := w.frame_complete l
  exact h.of_cache ht hf ho

end World.Suits

/-! ### Views -/

/-- The statement only fails if the server does not take it, or has no text. -/
def Launch.Honest (l : Launch) : Prop := ∀ text, l.statement.render? = .ok text → l.fault = none

/-- A statement of a valid spec is not made to fail. -/
lemma Launch.Honest.isNone_fault {l : Launch} (hl : l.Honest) (hs : s.validate = .ok ())
    (ht : l.statement ∈ s.statements) : l.fault.isNone = true := by
  obtain ⟨text, hx⟩ := Spec.exists_render?_eq_ok hs ht
  rw [hl text hx]
  rfl

lemma World.Suits.honest_begin {w : World} (h : w.Suits k s) (t : Sql.Statement) :
    (w.begin t).1.Honest := fun _ ht => h.faultless.fault?_eq_none ht

namespace View

structure Suits (k : Key) (s : Spec) (v : View) : Prop where
  world : v.world.Suits k s
  stage : ∀ i st, (v.worker i).stage? = some st → ∀ r, st.resource? = some r → r.Suits k s
  worker_launch : ∀ i l, (v.worker i).launch? = some l → l.Honest
  launch : ∀ e l, (v.handling e).launch? = some l → l.Honest

variable {v v' : View} {o : Option Occurrence}

lemma Suits.of_occupy {i : Nat} {w : Worker} {world : World} (hv : v.Suits k s)
    (hw : world.Suits k s)
    (hst : ∀ st, w.stage? = some st → ∀ r, st.resource? = some r → r.Suits k s)
    (hl : ∀ l, w.launch? = some l → l.Honest) : Suits k s ({ v with world }.occupy i w) := by
  refine ⟨hw, stage_occupy (v := { v with world }) hv.stage hst, fun j l hj => ?_, hv.launch⟩
  rcases eq_or_ne j i with rfl | hne
  · exact hl l (by simpa [occupy] using hj)
  · exact hv.worker_launch j l (by simpa [occupy, Function.update_of_ne hne] using hj)

lemma Suits.of_handle {e : Executor} {x : Handling} {world : World} (hv : v.Suits k s)
    (hw : world.Suits k s) (hl : ∀ l, x.launch? = some l → l.Honest) :
    Suits k s ({ v with world }.handle e x) := by
  refine ⟨hw, hv.stage, hv.worker_launch, fun e' l he => ?_⟩
  rcases eq_or_ne e' e with rfl | hne
  · exact hl l (by simpa [handle] using he)
  · exact hv.launch e' l (by simpa [handle, Function.update_of_ne hne] using he)

lemma Suits.step (hv : v.Suits k s) (ht : v.Step o v') (ho : ∀ x ∈ o.toList, x.Suits k s) :
    v'.Suits k s := by
  cases ht with
  | aside => exact hv
  | stored r => exact ⟨hv.world.put (ho (.stored r) (by simp)), hv.2, hv.3, hv.4⟩
  | removed j => exact ⟨hv.world.remove j, hv.2, hv.3, hv.4⟩
  | broke faults =>
    exact ⟨⟨hv.world.tracking, ho (.broke faults) (by simp), hv.world.cached⟩, hv.2, hv.3, hv.4⟩
  | brokeWrites fault => exact ⟨hv.world.of_cache rfl rfl rfl, hv.2, hv.3, hv.4⟩
  | took e d he => exact hv.of_handle hv.world fun l hl => by simp [Handling.launch?] at hl
  | cleans e b he =>
    refine hv.of_handle (hv.world.of_cache rfl rfl rfl) fun l hl => ?_
    obtain rfl := Option.some.inj hl
    exact hv.world.honest_begin b.current
  | cleaned e b l he =>
    refine hv.of_handle (hv.world.complete l) fun l' hl => ?_
    unfold Handling.after at hl
    split at hl <;> simp [Handling.launch?] at hl
  | started w hw =>
    refine ⟨hv.world, fun i st hi => ?_, fun i l hi => ?_, hv.launch⟩
    · simp [hw i] at hi
    · have hn := hw i
      cases hwi : w i with
      | running key r b l => simp [hwi, Worker.stage?] at hn
      | _ => simp [hwi, Worker.launch?] at hi
  | rests i w hw =>
    refine hv.of_occupy hv.world (fun st hi => by simp [hw] at hi) fun l hl => ?_
    cases w with
    | running key r b l => simp [Worker.stage?] at hw
    | _ => simp [Worker.launch?] at hl
  | looksUp i key policy j =>
    refine hv.of_occupy hv.world (fun st hi r hr => ?_) fun l hl => by simp [Worker.launch?] at hl
    obtain rfl := Option.some.inj hi
    exact (hv.world.cached j r (Stage.start_resource? hr)).2
  | executes i key r b hi =>
    refine hv.of_occupy (hv.world.of_cache rfl rfl rfl) (fun st hst r' hr => ?_) fun l hl => ?_
    · obtain rfl := Option.some.inj hst
      exact hv.stage i _ (by rw [hi]; rfl) r' hr
    · obtain rfl := Option.some.inj hl
      exact hv.world.honest_begin b.current
  | executed i key r b l hi =>
    refine hv.of_occupy (hv.world.complete l) (fun st hst r' hr => ?_)
      fun l hl => by simp [Worker.launch?] at hl
    obtain rfl := Option.some.inj hst
    obtain rfl := Stage.afterStatement_resource? hr
    exact hv.stage i (.execute r b) (by rw [hi]; rfl) r rfl
  | writes i key r d hi =>
    have hr : r.Suits k s := hv.stage i (.write r d) (by rw [hi]; rfl) r rfl
    refine hv.of_occupy (hv.world.write ⟨hr.same, hr.other⟩) (fun st hst r' hr' => ?_)
      fun l hl => by simp [Worker.launch?] at hl
    obtain rfl := Option.some.inj hst
    obtain rfl := Stage.afterWrite_resource? hr'
    exact hr
  | publishes i key r a hi =>
    refine hv.of_occupy (hv.world.of_cache rfl rfl rfl) (fun st hst r' hr' => ?_)
      fun l hl => by simp [Worker.launch?] at hl
    obtain rfl := Option.some.inj hst
    simp [Stage.resource?] at hr'

end View

end Provisioner
