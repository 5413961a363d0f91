import Provisioner.Proofs.Controller.Attempts

/-!
An attempt from its look-up to its end, with what came of each effect.

A plan leaves out the event, since what is said in it depends on the answers. A path has the answers,
so it tells the whole attempt: the statements, the status and the event. Between two look-ups a worker
goes along one path, and cannot leave it before its end.
-/

namespace Provisioner

/-- What is done in an attempt, with what came of it. -/
inductive Act where
  | executed (t : Sql.Statement) (outcome : Except Failure Unit)
  | wrote (r : Resource) (outcome : Except Failure Unit)
  | published (r : Resource) (n : Notice)
  deriving DecidableEq

namespace Stage

/-- The effect that comes next, and the stage that follows. -/
inductive Move : Stage → Act → Stage → Prop
  | executed (r : Resource) (b : Sql.Batch) (outcome : Except Failure Unit) :
    Move (.execute r b) (.executed b.current outcome) (.afterStatement r b outcome)
  | wrote (r : Resource) (v : Verdict) (outcome : Except Failure Unit) :
    Move (.write r v) (.wrote (r.withStatus v.status) outcome) (.afterWrite r v outcome)
  | published (r : Resource) (a : Attempt) :
    Move (.publish r a) (.published r (notice a)) (.finished a)

inductive Path : Stage → List Act → Stage → Prop
  | refl (s : Stage) : Path s [] s
  | cons {s s' s'' : Stage} {x : Act} {xs : List Act} (h : Move s x s')
    (hp : Path s' xs s'') : Path s (x :: xs) s''

lemma Path.append {s s' s'' : Stage} {xs ys : List Act} (h : Path s xs s') (h' : Path s' ys s'') :
    Path s (xs ++ ys) s'' := by
  induction h with
  | refl => exact h'
  | cons hmove _ ih => exact .cons hmove (ih h')

end Stage

/-- What the worker does when it goes on, and what comes of it. -/
def Worker.act? (world : World) : Worker → Option Act
  | .reconciling _ (.write r v) =>
    some (.wrote (r.withStatus v.status) (world.write (r.withStatus v.status)).1)
  | .reconciling _ (.publish r a) => some (.published r (Stage.notice a))
  | _ => none

/-- What comes of the statement that the worker is running. -/
def Worker.completion? (world : World) : Worker → Option Act
  | .running _ _ _ l => some (.executed l.statement (world.complete l).1)
  | _ => none

namespace Controller

variable {ρ : Type}

def act? (c : Controller ρ) (i : Nat) : Action → Option Act
  | .worker j _ => if j = i then (c.worker i).act? c.world else none
  | .complete (.worker j) => if j = i then (c.worker i).completion? c.world else none
  | _ => none

/-- What the worker does until it looks up the next key. -/
def acts [Quantity ρ] (i : Nat) (c : Controller ρ) : List Action → List Act
  | [] => []
  | a :: as =>
    if c.consults i a then [] else (c.act? i a).toList ++ (c.step a).acts i as

variable {c : Controller ρ} {i : Nat}

lemma act?_of_not_own {a : Action} (ha : a.isOf i = false) : c.act? i a = none := by
  unfold act?
  split
  · exact if_neg (by simpa [Action.isOf] using ha)
  · exact if_neg (by simpa [Action.isOf] using ha)
  · rfl

lemma stage?_setWorker (h : c.worker i ≠ .ended) (w : Worker) :
    ((c.setWorker i w).worker i).stage? = w.stage? := by
  rw [c.worker_setWorker h, Function.update_self]

lemma stage?_fetch (h : c.worker i ≠ .ended) : ((c.fetch i).worker i).stage? = none := by
  refine (stage?_setWorker (c := { c with work := (c.work.get i).2 }) h _).trans ?_
  split <;> rfl

variable [Quantity ρ]

/-- A worker that is in an attempt does not look up a key. -/
lemma not_consults {s : Stage} (h : (c.worker i).stage? = some s) (a : Action) :
    c.consults i a = false := by
  unfold consults
  split
  · rename_i j key ho
    rw [beq_eq_false_iff_ne]
    rintro rfl
    rw [handed_of_consulted ho] at h
    cases h
  · rfl

/-- In its own step a worker makes the next move, or it has made all of them. -/
lemma path_workerStep {s : Stage} (h : (c.worker i).stage? = some s) (reading : Nat) :
    (∃ s', s.Path ((c.worker i).act? c.world).toList s' ∧
      ((c.workerStep i reading).worker i).stage? = some s') ∨
    (∃ a, s = .finished a) ∧ (c.worker i).act? c.world = none ∧
      ((c.workerStep i reading).worker i).stage? = none := by
  cases hi : c.worker i with
  | idle | waiting | handed key | releasing key | ended | dead key =>
    rw [hi] at h
    cases h
  | running key r b l =>
    obtain rfl : Stage.execute r b = s := by simpa [hi, Worker.stage?] using h
    refine .inl ⟨_, .refl _, ?_⟩
    simp [workerStep, hi, Worker.stage?]
  | reconciling key stage =>
    obtain rfl : stage = s := by simpa [hi, Worker.stage?] using h
    rw [show c.workerStep i reading = c.perform i key reading stage by simp [workerStep, hi]]
    have hne : c.worker i ≠ .ended := by simp [hi]
    cases stage with
    | execute r b => exact .inl ⟨_, .refl _, stage?_setWorker hne _⟩
    | write r v => exact .inl ⟨_, .cons (.wrote r v _) (.refl _), stage?_setWorker hne _⟩
    | publish r a => exact .inl ⟨_, .cons (.published r a) (.refl _), stage?_setWorker hne _⟩
    | finished a =>
      refine .inr ⟨⟨a, rfl⟩, rfl, ?_⟩
      cases a with
      | ok o => exact stage?_setWorker hne _
      | error f =>
        simp only [perform, conclude]
        split <;> exact stage?_setWorker hne _

omit [Quantity ρ] in
/-- A statement that is through is a move. -/
lemma path_completeWorker {s : Stage} (h : (c.worker i).stage? = some s)
    (hl : ∀ key r b l, c.worker i = .running key r b l → l.statement = b.current) :
    ∃ s', s.Path ((c.worker i).completion? c.world).toList s' ∧
      ((c.completeWorker i).worker i).stage? = some s' := by
  cases hi : c.worker i with
  | running key r b l =>
    obtain rfl : Stage.execute r b = s := by simpa [hi, Worker.stage?] using h
    have hne : c.worker i ≠ .ended := by simp [hi]
    have hmove := Stage.Move.executed r b (c.world.complete l).1
    rw [← hl key r b l hi] at hmove
    refine ⟨_, .cons hmove (.refl _), ?_⟩
    simp only [completeWorker, hi]
    exact stage?_setWorker hne _
  | _ =>
    refine ⟨s, .refl s, ?_⟩
    simp [completeWorker, hi, ← h]

/-- **Step**: a worker that is in an attempt makes the next move of it, or none, or leaves it at its
end. -/
lemma path_step {h : List Occurrence} (hs : c.view.Sound h) (hd : c.desk.Custody) {s : Stage}
    (hi : (c.worker i).stage? = some s) (a : Action) :
    (∃ s', s.Path (c.act? i a).toList s' ∧ ((c.step a).worker i).stage? = some s') ∨
    (∃ r, s = .finished r) ∧ c.act? i a = none ∧ ((c.step a).worker i).stage? = none := by
  cases ha : a.isOf i with
  | true =>
    rcases own_cases ha with ⟨reading, rfl⟩ | rfl
    · rw [act?, if_pos rfl]
      exact path_workerStep hi reading
    · rw [act?, if_pos rfl]
      exact .inl (path_completeWorker hi (hs.worker_launch i))
  | false =>
    rw [act?_of_not_own ha]
    rcases worker_step_of_not_own hd ha with he | ⟨he, -⟩
    · exact .inl ⟨s, .refl s, by rw [he, hi]⟩
    · rw [he] at hi
      cases hi

/-- A worker that is between two attempts does nothing until it looks up a key. -/
lemma rest_step (hd : c.desk.Custody) (hi : (c.worker i).stage? = none) {a : Action}
    (hc : c.consults i a = false) :
    c.act? i a = none ∧ ((c.step a).worker i).stage? = none := by
  cases ha : a.isOf i with
  | false =>
    refine ⟨act?_of_not_own ha, ?_⟩
    rcases worker_step_of_not_own hd ha with he | ⟨-, he⟩
    · rw [he, hi]
    · rw [he]
      rfl
  | true =>
    rcases own_cases ha with ⟨reading, rfl⟩ | rfl
    · rw [act?, if_pos rfl]
      change _ ∧ ((c.workerStep i reading).worker i).stage? = none
      cases hw : c.worker i with
      | idle =>
        rw [show c.workerStep i reading = c.fetch i by simp [workerStep, hw]]
        exact ⟨rfl, stage?_fetch (by simp [hw])⟩
      | waiting =>
        refine ⟨rfl, ?_⟩
        have hne : (c.rouse i).worker i ≠ .ended := by
          rw [show (c.rouse i).worker i = .waiting from hw]
          simp
        simp only [workerStep, hw]
        split_ifs
        · exact stage?_fetch hne
        · exact hi
      | handed key => simp [consults, deed?, hw] at hc
      | reconciling key stage | running key r b l =>
        rw [hw] at hi
        cases hi
      | releasing key =>
        refine ⟨rfl, ?_⟩
        have hne : c.worker i ≠ .ended := by simp [hw]
        simp only [workerStep, hw]
        exact stage?_setWorker (c := { c with work := c.work.finish key }) hne .idle
      | ended | dead key =>
        refine ⟨rfl, ?_⟩
        rw [show c.workerStep i reading = c by simp [workerStep, hw]]
        exact hi
    · rw [act?, if_pos rfl]
      change _ ∧ ((c.completeWorker i).worker i).stage? = none
      cases hw : c.worker i with
      | running key r b l =>
        rw [hw] at hi
        cases hi
      | _ =>
        refine ⟨rfl, ?_⟩
        rw [show c.completeWorker i = c by simp [completeWorker, hw]]
        exact hi

lemma acts_of_rest (hd : c.desk.Custody) (hi : (c.worker i).stage? = none) (as : List Action) :
    c.acts i as = [] := by
  induction as generalizing c with
  | nil => rfl
  | cons a as ih =>
    rw [acts]
    cases hc : c.consults i a with
    | true => rfl
    | false =>
      obtain ⟨hnone, hi'⟩ := rest_step hd hi hc
      rw [if_neg (by simp), hnone, ih (hd.step (c.step_desk a)) hi']
      rfl

/-- **Run**: until its next look-up a worker goes along a path. It has come to the end of it, or it is
still in the attempt. -/
theorem run_path {h : List Occurrence} (hc : c.Orderly) (hs : c.view.Sound h) (hd : c.desk.Custody)
    {s : Stage} (hi : (c.worker i).stage? = some s) (as : List Action) :
    (∃ a, s.Path (c.acts i as) (.finished a)) ∨
      ∃ s', s.Path (c.acts i as) s' ∧ ((c.run as).worker i).stage? = some s' := by
  induction as generalizing c s h with
  | nil => exact .inr ⟨s, .refl s, hi⟩
  | cons a as ih =>
    have hd' : (c.step a).desk.Custody := hd.step (c.step_desk a)
    rw [acts, if_neg (by simp [not_consults hi a])]
    rcases path_step hs hd hi a with ⟨s', hfirst, hi'⟩ | ⟨⟨r, rfl⟩, hnone, hi'⟩
    · rcases ih (hc.step a) (hs.step (c.step_view hc a)) hd' hi' with ⟨r, hp⟩ | ⟨s'', hp, hi''⟩
      · exact .inl ⟨r, hfirst.append hp⟩
      · exact .inr ⟨s'', hfirst.append hp, hi''⟩
    · rw [hnone, acts_of_rest hd' hi']
      exact .inl ⟨r, .refl _⟩

end Controller

end Provisioner
