import Provisioner.Proofs.Controller.Private

/-!
What reaches the server in a run in which the names of one resource belong to it alone.

The database is only created after the role, and the clean-up after the one deletion contributes the
two removals once, the database's first. Nothing else is known about their order.
-/

namespace Provisioner

open Occurrence

namespace Occurrence

/-- A statement that is through and was not made to fail. -/
def reached? : Occurrence → Option Sql.Statement
  | .completed _ l => if l.fault.isNone then some l.statement else none
  | _ => none

/-- The statements that the server was given, in order. -/
def reached (h : List Occurrence) : List Sql.Statement := h.filterMap reached?

lemma reached_append (g h : List Occurrence) : reached (g ++ h) = reached g ++ reached h :=
  List.filterMap_append

lemma reached_completed (e : Executor) (l : Launch) :
    reached (some (Occurrence.completed e l)).toList =
      if l.fault.isNone then [l.statement] else [] := by
  simp only [Option.toList, reached, List.filterMap_cons, reached?, List.filterMap_nil]
  split_ifs <;> rfl

/-- A clean-up after the resource of that key begins. -/
def deletes (k : Key) : Occurrence → Bool
  | .took _ d => Key.ofResource d = .ok k
  | _ => false

end Occurrence

variable {k : Key} {s : Spec}

namespace View

variable {v v' : View} {h : List Occurrence} {o : Option Occurrence}

/-- The server is what became of the first one. -/
lemma Step.server_eq (ht : v.Step o v') (htr : v.world.tracking = true) :
    v'.world.server = v.world.server.after (reached o.toList) := by
  cases ht with
  | stored r => exact (v.world.frame_put r).1
  | writes i key r d hi => exact (v.world.frame_write _).1
  | cleaned e b l he =>
    rw [reached_completed]
    refine (v.world.server_complete_tracking htr l).trans ?_
    split_ifs <;> rfl
  | executed i key r b l hi =>
    rw [reached_completed]
    refine (v.world.server_complete_tracking htr l).trans ?_
    split_ifs <;> rfl
  | _ => rfl

lemma Run.server_eq (hr : v.Run h v') (htr : v.world.tracking = true) :
    v'.world.tracking = true ∧ v'.world.server = v.world.server.after (reached h) := by
  induction hr with
  | refl => exact ⟨htr, rfl⟩
  | snoc hr ht ih =>
    refine ⟨ht.tracking.trans ih.1, ?_⟩
    rw [ht.server_eq ih.1, ih.2, reached_append]
    simp [Sql.Server.after]

end View

/-! ### The order of the creations -/

/-- What the attempts under way and the statements so far have to do with each other: the database
is only created after the role, by the same attempt. -/
structure Told (k : Key) (s : Spec) (worker : Nat → Worker) (log : List Sql.Statement) : Prop where
  owns : s.Owns log
  user_first : ∀ l₁ l₂, log = l₁ ++ s.createDatabase :: l₂ → s.createUser ∈ l₁
  second : ∀ i r b, (worker i).stage? = some (.execute r b) → b.rest = [] →
    Key.ofResource r = .ok k → s.createUser ∈ log

namespace Told

variable {worker : Nat → Worker} {log : List Sql.Statement}

lemma concat (h : Told k s worker log) {t : Sql.Statement} (ht : t ∈ s.statements ∨ s.Apart t)
    (hd : t = s.createDatabase → s.createUser ∈ log) : Told k s worker (log ++ [t]) := by
  refine ⟨fun x hx => ?_, fun l₁ l₂ hl => ?_, fun i r b hi hb hr => ?_⟩
  · rcases List.mem_append.1 hx with hx | hx
    · exact h.owns x hx
    · rwa [List.mem_singleton.1 hx]
  · rcases List.eq_nil_or_concat l₂ with rfl | ⟨l₂, t', rfl⟩
    · obtain ⟨rfl, e⟩ := List.append_inj' hl rfl
      exact hd (by simpa using e)
    · rw [List.concat_eq_append, ← List.cons_append, ← List.append_assoc] at hl
      exact h.user_first l₁ l₂ (List.append_inj' hl rfl).1
  · exact List.mem_append_left _ (h.second i r b hi hb hr)

lemma occupy (h : Told k s worker log) {i : Nat} {w : Worker}
    (hw : ∀ r b, w.stage? = some (.execute r b) → b.rest = [] → Key.ofResource r = .ok k →
      s.createUser ∈ log) : Told k s (Function.update worker i w) log := by
  refine ⟨h.owns, h.user_first, fun j r b hj hb hr => ?_⟩
  rcases eq_or_ne j i with rfl | hne
  · exact hw r b (by simpa using hj) hb hr
  · exact h.second j r b (by simpa [Function.update_of_ne hne] using hj) hb hr

end Told

namespace View

variable {v v' : View} {h : List Occurrence} {o : Option Occurrence}

lemma told_executed {i : Nat} {key : String} {r : Resource} {b : Sql.Batch} {l : Launch}
    (hval : s.validate = .ok ()) (hd : Told k s v.worker (reached h)) (hs : v.Sound h)
    (hv : v.Suits k s) (hi : v.worker i = .running key r b l) (outcome : Except Failure Unit) :
    Told k s (Function.update v.worker i (.reconciling key (.afterStatement r b outcome)))
      (reached h ++ reached (some (Occurrence.completed (.worker i) l)).toList) := by
  have hst : (v.worker i).stage? = some (.execute r b) := by rw [hi]; rfl
  have hr : r.Suits k s := hv.stage i _ hst r rfl
  have hl : l.Honest := hv.worker_launch i l (by rw [hi]; rfl)
  have hc : l.statement = b.current := hs.worker_launch i key r b l hi
  have hpair := Sql.Batch.remaining_of_pair (hs.worker_batch i r b hst)
  have hmem : l.statement ∈ r.spec.statements :=
    Stage.provisioning_subset _ (hs.mem_provisioning hi)
  have hlog : Told k s v.worker
      (reached h ++ reached (some (Occurrence.completed (.worker i) l)).toList) := by
    rw [reached_completed]
    split_ifs
    · refine hd.concat (hr.owns _ hmem) fun he => ?_
      rcases hpair with ⟨hb, -⟩ | ⟨hb, hrest⟩
      · rw [hc, hb] at he
        cases he
      · rw [hc, hb, Sql.Statement.createDatabase.injEq] at he
        exact hd.second i r b hst hrest (hr.ofResource_eq (.inl he.1))
    · rwa [List.append_nil]
  refine hlog.occupy fun r' b' hb' _ hk => ?_
  obtain ⟨rfl, ha⟩ := Stage.afterStatement_eq_execute (Option.some.inj hb')
  rcases hpair with ⟨hb, -⟩ | ⟨-, hrest⟩
  · have hl' : l.statement = s.createUser := by
      rw [hc, hb, hr.same hk]
      rfl
    rw [reached_completed, if_pos (hl.isNone_fault hval (by simp [hl', Spec.statements])), hl']
    simp
  · rw [Sql.Batch.advance?_eq_none.2 hrest] at ha
    cases ha

lemma told_cleaned {e : Executor} {b : Sql.Batch} {l : Launch}
    (hd : Told k s v.worker (reached h)) (hs : v.Sound h) (hh : ∀ x ∈ h, x.Suits k s)
    (he : v.handling e = .running b l) :
    Told k s v.worker (reached h ++ reached (some (Occurrence.completed e l)).toList) := by
  obtain ⟨d, hld, hmem⟩ := hs.mem_cleanup he
  have hsuits : d.Suits k s := hh _ (mem_deletions.1 (List.mem_of_getLast? hld))
  rw [reached_completed]
  split_ifs
  · refine hd.concat (hsuits.owns _ (Surroundings.cleanup_subset _ hmem)) fun he => ?_
    simp [he, Surroundings.mem_cleanup] at hmem
  · rwa [List.append_nil]

lemma told_step (hval : s.validate = .ok ()) (hd : Told k s v.worker (reached h)) (hs : v.Sound h)
    (hv : v.Suits k s) (hh : ∀ x ∈ h, x.Suits k s) (ht : v.Step o v') :
    Told k s v'.worker (reached (h ++ o.toList)) := by
  rw [reached_append]
  have quiet {w : Nat → Worker} {o : Option Occurrence} (ho : reached o.toList = [])
      (hw : Told k s w (reached h)) : Told k s w (reached h ++ reached o.toList) := by
    rwa [ho, List.append_nil]
  cases ht with
  | cleaned e b l he =>
    have hd' := told_cleaned hd hs hh he
    exact hd'
  | executed i key r b l hi => exact told_executed hval hd hs hv hi _
  | started w hw =>
    exact quiet rfl ⟨hd.owns, hd.user_first, fun i r b hi => by simp [hw i] at hi⟩
  | rests i w hw => exact quiet rfl (hd.occupy fun r b hi => by simp [hw] at hi)
  | looksUp i key policy j =>
    refine quiet rfl (hd.occupy fun r b hb hrest => ?_)
    simp [Stage.start_eq_execute (Option.some.inj hb), Stage.provisioning] at hrest
  | executes i key r b hi =>
    refine quiet rfl (hd.occupy fun r' b' hb hrest hk => ?_)
    exact hd.second i r' b' (by rw [hi]; exact hb) hrest hk
  | writes i key r d hi =>
    refine quiet rfl (hd.occupy fun r' b hb => ?_)
    exact absurd (Option.some.inj hb) (Stage.afterWrite_ne_execute d _)
  | publishes i key r a hi =>
    exact quiet rfl (hd.occupy fun r' b hb => by simp [Worker.stage?] at hb)
  | aside | stored | removed | broke | brokeWrites | took | cleans => exact quiet rfl hd

end View

/-! ### The two removals -/

/-- The statements that are still to come. -/
def Handling.due (x : Handling) : List Sql.Statement := (x.batch?.map (·.remaining)).getD []

lemma Handling.due_after (b : Sql.Batch) (outcome : Except Failure Unit) :
    (Handling.after b outcome).due = b.rest := by
  unfold after
  split
  · rename_i ha
    exact (Sql.Batch.advance?_eq_some ha).1.symm
  · rename_i ha
    exact (Sql.Batch.advance?_eq_none.1 ha).symm

lemma filter_cleanup {d : Resource} (hd : d.Suits k s) :
    (Surroundings.cleanup d.spec).remaining.filter s.Drops =
      if Key.ofResource d = .ok k then [s.dropDatabase, s.dropRole] else [] := by
  split_ifs with hk
  · rw [hd.same hk]
    simp [Sql.Batch.remaining, Surroundings.cleanup, Spec.Drops]
  · obtain ⟨hu, hd'⟩ := hd.other hk
    simp [Sql.Batch.remaining, Surroundings.cleanup, Spec.Drops, hu, hd']

/-- The removals that reached the server and those still to come make up the clean-ups that were
taken up, as long as there was at most one. -/
structure Single (s : Spec) (handling : Executor → Handling) (log : List Sql.Statement) (n : Nat) :
    Prop where
  none : n = 0 → log.filter s.Drops = [] ∧ ∀ e, (handling e).due.filter s.Drops = []
  one : n = 1 → ∃ e, log.filter s.Drops ++ (handling e).due.filter s.Drops =
      [s.dropDatabase, s.dropRole] ∧
    ∀ e', e' ≠ e → (handling e').due.filter s.Drops = []

namespace Single

variable {handling : Executor → Handling} {log : List Sql.Statement} {n : Nat}

lemma congr {handling' : Executor → Handling} {log' : List Sql.Statement}
    (h : Single s handling log n) (hd : ∀ e, (handling' e).due = (handling e).due)
    (hl : log'.filter s.Drops = log.filter s.Drops) : Single s handling' log' n := by
  refine ⟨fun hn => ?_, fun hn => ?_⟩
  · simpa only [hd, hl] using h.none hn
  · simpa only [hd, hl] using h.one hn

lemma took {e : Executor} {d : Resource} (h : Single s handling log n) (he : handling e = .free)
    (hd : d.Suits k s) :
    Single s (Function.update handling e (.cleaning (Surroundings.cleanup d.spec))) log
      (n + if Key.ofResource d = .ok k then 1 else 0) := by
  have hdue : Handling.due (.cleaning (Surroundings.cleanup d.spec)) =
      (Surroundings.cleanup d.spec).remaining := rfl
  have hfree : (handling e).due.filter s.Drops = [] := by rw [he]; rfl
  by_cases hk : Key.ofResource d = .ok k
  · rw [if_pos hk]
    refine ⟨fun hn => absurd hn (by omega), fun hn => ?_⟩
    obtain ⟨hl, ho⟩ := h.none (by omega)
    refine ⟨e, ?_, fun e' hne => ?_⟩
    · rw [Function.update_self, hdue, filter_cleanup hd, if_pos hk, hl, List.nil_append]
    · rw [Function.update_of_ne hne]
      exact ho e'
  · -- the clean-up after another resource concerns neither name
    rw [if_neg hk, Nat.add_zero]
    have hupd : ∀ e', (Function.update handling e
        (.cleaning (Surroundings.cleanup d.spec)) e').due.filter s.Drops =
          (handling e').due.filter s.Drops := by
      intro e'
      rcases eq_or_ne e' e with rfl | hne
      · rw [Function.update_self, hdue, filter_cleanup hd, if_neg hk, hfree]
      · rw [Function.update_of_ne hne]
    refine ⟨fun hn => ?_, fun hn => ?_⟩
    · simpa only [hupd] using h.none hn
    · simpa only [hupd] using h.one hn

lemma cleaned {e : Executor} {b : Sql.Batch} {l : Launch} (h : Single s handling log n)
    (he : handling e = .running b l) (hc : l.statement = b.current)
    (hf : s.Drops b.current = true → l.fault.isNone = true) (outcome : Except Failure Unit) :
    Single s (Function.update handling e (.after b outcome))
      (log ++ if l.fault.isNone then [l.statement] else []) n := by
  have hlog : (log ++ if l.fault.isNone then [l.statement] else []).filter s.Drops =
      log.filter s.Drops ++ [b.current].filter s.Drops := by
    rw [List.filter_append, hc]
    cases hb : s.Drops b.current with
    | true => rw [hf hb, if_pos rfl]
    | false => split_ifs <;> simp [hb]
  have hdue : (handling e).due.filter s.Drops =
      [b.current].filter s.Drops ++ b.rest.filter s.Drops := by
    rw [he, ← List.filter_append]
    rfl
  refine ⟨fun hn => ?_, fun hn => ?_⟩
  · obtain ⟨hl, ho⟩ := h.none hn
    have hz := List.append_eq_nil_iff.1 (hdue.symm.trans (ho e))
    refine ⟨by rw [hlog, hl, hz.1]; rfl, fun e' => ?_⟩
    rcases eq_or_ne e' e with rfl | hne
    · rw [Function.update_self, Handling.due_after, hz.2]
    · rw [Function.update_of_ne hne]
      exact ho e'
  · obtain ⟨e₀, hl, ho⟩ := h.one hn
    rcases eq_or_ne e₀ e with rfl | hne
    · refine ⟨e₀, ?_, fun e' hne => ?_⟩
      · rw [Function.update_self, Handling.due_after, hlog, List.append_assoc, ← hdue, hl]
      · rw [Function.update_of_ne hne]
        exact ho e' hne
    · have hz := List.append_eq_nil_iff.1 (hdue.symm.trans (ho e hne.symm))
      refine ⟨e₀, ?_, fun e' hne' => ?_⟩
      · rw [Function.update_of_ne hne, hlog, hz.1, List.append_nil, hl]
      · rcases eq_or_ne e' e with rfl | hne''
        · rw [Function.update_self, Handling.due_after, hz.2]
        · rw [Function.update_of_ne hne'']
          exact ho e' hne'

end Single

lemma Stage.drops_provisioning {r : Resource} {t : Sql.Statement}
    (h : t ∈ (Stage.provisioning r.spec).remaining) : s.Drops t = false := by
  rcases mem_provisioning.1 h with rfl | rfl <;> simp [Spec.Drops]

lemma Spec.mem_statements_of_drops {t : Sql.Statement} (h : s.Drops t = true) :
    t ∈ s.statements := by
  simp only [Drops, decide_eq_true_eq, List.mem_cons, List.not_mem_nil, or_false] at h
  rcases h with rfl | rfl <;> simp [statements]

namespace View

variable {v v' : View} {h : List Occurrence} {o : Option Occurrence}

lemma single_step (hval : s.validate = .ok ())
    (hg : Single s v.handling (reached h) (h.countP (deletes k))) (hs : v.Sound h)
    (hv : v.Suits k s) (hh : ∀ x ∈ h ++ o.toList, x.Suits k s) (ht : v.Step o v') :
    Single s v'.handling (reached (h ++ o.toList)) ((h ++ o.toList).countP (deletes k)) := by
  rw [reached_append, List.countP_append]
  cases ht with
  | took e d he =>
    have hd : d.Suits k s := hh (.took e d) (by simp)
    have hn : (some (Occurrence.took e d)).toList.countP (deletes k) =
        if Key.ofResource d = .ok k then 1 else 0 := by
      simp [deletes, List.countP_cons]
    rw [hn, show reached (some (Occurrence.took e d)).toList = [] from rfl, List.append_nil]
    exact hg.took he hd
  | cleaned e b l he =>
    have hc : l.statement = b.current := hs.launch e b l he
    have hf (hb : s.Drops b.current = true) : l.fault.isNone = true :=
      (hv.launch e l (by rw [he]; rfl)).isNone_fault hval
        (Spec.mem_statements_of_drops (hc ▸ hb))
    rw [reached_completed]
    exact hg.cleaned he hc hf _
  | cleans e b he =>
    refine hg.congr (fun e' => ?_) (by simp [reached])
    rcases eq_or_ne e' e with rfl | hne
    · simp [handle, Handling.due, Handling.batch?, he]
    · simp [handle, Function.update_of_ne hne]
  | executed i key r b l hi =>
    refine hg.congr (fun _ => rfl) ?_
    have hn : s.Drops l.statement = false := Stage.drops_provisioning (hs.mem_provisioning hi)
    rw [reached_completed, List.filter_append]
    split_ifs
    · simp [hn]
    · simp
  | _ => exact hg.congr (fun _ => rfl) (by simp [reached, reached?])

/-- All that is known about a run in which the names are private. -/
structure Fits (k : Key) (s : Spec) (v : View) (h : List Occurrence) : Prop where
  sound : v.Sound h
  suits : v.Suits k s
  told : Told k s v.worker (reached h)
  single : Single s v.handling (reached h) (h.countP (deletes k))

lemma Fits.step (hf : v.Fits k s h) (hval : s.validate = .ok ()) (ht : v.Step o v')
    (hh : ∀ x ∈ h ++ o.toList, x.Suits k s) : v'.Fits k s (h ++ o.toList) where
  sound := hf.sound.step ht
  suits := hf.suits.step ht fun x hx => hh x (List.mem_append_right _ hx)
  told := told_step hval hf.told hf.sound hf.suits (fun x hx => hh x (List.mem_append_left _ hx)) ht
  single := single_step hval hf.single hf.sound hf.suits hh ht

lemma Fits.run {g : List Occurrence} (hf : v.Fits k s g) (hval : s.validate = .ok ())
    (hr : v.Run h v') (hh : ∀ x ∈ g ++ h, x.Suits k s) : v'.Fits k s (g ++ h) := by
  induction hr with
  | refl => simpa using hf
  | @snoc h o v' v'' hr ht ih =>
    rw [← List.append_assoc] at hh ⊢
    exact (ih fun x hx => hh x (List.mem_append_left _ hx)).step hval ht hh

/-- Once the one clean-up is through, both removals have reached the server. -/
lemma Fits.exists_cleanup (hf : v.Fits k s h) (hone : h.countP (deletes k) = 1)
    (hrest : ∀ e, v.handling e = .free) : ∃ x y z, s.Cleanup (reached h) x y z := by
  obtain ⟨e, hl, -⟩ := hf.single.one hone
  have hdue : (v.handling e).due = [] := by rw [hrest e]; rfl
  rw [hdue, List.filter_nil, List.append_nil] at hl
  exact Spec.exists_cleanup hl

/-- Nothing is removed before a deletion is taken up. -/
lemma Fits.not_dropped (hf : v.Fits k s h) (hzero : h.countP (deletes k) = 0) :
    s.dropDatabase ∉ reached h := by
  intro hm
  have hm' : s.dropDatabase ∈ (reached h).filter s.Drops :=
    List.mem_filter.2 ⟨hm, by simp [Spec.Drops]⟩
  simp [(hf.single.none hzero).1] at hm'

end View

end Provisioner
