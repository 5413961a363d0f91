import Provisioner.Proofs.Controller.Custody
import Provisioner.Proofs.Reconcile.Basic
import Provisioner.Proofs.Resource.Key

/-!
What is still to be done for a key.

A resource that is not decided is due as long as its key is marked, an alarm is set for it, or a
worker is busy with it. No step forgets what is due, and when the queue is idle nothing is.
-/

namespace Provisioner

/-! ### Attempts that are not through -/

namespace Stage

variable {k : Key} {r : Resource}

/-- The attempt has still to write a status for the resource of that key, or it has failed. -/
def Owes (k : Key) : Stage → Prop
  | .execute r _ | .write r _ => Key.ofResource r = .ok k
  | .publish _ a | .finished a => ∃ f, a = .error f

lemma verdict_decided (p : Sql.Report) : (verdict p).status.progress ≠ .unprovisioned := by
  unfold verdict
  split <;> simp

lemma provision_owes (h : Key.ofResource r = .ok k) : (provision r).Owes k := by
  unfold provision
  split <;> exact h

/-- An attempt for a resource that is not decided has to write a status. -/
lemma start_owes (policy : Policy) (h : Key.ofResource r = .ok k)
    (hp : r.progress = .unprovisioned) : (start policy (some r)).Owes k := by
  simp only [start, hp]
  exact provision_owes h

lemma afterStatement_owes {b : Sql.Batch} (h : Key.ofResource r = .ok k)
    (outcome : Except Failure Unit) : (afterStatement r b outcome).Owes k := by
  unfold afterStatement
  split <;> exact h

/-- Unless the resource is gone, a write that failed has failed the attempt. -/
lemma afterWrite_owes {f : Failure} (hf : f.isNotFound = false) (v : Verdict) :
    (afterWrite r v (.error f)).Owes k := by
  simp only [afterWrite, conclude, hf]
  exact ⟨f, rfl⟩

/-- The status that comes to be written decides. -/
def Decisive : Stage → Prop
  | .write _ v => v.status.progress ≠ .unprovisioned
  | .execute .. | .publish .. | .finished _ => True

lemma provision_decisive (r : Resource) : (provision r).Decisive := by
  unfold provision
  split
  · exact Progress.noConfusion
  · trivial

lemma start_decisive (policy : Policy) (x : Option Resource) : (start policy x).Decisive := by
  cases x with
  | none => trivial
  | some r =>
    simp only [start]
    split
    · trivial
    · trivial
    · exact provision_decisive r
    · exact provision_decisive r

lemma afterStatement_decisive (r : Resource) (b : Sql.Batch) (outcome : Except Failure Unit) :
    (afterStatement r b outcome).Decisive := by
  unfold afterStatement
  split
  · trivial
  · exact verdict_decided _

lemma afterWrite_decisive (r : Resource) (v : Verdict) (outcome : Except Failure Unit) :
    (afterWrite r v outcome).Decisive := by
  rw [afterWrite_eq]
  unfold conclude
  split
  · trivial
  · split_ifs <;> trivial

end Stage

/-- An attempt is made only with a key. -/
lemma Worker.stage?_of_key? {w : Worker} (h : w.key? = none) : w.stage? = none := by
  cases w with
  | reconciling key s => cases h
  | running key r b l => cases h
  | _ => rfl

/-- The worker has the key, and is not through with its resource. -/
def Worker.Owes (k : Key) : Worker → Prop
  | .handed key | .dead key => key = k.text
  | .reconciling key s => key = k.text ∧ s.Owes k
  | .running key r _ _ => key = k.text ∧ Key.ofResource r = .ok k
  | .idle | .waiting | .releasing _ | .ended => False

lemma Worker.Owes.key? {k : Key} {w : Worker} (h : w.Owes k) : w.key? = some k.text := by
  cases w with
  | handed key | dead key => exact congrArg some h
  | reconciling key s => exact congrArg some h.1
  | running key r b l => exact congrArg some h.1
  | idle | waiting | releasing key | ended => exact h.elim

namespace Desk

variable {d d' : Desk} {o : Option Deed} {k : Key}

/-! ### What is still to come -/

/-- What is cached under the key, if anything, is decided. -/
def Decided (k : Key) (d : Desk) : Prop :=
  ∀ r, d.world.lookup k = some r → r.progress ≠ .unprovisioned

/-- The key comes up again, or someone is busy with it. -/
def Due (k : Key) (d : Desk) : Prop :=
  k.text ∈ d.queue.dirty ∨ k.text ∈ d.alarms ∨ ∃ i, (d.worker i).Owes k

/-- The cache shows what is written, and what comes to be written decides. -/
structure Mirrors (d : Desk) : Prop where
  world : d.world.Mirrors
  decisive : ∀ i st, (d.worker i).stage? = some st → st.Decisive

lemma Mirrors.of_occupy (h : d.Mirrors) {i : Nat} {w : Worker} {world : World} {queue : Queue String}
    {alarms : List String} (hw : world.Mirrors) (hst : ∀ st, w.stage? = some st → st.Decisive) :
    Mirrors ({ d with world, queue, alarms }.occupy i w) := by
  refine ⟨hw, fun j st hj => ?_⟩
  rcases eq_or_ne j i with rfl | hne
  · rw [worker_occupy_self] at hj
    exact hst st hj
  · rw [worker_occupy_of_ne _ hne] at hj
    exact h.decisive j st hj

lemma Mirrors.step (h : d.Mirrors) (hs : d.Step o d')
    (ho : ∀ f, o = some (.brokeWrites (some f)) → f.isNotFound = false) : d'.Mirrors := by
  have between {w : Worker} (hw : w.stage? = none) (st : Stage) (hst : w.stage? = some st) :
      st.Decisive := by
    rw [hw] at hst
    cases hst
  cases hs with
  | aside hw => exact ⟨h.world.of_sameCache hw, h.decisive⟩
  | stored r => exact ⟨h.world.put r, h.decisive⟩
  | removed j => exact ⟨h.world.remove j, h.decisive⟩
  | brokeWrites fault =>
    refine ⟨⟨h.world.stores, fun f hf => ho f ?_, h.world.cached⟩, h.decisive⟩
    rw [show fault = some f from hf]
  | queued | announced | rang | closed => exact ⟨h.world, h.decisive⟩
  | started w hp hw => exact ⟨h.world, fun i => between (Worker.stage?_of_key? (hw i))⟩
  | rested i w hi hw => exact h.of_occupy h.world (between (Worker.stage?_of_key? hw))
  | handed | dropped | succeeded | died | retries | putOff | released =>
    exact h.of_occupy h.world (between rfl)
  | consulted i hi hk =>
    refine h.of_occupy h.world fun st hst => ?_
    obtain rfl := Option.some.inj hst
    exact Stage.start_decisive _ _
  | executes i hi =>
    refine h.of_occupy (h.world.of_sameCache (World.sameCache_begin _ _)) fun st hst => ?_
    obtain rfl := Option.some.inj hst
    trivial
  | executed i hi =>
    refine h.of_occupy (h.world.of_sameCache (World.sameCache_complete _ _)) fun st hst => ?_
    obtain rfl := Option.some.inj hst
    exact Stage.afterStatement_decisive _ _ _
  | @writes i key r v hi =>
    have hw : (d.world.write (r.withStatus v.status)).2.Mirrors := by
      rcases h.world.write_cases (r.withStatus v.status) with ⟨f, -, he⟩ | ⟨-, hm, -⟩
      · rw [he]
        exact h.world
      · exact hm
    refine h.of_occupy hw fun st hst => ?_
    obtain rfl := Option.some.inj hst
    exact Stage.afterWrite_decisive _ _ _
  | publishes i hi =>
    refine h.of_occupy (h.world.of_sameCache (World.sameCache_publish _ _ _)) fun st hst => ?_
    obtain rfl := Option.some.inj hst
    trivial

/-! ### Nothing that is due is forgotten -/

lemma Vacant.not_owes {i : Nat} (h : d.Vacant i) : ¬ (d.worker i).Owes k := by
  intro hw
  have hkey := hw.key?
  rw [h.key?] at hkey
  cases hkey

/-- What was due still is, if that is so of the queue, the alarms and the one worker that goes on. -/
lemma Due.of_parts (h : d.Due k) {i : Nat} {w : Worker} (hi : d.worker i = w)
    (hj : ∀ j, j ≠ i → d'.worker j = d.worker j) (hq : k.text ∈ d.queue.dirty → d'.Due k)
    (ha : k.text ∈ d.alarms → d'.Due k) (hw : w.Owes k → d'.Due k) : d'.Due k := by
  rcases h with hd | hal | ⟨j, ho⟩
  · exact hq hd
  · exact ha hal
  · rcases eq_or_ne j i with rfl | hne
    · exact hw (hi ▸ ho)
    · refine .inr (.inr ⟨j, ?_⟩)
      rw [hj j hne]
      exact ho

/-- A worker that owes something takes a step towards it. -/
lemma Due.occupy (h : d.Due k) {i : Nat} {w w' : Worker} (world : World) (hi : d.worker i = w)
    (hw : w.Owes k → w'.Owes k) : Due k ({ d with world }.occupy i w') := by
  refine h.of_parts hi (fun j hj => worker_occupy_of_ne _ hj _) .inl (fun ha => .inr (.inl ha)) ?_
  intro ho
  refine .inr (.inr ⟨i, ?_⟩)
  rw [worker_occupy_self]
  exact hw ho

/-- A worker leaves what it owes to the queue, or to an alarm. -/
lemma Due.leave (h : d.Due k) {i : Nat} {w w' : Worker} {queue : Queue String} {alarms : List String}
    (hi : d.worker i = w) (hq : ∀ x ∈ d.queue.dirty, x ∈ queue.dirty)
    (ha : ∀ x ∈ d.alarms, x ∈ alarms)
    (hw : w.Owes k → k.text ∈ queue.dirty ∨ k.text ∈ alarms) :
    Due k ({ d with queue, alarms }.occupy i w') :=
  h.of_parts hi (fun _ hj => worker_occupy_of_ne _ hj _) (fun hd => .inl (hq _ hd))
    (fun hal => .inr (.inl (ha _ hal))) fun ho => (hw ho).imp_right .inl

/-- The worker that comes away with a key owes what is due for it. -/
lemma Due.handed (h : d.Due k) {i : Nat} {key : String} {q : Queue String} (hi : d.Vacant i)
    (hq : d.queue.take = (some key, q)) : Due k ({ d with queue := q }.occupy i (.handed key)) := by
  refine h.of_parts rfl (fun j hj => worker_occupy_of_ne _ hj _) (fun hd => ?_)
    (fun ha => .inr (.inl ha)) fun ho => absurd ho hi.not_owes
  rcases eq_or_ne k.text key with rfl | hne
  · refine .inr (.inr ⟨i, ?_⟩)
    rw [worker_occupy_self]
    rfl
  · exact .inl ((Queue.mem_dirty_take hq).2 ⟨hd, hne⟩)

/-- A write decides, or the worker still owes one. -/
lemma Due.written (h : d.Due k) (hm : d.Mirrors) {i : Nat} {key : String} {r : Resource} {v : Verdict}
    (hi : d.worker i = .reconciling key (.write r v)) :
    let d' := { d with world := (d.world.write (r.withStatus v.status)).2 }.occupy i
      (.reconciling key (.afterWrite r v (d.world.write (r.withStatus v.status)).1))
    Decided k d' ∨ Due k d' := by
  rcases hm.world.write_cases (r.withStatus v.status) with ⟨f, hf, he⟩ | ⟨-, -, hl⟩
  · refine .inr (h.occupy _ hi fun ho => ⟨ho.1, ?_⟩)
    rw [he]
    exact Stage.afterWrite_owes hf v
  · by_cases hr : Key.ofResource (r.withStatus v.status) = .ok k
    · refine .inl fun r' hr' => ?_
      change (d.world.write (r.withStatus v.status)).2.lookup k = some r' at hr'
      rw [hl, if_pos hr] at hr'
      obtain rfl := Option.some.inj hr'
      exact hm.decisive i (.write r v) (by rw [hi]; rfl)
    · exact .inr (h.occupy _ hi fun ho => absurd ho.2 hr)

lemma Due.step (h : d.Due k) (hk : k.Plain) (hc : d.Custody) (hm : d.Mirrors) (hs : d.Step o d')
    (hopen : d'.queue.closed = false) (hu : ¬ d.Decided k) : d'.Decided k ∨ d'.Due k := by
  cases hs with
  | aside | stored | removed | brokeWrites => exact .inr h
  | queued | announced =>
    exact .inr (h.imp_left fun hd => Queue.mem_dirty_add.2 (.inl hd))
  | @rang due later hp =>
    rw [Queue.closed_adds] at hopen
    rcases h with hd | ha | hw
    · exact .inr (.inl (Queue.mem_dirty_adds.2 (.inl hd)))
    · rcases List.mem_append.1 (hp.mem_iff.1 ha) with hdue | hlater
      · exact .inr (.inl (Queue.mem_dirty_adds.2 (.inr ⟨hopen, hdue⟩)))
      · exact .inr (.inr (.inl hlater))
    · exact .inr (.inr (.inr hw))
  | closed => cases hopen
  | started w hp hw =>
    refine .inr (h.imp_right (.imp_right fun ⟨i, hi⟩ => ?_))
    rw [hc.early hp i] at hi
    exact hi.elim
  | rested i w hi hw => exact .inr (h.occupy d.world rfl fun ho => absurd ho hi.not_owes)
  | handed i hi hq => exact .inr (h.handed hi hq)
  | @dropped i key f hi hp =>
    refine .inr (h.occupy d.world hi fun (ho : key = k.text) => ?_)
    rw [ho, Key.parse_text hk] at hp
    cases hp
  | @consulted i key j hi hp =>
    refine .inr (h.occupy d.world hi fun (ho : key = k.text) => ⟨ho, ?_⟩)
    rw [ho, Key.parse_text hk] at hp
    obtain rfl : k = j := Except.ok.inj hp
    -- what is cached is not decided, so this attempt has a status to write
    simp only [Decided, not_forall, not_not] at hu
    obtain ⟨r, hr, hprog⟩ := hu
    rw [hr]
    exact Stage.start_owes _ (hm.world.cached k r hr) hprog
  | executes i hi => exact .inr (h.occupy _ hi id)
  | executed i hi => exact .inr (h.occupy _ hi fun ho => ⟨ho.1, Stage.afterStatement_owes ho.2 _⟩)
  | writes i hi => exact h.written hm hi
  | publishes i hi => exact .inr (h.occupy _ hi id)
  | succeeded i hi =>
    refine .inr (h.occupy d.world hi fun ho => ?_)
    obtain ⟨-, f, hf⟩ := ho
    cases hf
  | died i hi => exact .inr (h.occupy d.world hi fun ho => ho.1)
  | @retries i key f hi =>
    have hadded : key ∈ (d.queue.add key).dirty :=
      Queue.mem_dirty_add.2 (.inr ⟨(d.queue.closed_add key).symm.trans hopen, rfl⟩)
    exact .inr (h.leave hi (fun x hx => Queue.mem_dirty_add.2 (.inl hx)) (fun x hx => hx)
      fun ho => .inl (ho.1 ▸ hadded))
  | @putOff i key f hi =>
    have hset : key ∈ d.alarms ++ [key] := by simp
    exact .inr (h.leave hi (fun x hx => hx) (fun x hx => List.mem_append_left _ hx)
      fun ho => .inr (ho.1 ▸ hset))
  | released i hi =>
    exact .inr (h.leave hi (fun x hx => hx) (fun x hx => hx) fun ho => ho.elim)

/-- Only a resource from outside can be undecided again. -/
lemma Decided.step (h : d.Decided k) (hm : d.Mirrors) (hs : d.Step o d')
    (ho : ∀ r, o = some (.stored r) → Key.ofResource r ≠ .ok k) : d'.Decided k := by
  have same {w : World} (hw : d.world.SameCache w) (r : Resource) (hr : w.lookup k = some r) :
      r.progress ≠ .unprovisioned := h r ((hw.lookup k).symm.trans hr)
  cases hs with
  | aside hw => exact same hw
  | stored r =>
    intro r' hr'
    change (d.world.put r).2.lookup k = some r' at hr'
    rw [World.lookup_put, if_neg (ho r rfl)] at hr'
    exact h r' hr'
  | removed j =>
    intro r' hr'
    change (d.world.remove j).2.lookup k = some r' at hr'
    rw [World.lookup_remove] at hr'
    split_ifs at hr'
    exact h r' hr'
  | executes i hi => exact same (World.sameCache_begin _ _)
  | executed i hi => exact same (World.sameCache_complete _ _)
  | publishes i hi => exact same (World.sameCache_publish _ _ _)
  | @writes i key r v hi =>
    intro r' hr'
    change (d.world.write (r.withStatus v.status)).2.lookup k = some r' at hr'
    rcases d.world.lookup_write (r.withStatus v.status) k with he | ⟨-, he⟩
    · exact h r' (he.symm.trans hr')
    · obtain rfl := Option.some.inj (he.symm.trans hr')
      exact hm.decisive i (.write r v) (by rw [hi]; rfl)
  | _ => exact h

/-- Nobody has anything to do, now or later. -/
structure Idle (d : Desk) : Prop where
  line : d.queue.line = []
  active : d.queue.active = []
  alarms : d.alarms = []

lemma Custody.not_due (h : d.Custody) (hd : d.Idle) : ¬ d.Due k := by
  rintro (hm | ha | ⟨i, hi⟩)
  · have hl : k.text ∈ d.queue.line := (h.tidy.mem_line _).2 ⟨hm, by simp [hd.active]⟩
    simp [hd.line] at hl
  · simp [hd.alarms] at ha
  · have hact := h.active i _ hi.key?
    simp [hd.active] at hact

end Desk

end Provisioner
