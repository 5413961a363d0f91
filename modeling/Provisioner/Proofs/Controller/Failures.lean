import Mathlib.Data.List.DropRight
import Provisioner.CommandLine.Settings
import Provisioner.Proofs.Controller.DocketSteps
import Provisioner.Proofs.Limiter.Counts

/-!
Keys whose last attempt has failed.

Such a key is marked, in someone's hands, or an alarm is set for it, and the alarm does not go off
before the sleep over the delay has ended that the limiter has given. The limiter counts the failures
since the last attempt that did not fail.
-/

namespace Provisioner

/-- Whether an attempt for the key has failed, if the entry is about the end of one. -/
def Entry.verdict? (key : String) : Entry → Option Bool
  | .failed _ x _ => if x = key then some true else none
  | .succeeded _ x | .dropped _ x => if x = key then some false else none
  | .queued _ | .took .. | .gave .. => none

lemma Entry.failed_of_verdict? {key : String} {e : Option Entry}
    (h : e.bind (Entry.verdict? key) = some true) : ∃ i delay, e = some (.failed i key delay) := by
  obtain ⟨e, rfl, he⟩ := Option.bind_eq_some_iff.1 h
  cases e with
  | failed i x delay =>
    simp only [verdict?] at he
    split_ifs at he with hx
    exact ⟨i, delay, by rw [hx]⟩
  | succeeded i x | dropped i x =>
    simp only [verdict?] at he
    split_ifs at he
    cases he
  | _ => cases he

def verdicts (key : String) (es : List Entry) : List Bool := es.filterMap (Entry.verdict? key)

/-- How many attempts for the key have failed since the last one that did not. -/
def failures (key : String) (es : List Entry) : Nat := ((verdicts key es).rtakeWhile id).length

lemma verdicts_concat (key : String) (es : List Entry) (e : Option Entry) :
    verdicts key (es ++ e.toList) =
      verdicts key es ++ (e.bind (Entry.verdict? key)).toList := by
  unfold verdicts
  rw [List.filterMap_append]
  cases e with
  | none => rfl
  | some e => cases h : Entry.verdict? key e <;> simp [h]

/-- What is counted for a key after the end of an attempt for it. -/
def tally (n : Nat) : Option Bool → Nat
  | none => n
  | some false => 0
  | some true => min (n + 1) maxCount

lemma failures_concat (key : String) (es : List Entry) (e : Option Entry) :
    min (failures key (es ++ e.toList)) maxCount =
      tally (min (failures key es) maxCount) (e.bind (Entry.verdict? key)) := by
  unfold failures
  rw [verdicts_concat]
  rcases e.bind (Entry.verdict? key) with _ | _ | _
  · rw [Option.toList_none, List.append_nil]
    rfl
  · rw [Option.toList_some, List.rtakeWhile_concat_neg _ _ _ (by simp)]
    rfl
  · rw [Option.toList_some, List.rtakeWhile_concat_pos _ _ _ (by simp), List.length_append]
    simp only [tally, List.length_singleton]
    omega

/-- The key that is to be worked on. -/
def Duty.task? : Duty → Option String
  | .handed key | .busy key => some key
  | .free | .releasing _ | .dead _ => none

lemma Duty.key?_of_task? {w : Duty} {key : String} (h : w.task? = some key) :
    w.key? = some key := by
  cases w with
  | handed | busy => exact h
  | _ => cases h

/-- The key that is not given back before it has been worked on. -/
def Duty.claim? : Duty → Option String
  | .handed key | .busy key | .dead key => some key
  | .free | .releasing _ => none

lemma Duty.key?_of_claim? {w : Duty} {key : String} (h : w.claim? = some key) :
    w.key? = some key := by
  cases w with
  | handed | busy | dead => exact h
  | _ => cases h

namespace Docket

variable {ρ : Type} [Quantity ρ] {d d' : Docket ρ} {e : Option Entry} {key : String}

/-! ### Counting -/

/-- The limiter is asked when an attempt fails, and told when one does not. -/
lemma Step.count_eq (hs : d.Step e d') (hl : d.limiter.Paced) (key : String) :
    d'.limiter.Paced ∧
      d'.limiter.count key = tally (d.limiter.count key) (e.bind (Entry.verdict? key)) := by
  have failed (x : String) (reading : Nat) : (d.limiter.next x reading).2.Paced ∧
      (d.limiter.next x reading).2.count key =
        tally (d.limiter.count key) (if x = key then some true else none) := by
    refine ⟨hl.next x reading, ?_⟩
    rw [hl.count_next]
    rcases eq_or_ne x key with rfl | hne
    · simp [tally]
    · simp [tally, hne, hne.symm]
  have done (x : String) : (d.limiter.forget x).Paced ∧ (d.limiter.forget x).count key =
      tally (d.limiter.count key) (if x = key then some false else none) := by
    refine ⟨hl.forget x, ?_⟩
    rw [hl.count_forget]
    rcases eq_or_ne x key with rfl | hne
    · simp [tally]
    · simp [tally, hne, hne.symm]
  cases hs with
  | @dropped i x | @succeeded i x => exact done x
  | @died i reading x | @retries i reading x | @putOff i reading x => exact failed x reading
  | _ => exact ⟨hl, rfl⟩

/-! ### What is owed to a key that has failed -/

/-- It is marked, someone has it and has to work on it, or an alarm is set for it. -/
def Owes (d : Docket ρ) (key : String) : Prop :=
  key ∈ d.queue.dirty ∨ (∃ i, (d.duty i).claim? = some key) ∨ ∃ m, (m, key) ∈ d.alarms

lemma Step.opened (hs : d.Step e d') (h : d'.queue.closed = false) : d.queue.closed = false := by
  cases hs with
  | queued x => exact (d.queue.closed_add x).symm.trans h
  | @rang moment due later _ _ => exact (d.queue.closed_adds due).symm.trans h
  | closed => cases h
  | took i hi hq => exact (Queue.closed_take hq).symm.trans h
  | @retries i _ x _ hi => exact (d.queue.closed_add x).symm.trans h
  | _ => exact h

/-- After a failure the key is added, an alarm is set, or it stays in the worker's hands. -/
lemma Step.failed_owes {i : Nat} {delay : Option Delay}
    (hs : d.Step (some (.failed i key delay)) d') (h : d.queue.closed = false) : d'.Owes key := by
  cases hs with
  | died i reading hi hn => exact .inr (.inl ⟨i, by rw [duty_assign_self]; rfl⟩)
  | retries i reading hi hn hd => exact .inl (Queue.mem_dirty_add.2 (.inr ⟨h, rfl⟩))
  | putOff i reading hi hn =>
    exact .inr (.inr ⟨_, List.mem_append_right _ (List.mem_singleton_self _)⟩)

lemma Step.dirty_owes (hs : d.Step e d') (h : key ∈ d.queue.dirty) : d'.Owes key := by
  cases hs with
  | queued x | retries => exact .inl (Queue.mem_dirty_add.2 (.inl h))
  | rang => exact .inl (Queue.mem_dirty_adds.2 (.inl h))
  | @took i x q hi hq =>
    rcases eq_or_ne key x with rfl | hne
    · exact .inr (.inl ⟨i, by rw [duty_assign_self]; rfl⟩)
    · exact .inl ((Queue.mem_dirty_take hq).2 ⟨h, hne⟩)
  | _ => exact .inl h

/-- What an alarm is set for is added when the alarm goes off. -/
lemma Step.alarm_owes {m : Nat} (hs : d.Step e d') (ho : d.queue.closed = false)
    (h : (m, key) ∈ d.alarms) : d'.Owes key := by
  cases hs with
  | @rang moment due later _ hp =>
    rcases List.mem_append.1 (hp.mem_iff.1 h) with hdue | hlater
    · obtain ⟨x, hx, hmx⟩ := List.mem_map.1 hdue
      obtain rfl : x = key := congrArg Prod.snd hmx
      exact .inl (Queue.mem_dirty_adds.2 (.inr ⟨ho, hx⟩))
    · exact .inr (.inr ⟨m, hlater⟩)
  | putOff => exact .inr (.inr ⟨m, List.mem_append_left _ h⟩)
  | _ => exact .inr (.inr ⟨m, h⟩)

/-- Whoever has the key keeps it until the attempt is over. -/
lemma Step.claim_owes {i : Nat} (hs : d.Step e d') (he : e.bind (Entry.verdict? key) = none)
    (h : (d.duty i).claim? = some key) : d'.Owes key := by
  have kept (hd : d'.duty i = d.duty i) : d'.Owes key := .inr (.inl ⟨i, hd ▸ h⟩)
  have apart {j : Nat} {w : Duty} (hj : d.duty j = w) (hw : w.claim? ≠ some key) : i ≠ j := by
    rintro rfl
    exact hw (hj ▸ h)
  cases hs with
  | aside | queued | rang | closed => exact .inr (.inl ⟨i, h⟩)
  | took j hj => exact kept (duty_assign_of_ne _ (apart hj nofun) _)
  | @began j x k hj hk =>
    rcases eq_or_ne i j with rfl | hne
    · refine .inr (.inl ⟨i, ?_⟩)
      rw [duty_assign_self]
      rw [hj] at h
      exact h
    · exact kept (duty_assign_of_ne _ hne _)
  | @dropped j x f hj | @succeeded j x hj | @died j _ x hj | @retries j _ x _ hj
  | @putOff j _ x _ hj =>
    have hx : x ≠ key := by
      rintro rfl
      simp [Entry.verdict?] at he
    exact kept (duty_assign_of_ne _ (apart hj (by simpa [Duty.claim?] using hx)) _)
  | released j hj => exact kept (duty_assign_of_ne _ (apart hj nofun) _)

/-- Only the end of an attempt settles it. -/
lemma Owes.step (h : d.Owes key) (hs : d.Step e d') (ho : d.queue.closed = false)
    (he : e.bind (Entry.verdict? key) = none) : d'.Owes key := by
  rcases h with h | ⟨i, h⟩ | ⟨m, h⟩
  · exact hs.dirty_owes h
  · exact hs.claim_owes he h
  · exact hs.alarm_owes ho h

/-! ### The wait after a failure -/

/-- Nobody gets the key before the moment `t`: it is not marked, nobody is about to work on it, and
no alarm for it goes off before. -/
structure Waits (d : Docket ρ) (key : String) (t : Nat) : Prop where
  dirty : key ∉ d.queue.dirty
  hands : ∀ i, (d.duty i).task? ≠ some key
  alarms : ∀ m, (m, key) ∈ d.alarms → t ≤ m

lemma Step.now_le (hs : d.Step e d') : d.now ≤ d'.now := by
  cases hs with
  | rang hm => exact hm
  | _ => exact Nat.le_refl _

omit [Quantity ρ] in
/-- What is handed out was marked. -/
lemma Waits.not_taken {t : Nat} {q : Queue String} (h : d.Waits key t) (ht : d.queue.Tidy) :
    d.queue.take ≠ (some key, q) := by
  intro hq
  obtain ⟨xs, hline, -⟩ := Queue.take_eq_some hq
  exact h.dirty ((ht.mem_line key).1 (by simp [hline])).1

lemma Step.take_of_took {i : Nat} (hs : d.Step (some (.took i key)) d') :
    ∃ q, d.queue.take = (some key, q) := by
  cases hs with
  | took i hi hq => exact ⟨_, hq⟩

lemma Waits.step {t : Nat} (h : d.Waits key t) (hd : d.Custody) (hs : d.Step e d')
    (he : e ≠ some (.queued key)) : t ≤ d'.now ∨ d'.Waits key t := by
  have hands (i : Nat) (w : Duty) (hw : w.task? ≠ some key) :
      ∀ j, (Function.update d.duty i w j).task? ≠ some key :=
    (Function.forall_update_iff d.duty fun _ w => w.task? ≠ some key).2 ⟨hw, fun j _ => h.hands j⟩
  have apart {i : Nat} {x : String} {w : Duty} (hi : d.duty i = w) (hw : w.task? = some x) :
      key ≠ x := by
    rintro rfl
    exact h.hands i (hi ▸ hw)
  have added {x : String} (hx : key ≠ x) : key ∉ (d.queue.add x).dirty := by
    intro hk
    rcases Queue.mem_dirty_add.1 hk with hk | ⟨-, hk⟩
    · exact h.dirty hk
    · exact hx hk
  cases hs with
  | aside => exact .inr h
  | queued x =>
    have hx : key ≠ x := by
      rintro rfl
      exact he rfl
    exact .inr ⟨added hx, h.hands, h.alarms⟩
  | @rang moment due later hm hp =>
    by_cases hk : key ∈ due
    · exact .inl (h.alarms moment (hp.mem_iff.2 (List.mem_append_left _ (List.mem_map_of_mem hk))))
    · refine .inr ⟨fun hx => ?_, h.hands, fun m hm => ?_⟩
      · rcases Queue.mem_dirty_adds.1 hx with hx | ⟨-, hx⟩
        · exact h.dirty hx
        · exact hk hx
      · exact h.alarms m (hp.mem_iff.2 (List.mem_append_right _ hm))
  | closed => exact .inr ⟨h.dirty, h.hands, h.alarms⟩
  | @took i x q hi hq =>
    have hx : x ≠ key := by
      rintro rfl
      exact h.not_taken hd.tidy hq
    exact .inr ⟨fun hk => h.dirty ((Queue.mem_dirty_take hq).1 hk).1,
      hands i (.handed x) (by simpa [Duty.task?] using hx), h.alarms⟩
  | @began i x k hi hk =>
    have hx : key ≠ x := apart hi rfl
    exact .inr ⟨h.dirty, hands i (.busy x) (by simpa [Duty.task?] using hx.symm), h.alarms⟩
  | @dropped i x | @succeeded i x | @released i x =>
    exact .inr ⟨h.dirty, hands i _ nofun, h.alarms⟩
  | @died i _ x => exact .inr ⟨h.dirty, hands i (.dead x) nofun, h.alarms⟩
  | @retries i reading x delay hi =>
    exact .inr ⟨added (apart hi rfl), hands i (.releasing x) nofun, h.alarms⟩
  | @putOff i reading x delay hi =>
    refine .inr ⟨h.dirty, hands i (.releasing x) nofun, fun m hm => ?_⟩
    rcases List.mem_append.1 hm with hm | hm
    · exact h.alarms m hm
    · exact absurd (congrArg Prod.snd (List.mem_singleton.1 hm)) (apart hi rfl)

/-- When the sleep over the delay ends, if it begins now; over no delay there is none. -/
def due (d : Docket ρ) (delay : Delay) : Nat :=
  if delay.nanos = 0 then d.now else d.now + d.sleep d.now delay

omit [Quantity ρ] in
/-- By then the delay is over, unless the sleep is shorter. -/
lemma le_due (d : Docket ρ) (delay : Delay) :
    d.now * 1000000 + min delay.nanos (d.sleep d.now delay * 1000000) ≤ d.due delay * 1000000 := by
  unfold due
  split_ifs with hzero <;> omega

omit [Quantity ρ] in
lemma due_le (d : Docket ρ) (delay : Delay) : d.due delay ≤ d.now + d.sleep d.now delay := by
  unfold due
  split_ifs
  · exact Nat.le_add_right _ _
  · exact Nat.le_refl _

lemma Step.sleep (hs : d.Step e d') : d'.sleep = d.sleep := by
  cases hs <;> rfl

/-- If nothing else adds the key, only the alarm that the failure sets does. -/
lemma Step.failed_waits {i : Nat} {delay : Delay}
    (hs : d.Step (some (.failed i key (some delay))) d') (hd : d.Custody)
    (hk : key ∉ d.queue.dirty) (ha : ∀ m, (m, key) ∉ d.alarms) :
    d.due delay ≤ d'.now ∨ d'.Waits key (d.due delay) := by
  have hands (hi : d.duty i = .busy key) :
      ∀ j, (Function.update d.duty i (.releasing key) j).task? ≠ some key := by
    refine (Function.forall_update_iff d.duty fun _ w => w.task? ≠ some key).2
      ⟨nofun, fun j hne hj => hne ?_⟩
    have hjk : (d.duty j).key? = some key := Duty.key?_of_task? hj
    exact hd.alone j i key hjk (by rw [hi]; rfl)
  cases hs with
  | retries i reading hi hn hz =>
    rcases hz with hclosed | hzero
    · refine .inr ⟨fun hx => ?_, hands hi, fun m hm => absurd hm (ha m)⟩
      rcases Queue.mem_dirty_add.1 hx with hx | ⟨hopen, -⟩
      · exact hk hx
      · exact absurd (hclosed.symm.trans hopen) nofun
    · exact .inl (Nat.le_of_eq (if_pos hzero))
  | putOff i reading hi hn =>
    refine .inr ⟨hk, hands hi, fun m hm => ?_⟩
    rcases List.mem_append.1 hm with hm | hm
    · exact absurd hm (ha m)
    · have hmoment : m = d.now + d.sleep d.now delay := congrArg Prod.fst (List.mem_singleton.1 hm)
      exact hmoment ▸ d.due_le delay

/-! ### Keys that cannot be read -/

/-- Nobody works on the key, and no alarm is set for it. -/
structure Ignores (d : Docket ρ) (key : String) : Prop where
  hands : ∀ i, d.duty i ≠ .busy key
  alarms : ∀ m, (m, key) ∉ d.alarms

lemma Ignores.not_failed {i : Nat} {delay : Option Delay} (h : d.Ignores key) :
    ¬ d.Step (some (.failed i key delay)) d' := by
  intro hs
  cases hs with
  | died i reading hi | retries i reading hi | putOff i reading hi => exact h.hands i hi

lemma Ignores.step {f : Failure} (h : d.Ignores key) (hs : d.Step e d')
    (hf : Key.parse key = .error f) : d'.Ignores key := by
  have hands (i : Nat) (w : Duty) (hw : w ≠ .busy key) :
      ∀ j, Function.update d.duty i w j ≠ .busy key :=
    (Function.forall_update_iff d.duty fun _ w => w ≠ .busy key).2 ⟨hw, fun j _ => h.hands j⟩
  cases hs with
  | aside | queued | closed => exact ⟨h.hands, h.alarms⟩
  | rang _ hp =>
    exact ⟨h.hands, fun m hm => h.alarms m (hp.mem_iff.2 (List.mem_append_right _ hm))⟩
  | @took i x => exact ⟨hands i (.handed x) nofun, h.alarms⟩
  | @began i x k hi hk =>
    have hx : x ≠ key := by
      rintro rfl
      rw [hk] at hf
      cases hf
    exact ⟨hands i (.busy x) (by simpa using hx), h.alarms⟩
  | @dropped i x | @succeeded i x | @retries i _ x =>
    exact ⟨hands i (.releasing x) nofun, h.alarms⟩
  | @died i _ x => exact ⟨hands i (.dead x) nofun, h.alarms⟩
  | @putOff i reading x delay hi =>
    refine ⟨hands i (.releasing x) nofun, fun m hm => ?_⟩
    rcases List.mem_append.1 hm with hm | hm
    · exact h.alarms m hm
    · obtain rfl : key = x := congrArg Prod.snd (List.mem_singleton.1 hm)
      exact h.hands i hi
  | @released i x => exact ⟨hands i .free nofun, h.alarms⟩

end Docket

namespace Controller

variable {ρ : Type} [Quantity ρ] {c : Controller ρ} {key : String}

/-! ### What a run keeps -/

lemma run_counts (hc : c.desk.Custody) (hl : c.work.limiter.Paced) (h : c.work.count key = 0)
    (as : List Action) :
    (c.run as).work.count key = min (failures key (c.entries as)) maxCount := by
  refine (run_docket (P := fun es d => d.limiter.Paced ∧
    d.limiter.count key = min (failures key es) maxCount) hc ⟨hl, h⟩ ?_ as).2
  intro es d e d' _ ⟨hpaced, hcount⟩ hs
  obtain ⟨hpaced', hcount'⟩ := hs.count_eq hpaced key
  exact ⟨hpaced', by rw [hcount', hcount, failures_concat]⟩

lemma run_owes (hc : c.desk.Custody) (as : List Action) :
    (c.run as).work.queue.closed = false →
      (verdicts key (c.entries as)).getLast? = some true → (c.run as).docket.Owes key := by
  refine run_docket (P := fun es d => d.queue.closed = false →
    (verdicts key es).getLast? = some true → d.Owes key) hc (fun _ => nofun) ?_ as
  intro es d e d' hd ih hs ho hlast
  have hopen : d.queue.closed = false := hs.opened ho
  rw [verdicts_concat] at hlast
  cases hv : e.bind (Entry.verdict? key) with
  | none =>
    rw [hv, Option.toList_none, List.append_nil] at hlast
    exact (ih hopen hlast).step hs hopen hv
  | some v =>
    rw [hv, Option.toList_some, List.getLast?_concat] at hlast
    obtain rfl := Option.some.inj hlast
    obtain ⟨i, delay, rfl⟩ := Entry.failed_of_verdict? hv
    exact hs.failed_owes hopen

lemma run_waits {t : Nat} (hc : c.desk.Custody) (h : t ≤ c.docket.now ∨ c.docket.Waits key t)
    (as : List Action) (hq : .queued key ∉ c.entries as) :
    t ≤ (c.run as).docket.now ∨ (c.run as).docket.Waits key t := by
  refine run_docket (P := fun es d => .queued key ∉ es → t ≤ d.now ∨ d.Waits key t) hc (fun _ => h)
    ?_ as hq
  intro es d e d' hd ih hs hes
  rcases ih fun hx => hes (List.mem_append_left _ hx) with ht | hw
  · exact .inl (ht.trans hs.now_le)
  · refine hw.step hd hs ?_
    rintro rfl
    exact hes (by simp)

lemma run_ignores {f : Failure} (hc : c.desk.Custody) (h : c.docket.Ignores key)
    (hf : Key.parse key = .error f) (as : List Action) :
    (c.run as).docket.Ignores key ∧ ∀ i delay, .failed i key delay ∉ c.entries as := by
  refine run_docket (P := fun es d => d.Ignores key ∧ ∀ i delay, .failed i key delay ∉ es) hc
    ⟨h, nofun⟩ ?_ as
  intro es d e d' _ ⟨hd, hes⟩ hs
  refine ⟨hd.step hs hf, fun i delay hx => ?_⟩
  rcases List.mem_append.1 hx with hx | hx
  · exact hes i delay hx
  · obtain rfl : e = some (.failed i key delay) := by simpa using hx
    exact hd.not_failed hs

/-! ### Retries -/

/-- An attempt for the key fails, with that delay, and nothing else adds the key: it is not marked,
no alarm is set for it, and nobody queues it later. -/
structure Fails (c : Controller ρ) (key : String) (delay : Delay) (a : Action)
    (later : List Action) : Prop where
  failed : ∃ i, c.noted? a = some (.failed i key (some delay))
  unmarked : key ∉ c.work.queue.dirty
  unalarmed : ∀ m, (m, key) ∉ c.work.timers.alarms
  unqueued : .queued key ∉ (c.step a).entries later

/-- With no alarm at all, there is none for the key. -/
lemma Fails.of_silent {delay : Delay} {a : Action} {later : List Action} {i : Nat}
    (h : c.noted? a = some (.failed i key (some delay)) ∧ key ∉ c.work.queue.dirty ∧
      c.work.timers.alarms = [] ∧ .queued key ∉ (c.step a).entries later) :
    c.Fails key delay a later := by
  obtain ⟨hfailed, hdirty, halarms, hqueued⟩ := h
  refine ⟨⟨i, hfailed⟩, hdirty, fun m => ?_, hqueued⟩
  rw [halarms]
  exact List.not_mem_nil

/-- Nobody gets the key before the delay is over, or the sleep over it if this is shorter. -/
lemma Fails.wait {delay : Delay} {a b : Action} {later : List Action} {j : Nat}
    (h : c.Fails key delay a later) (hc : c.desk.Custody)
    (hb : ((c.step a).run later).noted? b = some (.took j key)) :
    c.work.now * 1000000 + min delay.nanos (c.work.sleep c.work.now delay * 1000000) ≤
      ((c.step a).run later).work.now * 1000000 := by
  obtain ⟨i, hi⟩ := h.failed
  have hstep := step_docket hc a
  rw [hi] at hstep
  have hc₁ : (c.step a).desk.Custody := custody_run hc [a]
  have hc₂ : ((c.step a).run later).desk.Custody := custody_run hc₁ later
  have htook := step_docket hc₂ b
  rw [hb] at htook
  have hwaits := hstep.failed_waits (docket_custody hc) h.unmarked h.unalarmed
  have hdue : c.docket.due delay ≤ ((c.step a).run later).work.now := by
    rcases run_waits hc₁ hwaits later h.unqueued with ht | hw
    · exact ht
    · exact absurd (htook.take_of_took) fun ⟨q, hq⟩ => hw.not_taken hc₂.tidy hq
  exact (c.docket.le_due delay).trans (Nat.mul_le_mul_right _ hdue)

/-- The same controller on a platform with that sleep. -/
def withSleep (c : Controller ρ) (sleep : Nat → Delay → Nat) : Controller ρ :=
  { c with work := { c.work with sleep } }

omit [Quantity ρ] in
lemma desk_withSleep (c : Controller ρ) (sleep : Nat → Delay → Nat) :
    (c.withSleep sleep).desk = c.desk := rfl

lemma run_sleep (hc : c.desk.Custody) (as : List Action) : (c.run as).work.sleep = c.work.sleep :=
  run_docket (P := fun _ d => d.sleep = c.work.sleep) hc rfl
    (fun _ _ _ _ _ h hs => hs.sleep.trans h) as

/-- A key whose last attempt has failed is going to be tried again. Whatever the sleep of the
platform is like, that is not before the delay is over, or the sleep over it if this is shorter; the
limiter counts the failures of the key. A key that cannot be read is never tried. -/
theorem run_retried (policy : Policy) (pace : RetryPace) (sleep : Nat → Delay → Nat) (reading : Nat)
    (world : World) (as : List Action) (key : String) :
    let c := (opening policy (pace.limiter reading) world).withSleep sleep
    let c' := c.run as
    (c'.work.queue.closed = false → (verdicts key (c.entries as)).getLast? = some true →
      key ∈ c'.work.queue.dirty ∨ key ∈ c'.work.queue.active ∨
        ∃ m, (m, key) ∈ c'.work.timers.alarms) ∧
    (∀ before a later delay b j, as = before ++ a :: later →
      (c.run before).Fails key delay a later → c'.noted? b = some (.took j key) →
      (c.run before).work.now * 1000000 +
          min delay.nanos (sleep (c.run before).work.now delay * 1000000) ≤
        c'.work.now * 1000000) ∧
    c'.work.count key = min (failures key (c.entries as)) maxCount ∧
    ∀ f, Key.parse key = .error f →
      (∀ i, (c'.worker i).duty ≠ .busy key) ∧ (∀ m, (m, key) ∉ c'.work.timers.alarms) ∧
        ∀ i delay, .failed i key delay ∉ c.entries as := by
  intro c c'
  have hc : c.desk.Custody := by
    rw [desk_withSleep]
    exact custody_opening policy (pace.limiter reading) world
  have hc' : c'.desk.Custody := custody_run hc as
  refine ⟨fun ho hlast => ?_, fun before a later delay b j hsplit hfails hb => ?_, ?_,
    fun f hf => ?_⟩
  · rcases run_owes hc as ho hlast with h | ⟨i, h⟩ | h
    · exact .inl h
    · exact .inr (.inl ((docket_custody hc').active i key (Duty.key?_of_claim? h)))
    · exact .inr (.inr h)
  · have hrun : c' = ((c.run before).step a).run later := by
      simp only [c', hsplit, run_append]
      rfl
    have hsleep : (c.run before).work.sleep = sleep := run_sleep hc before
    rw [hrun] at hb ⊢
    rw [← hsleep]
    exact hfails.wait (custody_run hc before) hb
  · exact run_counts hc (Limiter.paced_limiter pace reading) rfl as
  · have hignores : c.docket.Ignores key := ⟨nofun, nofun⟩
    obtain ⟨⟨hhands, halarms⟩, hfailed⟩ := run_ignores hc hignores hf as
    exact ⟨hhands, halarms, hfailed⟩

/-- A worker tries to provision the resource, and the write is refused; the failure is next. -/
def failingOrders : List Action :=
  [.breakWrites (some (.api (.refused { reason := "Conflict", code := 409 }))), .start 1,
    .sync true, .main false, .enqueue World.orders, .worker 0 0, .worker 0 0, .worker 0 0,
    .complete (.worker 0), .worker 0 0, .complete (.worker 0), .worker 0 0, .worker 0 0]

/-- On a platform where a sleep ends after thirty years at the latest, five milliseconds are slept in
full, and then the key is handed out again. -/
theorem run_retried_orders :
    let later : List Action := [.worker 0 0, .worker 0 0, .clock 5]
    let as := failingOrders ++ .worker 0 0 :: later
    (shop.run failingOrders).Fails "shop/orders" (.ofMillis 5) (.worker 0 0) later ∧
    (shop.run as).noted? (.worker 0 0) = some (.took 0 "shop/orders") ∧
    (shop.run failingOrders).work.now * 1000000 + 5000000 ≤ (shop.run as).work.now * 1000000 ∧
    (shop.run as).work.count "shop/orders" = 1 := by
  intro later as
  have hfails : (shop.run failingOrders).Fails "shop/orders" (.ofMillis 5) (.worker 0 0) later :=
    .of_silent (i := 0) (by decide +kernel)
  have htook : (shop.run as).noted? (.worker 0 0) = some (.took 0 "shop/orders") := by
    decide +kernel
  have hshop : (opening .hold (RetryPace.limiter {} 0)
      (World.solo ⟨"shop", "orders"⟩ World.orders)).withSleep (fun _ d => waitFor d.ceilMillis) =
        shop := rfl
  have h := run_retried .hold {} (fun _ d => waitFor d.ceilMillis) 0
    (World.solo ⟨"shop", "orders"⟩ World.orders) as "shop/orders"
  rw [hshop] at h
  obtain ⟨-, hwait, hcount, -⟩ := h
  have hmoments := hwait failingOrders (.worker 0 0) later (.ofMillis 5) (.worker 0 0) 0 rfl hfails
    htook
  have hfull : min (Delay.ofMillis 5).nanos (waitFor (Delay.ofMillis 5).ceilMillis * 1000000) =
      5000000 := by decide +kernel
  rw [hfull] at hmoments
  exact ⟨hfails, htook, hmoments, hcount.trans (by decide +kernel)⟩

/-- A token in 10¹⁹ seconds on the command line, and none to start with. -/
def patientArguments : List String :=
  ["--postgres-url", "postgres://localhost", "--qps", "1e-19", "--burst", "0"]

/-- 10¹⁹ seconds, in which the first token comes. -/
def patience : Delay := .ofSeconds 10000000000000000000

set_option maxRecDepth 10000 in
/-- The command line takes them. A sleep of 10¹⁹ seconds goes past the end of the clock, and ends
after thirty years. -/
theorem orders_retried_early :
    let later : List Action := [.worker 0 0, .worker 0 0, .clock longestWait]
    ∃ vs, CommandLine.read patientArguments [] = .ok vs ∧
      let c := opening .hold (vs.pace.limiter 0) (World.solo ⟨"shop", "orders"⟩ World.orders)
      let c' := c.run (failingOrders ++ .worker 0 0 :: later)
      (c.run failingOrders).Fails "shop/orders" patience (.worker 0 0) later ∧
      c'.noted? (.worker 0 0) = some (.took 0 "shop/orders") ∧
      c'.work.now * 1000000 < (c.run failingOrders).work.now * 1000000 + patience.nanos := by
  intro later
  obtain ⟨vs, hread, hfails, htook, hearly⟩ := CommandLine.exists_read patientArguments []
    (P := fun vs =>
    let c := opening .hold (vs.pace.limiter 0) (World.solo ⟨"shop", "orders"⟩ World.orders)
    let d := c.run failingOrders
    let c' := c.run (failingOrders ++ .worker 0 0 :: later)
    (d.noted? (.worker 0 0) = some (.failed 0 "shop/orders" (some patience)) ∧
        "shop/orders" ∉ d.work.queue.dirty ∧ d.work.timers.alarms = [] ∧
        .queued "shop/orders" ∉ (d.step (.worker 0 0)).entries later) ∧
      c'.noted? (.worker 0 0) = some (.took 0 "shop/orders") ∧
      c'.work.now * 1000000 < d.work.now * 1000000 + patience.nanos)
    (by decide +kernel)
  exact ⟨vs, hread, .of_silent hfails, htook, hearly⟩

end Controller

end Provisioner
