import Provisioner.Proofs.Watch.Deletions

/-!
What the notifications alone tell about the store.

Whoever enters what is added or updated, and strikes out what is deleted, has the store in front of
him whenever no list is under way. Only what a list has announced that was then given up may be left
over: it was never stored, so nobody reports that it is gone.
-/

namespace Provisioner

namespace Notification

def subject : Notification → Resource
  | .added r | .updated _ r | .deleted r => r

/-- What is known after a notification to someone who knew `t`. -/
def enter (t : Table Ref Resource) (n : Notification) : Table Ref Resource :=
  match Ref.of? n.subject, n.current? with
  | none, _ => t
  | some k, some r => t.insert k r
  | some k, none => t.erase k

lemma find?_enter (t : Table Ref Resource) (n : Notification) (k : Ref) :
    (enter t n).find? k = if Ref.of? n.subject = some k then n.current? else t.find? k := by
  unfold enter
  cases hj : Ref.of? n.subject with
  | none => simp
  | some j =>
    by_cases hk : k = j
    · cases n.current? <;> simp [hk]
    · cases n.current? <;> simp [hk, Ne.symm hk]

end Notification

/-- The identity that an event is about. -/
def Event.ref? (e : Event) : Option Ref := e.subject?.bind Ref.of?

namespace Watch

/-- The notifications, replayed on an empty table. -/
def replay (ns : List Notification) : Table Ref Resource := ns.foldl Notification.enter {}

/-- All that is sent for these events. -/
def sent (es : List Event) : List Notification := (({} : Watch).deliverAll es).1

/-- What is left over: a list was given up that had said this last about the identity, of which
nothing was stored, and nothing was heard of it since. -/
def Stray (es : List Event) (k : Ref) (r : Resource) : Prop :=
  ∃ before later, es = before ++ .listBegins :: later ∧ listing? before = some true ∧
    latest? before k = some r ∧ (after before).store.entries.find? k = none ∧
    ∀ e ∈ later, e.ref? ≠ some k

variable {es : List Event} {e : Event} {j k : Ref} {r : Resource}

/-! ### What is left over -/

lemma not_stray_nil : ¬ Stray [] k r := by
  rintro ⟨before, later, he, -⟩
  simp at he

lemma stray_snoc :
    Stray (es ++ [e]) k r ↔
      (e = .listBegins ∧ listing? es = some true ∧ latest? es k = some r ∧
        (after es).store.entries.find? k = none) ∨
      (Stray es k r ∧ e.ref? ≠ some k) := by
  constructor
  · rintro ⟨before, later, he, hl, hr, hst, hlater⟩
    rcases List.eq_nil_or_concat later with rfl | ⟨later, e', rfl⟩
    · obtain ⟨rfl, rfl⟩ := List.concat_inj.1 (by simpa using he)
      exact .inl ⟨rfl, hl, hr, hst⟩
    · obtain ⟨rfl, rfl⟩ : es = before ++ .listBegins :: later ∧ e = e' := by
        refine List.concat_inj.1 ?_
        simpa using he
      simp only [List.concat_eq_append, List.forall_mem_append, List.forall_mem_singleton] at hlater
      exact .inr ⟨⟨before, later, rfl, hl, hr, hst, hlater.1⟩, hlater.2⟩
  · rintro (⟨rfl, hl, hr, hst⟩ | ⟨hs, he⟩)
    · exact ⟨es, [], rfl, hl, hr, hst, List.forall_mem_nil _⟩
    · obtain ⟨before, later, rfl, hl, hr, hst, hlater⟩ := hs
      refine ⟨before, later ++ [e], by simp, hl, hr, hst, ?_⟩
      simp only [List.forall_mem_append, List.forall_mem_singleton]
      exact ⟨hlater, he⟩

/-- Outside of lists nothing is gathered. -/
lemma latest?_unlisted (h : ∀ r, e ≠ .listed r) (hb : e ≠ .listBegins) :
    latest? (es ++ [e]) k = latest? es k := by
  cases e with
  | listBegins => exact absurd rfl hb
  | listed r => exact absurd rfl (h r)
  | listEnds | changed r | removed r => simp [latest?, gathered, Event.gather]

/-- The list that is under way has not come to what is left over. -/
lemma Stray.latest? (h : Stray es k r) : latest? es k = none := by
  induction es using List.reverseRecOn with
  | nil => exact absurd h not_stray_nil
  | append_singleton es e ih =>
    rcases stray_snoc.1 h with ⟨rfl, -⟩ | ⟨hs, he⟩
    · exact latest?_listBegins
    · cases e with
      | listBegins => exact latest?_listBegins
      | listed s =>
        have hne : Ref.of? s ≠ some k := he
        rw [latest?_listed, if_neg hne]
        exact ih hs
      | listEnds | changed s | removed s =>
        rw [latest?_unlisted (by simp) (by simp)]
        exact ih hs

/-! ### What is stored -/

lemma sent_snoc : sent (es ++ [e]) = sent es ++ ((after es).deliver e).1 := by
  rw [sent, deliverAll_append]
  simp [deliverAll, sent, after]

lemma replay_snoc :
    replay (sent (es ++ [e])) = ((after es).deliver e).1.foldl Notification.enter (replay (sent es)) := by
  rw [sent_snoc, replay, List.foldl_append]
  rfl

/-- What is notified as deleted is struck out, and nothing else. -/
lemma find?_foldl_deleted {ns : List Notification} (h : ∀ n ∈ ns, ∃ o, n = .deleted o)
    (t : Table Ref Resource) (k : Ref) :
    (ns.foldl Notification.enter t).find? k = if deletions k ns = [] then t.find? k else none := by
  induction ns generalizing t with
  | nil => rfl
  | cons n ns ih =>
    obtain ⟨o, rfl⟩ := h n List.mem_cons_self
    rw [List.foldl_cons, ih (fun m hm => h m (List.mem_cons_of_mem _ hm)), Notification.find?_enter]
    by_cases hk : Ref.of? o = some k
    · simp [deletions, Notification.deletion?, Notification.subject, Notification.current?, hk]
    · simp [deletions, Notification.deletion?, Notification.subject, hk]

/-- A change, or an item of a list, is entered as it came. -/
lemma find?_enter_applied (t : Table Ref Resource) (old : Option Resource) (r : Resource) (k : Ref) :
    (Notification.enter t (Relist.applied old r)).find? k =
      if Ref.of? r = some k then some r else t.find? k := by
  rw [Notification.find?_enter]
  cases old <;> rfl

/-! ### Event after event -/

/-- What is known, what is stored and what is left over, at any moment of a stream. -/
structure Told (es : List Event) : Prop where
  announced : listing? es = some true → ∀ k r, latest? es k = some r →
    (replay (sent es)).find? k = some r
  stored : listing? es = some false → ∀ k r, (after es).store.entries.find? k = some r →
    (replay (sent es)).find? k = some r
  unstored : ∀ k, (listing? es = some true → latest? es k = none) →
    (after es).store.entries.find? k = none →
      ∀ r, (replay (sent es)).find? k = some r ↔ Stray es k r
  stray : ∀ k r, Stray es k r → (after es).store.entries.find? k = none

lemma told_nil : Told [] where
  announced h := by cases h
  stored _ k r h := by cases h
  unstored k _ _ r := ⟨fun h => (by cases h), fun h => absurd h not_stray_nil⟩
  stray k r h := absurd h not_stray_nil

lemma Told.listBegins {b : Bool} (h : Told es) (hl : listing? es = some b)
    (hd : (after es).deliver .listBegins = (after es).apply j .listBegins) :
    Told (es ++ [.listBegins]) := by
  have hc : listing? (es ++ [.listBegins]) = some true := listing?_append hl rfl
  have hknown : replay (sent (es ++ [.listBegins])) = replay (sent es) := by
    rw [replay_snoc, hd]
    rfl
  have hstore : (after (es ++ [.listBegins])).store.entries = (after es).store.entries := by
    rw [after_snoc, hd]
    rfl
  refine ⟨fun _ k r hr => ?_, fun hf => ?_, fun k _ hk r => ?_, fun k r hs => ?_⟩
  · rw [latest?_listBegins] at hr
    cases hr
  · rw [hc] at hf
    cases hf
  · rw [hstore] at hk
    rw [hknown, stray_snoc]
    -- what was listed last is left over from now on
    cases hr : latest? es k with
    | none =>
      rw [h.unstored k (fun _ => hr) hk]
      simp [Event.ref?, Event.subject?]
    | some s =>
      have hnot (r : Resource) : ¬ Stray es k r := fun hs => by
        rw [hs.latest?] at hr
        cases hr
      cases b with
      | true => simp [h.announced hl k s hr, hl, hk, hnot]
      | false => simp [h.unstored k (by simp [hl]) hk, hl, hnot]
  · rw [hstore]
    rcases stray_snoc.1 hs with ⟨-, -, -, hk⟩ | ⟨hs, -⟩
    · exact hk
    · exact h.stray k r hs

lemma Told.listed (h : Told es) (hl : listing? es = some true)
    (hd : (after es).deliver (.listed r) = (after es).apply j (.listed r)) :
    Told (es ++ [.listed r]) := by
  have hc : listing? (es ++ [.listed r]) = some true := listing?_append hl rfl
  have hknown (k : Ref) : (replay (sent (es ++ [.listed r]))).find? k =
      if Ref.of? r = some k then some r else (replay (sent es)).find? k := by
    rw [replay_snoc, hd]
    exact find?_enter_applied _ _ r k
  have hstore : (after (es ++ [.listed r])).store.entries = (after es).store.entries := by
    rw [after_snoc, hd]
    rfl
  refine ⟨fun _ k s hs => ?_, fun hf => ?_, fun k hlatest hk s => ?_, fun k s hs => ?_⟩
  · rw [latest?_listed] at hs
    rw [hknown]
    split_ifs at hs ⊢
    · exact hs
    · exact h.announced hl k s hs
  · rw [hc] at hf
    cases hf
  · have hlatest := hlatest hc
    rw [latest?_listed] at hlatest
    split_ifs at hlatest with hne
    have hne' : (Event.listed r).ref? ≠ some k := hne
    rw [hstore] at hk
    rw [hknown, if_neg hne, stray_snoc, h.unstored k (fun _ => hlatest) hk]
    simp [hne']
  · rw [hstore]
    rcases stray_snoc.1 hs with ⟨he, -⟩ | ⟨hs, -⟩
    · cases he
    · exact h.stray k s hs

/-- The end of a list strikes out what was stored and not listed; the rest of the list was entered
before. -/
lemma Told.listEnds (h : Told es) (hl : listing? es = some true) (hs : (after es).stopped = false) :
    Told (es ++ [.listEnds]) := by
  have hc : listing? (es ++ [.listEnds]) = some false := listing?_append hl rfl
  have hdeleted : ∀ n ∈ ((after es).deliver .listEnds).1, ∃ o, n = .deleted o := by
    intro n hn
    rw [deliver_eq hs (receiving_after es) rfl] at hn
    obtain ⟨x, -, rfl⟩ := List.mem_map.1 hn
    exact ⟨x.2, rfl⟩
  have hknown (k : Ref) : (replay (sent (es ++ [.listEnds]))).find? k =
      if (latest? es k).isSome ∨ (after es).store.entries.find? k = none then
        (replay (sent es)).find? k else none := by
    rw [replay_snoc, find?_foldl_deleted hdeleted, (listEnds_exact hl hs k).1]
    cases hr : latest? es k <;> cases hk : (after es).store.entries.find? k <;> simp
  have hstore (k : Ref) : (after (es ++ [.listEnds])).store.entries.find? k = latest? es k := by
    rw [after_snoc, (listEnds_exact hl hs k).2]
  have hstray (k : Ref) (r : Resource) : Stray (es ++ [.listEnds]) k r ↔ Stray es k r := by
    simp [stray_snoc, Event.ref?, Event.subject?]
  refine ⟨fun hf => ?_, fun _ k r hr => ?_, fun k _ hk r => ?_, fun k r hr => ?_⟩
  · rw [hc] at hf
    cases hf
  · rw [hstore] at hr
    rw [hknown, if_pos (.inl (by simp [hr]))]
    exact h.announced hl k r hr
  · rw [hstore] at hk
    rw [hknown, hstray]
    cases hb : (after es).store.entries.find? k with
    | none =>
      rw [if_pos (.inr rfl)]
      exact h.unstored k (fun _ => hk) hb r
    | some s =>
      rw [if_neg (by simp [hk])]
      refine ⟨nofun, fun hr => ?_⟩
      rw [h.stray k r hr] at hb
      cases hb
  · rw [hstore]
    exact ((hstray k r).1 hr).latest?

/-- Outside of lists what is entered is what is stored. -/
lemma Told.direct (h : Told es) {v : Option Resource} (hl : listing? es = some false)
    (hc : listing? (es ++ [e]) = some false) (hj : e.ref? = some j)
    (hknown : ∀ k, (replay (sent (es ++ [e]))).find? k =
      if j = k then v else (replay (sent es)).find? k)
    (hstore : ∀ k, (after (es ++ [e])).store.entries.find? k =
      if j = k then v else (after es).store.entries.find? k) : Told (es ++ [e]) := by
  have hstray (k : Ref) (r : Resource) : Stray (es ++ [e]) k r ↔ Stray es k r ∧ j ≠ k := by
    rw [stray_snoc, hj]
    simp [hl]
  refine ⟨fun hf => ?_, fun _ k r hr => ?_, fun k _ hk r => ?_, fun k r hr => ?_⟩
  · rw [hc] at hf
    cases hf
  · rw [hstore] at hr
    rw [hknown]
    split_ifs at hr ⊢
    · exact hr
    · exact h.stored hl k r hr
  · rw [hstore] at hk
    rw [hknown, hstray]
    split_ifs at hk ⊢ with hjk
    · simp [hk, hjk]
    · rw [h.unstored k (by simp [hl]) hk]
      simp [hjk]
  · obtain ⟨hr, hjk⟩ := (hstray k r).1 hr
    rw [hstore, if_neg hjk]
    exact h.stray k r hr

lemma Told.changed (h : Told es) (hl : listing? es = some false) (hj : Ref.of? r = some j)
    (hd : (after es).deliver (.changed r) = (after es).apply j (.changed r)) :
    Told (es ++ [.changed r]) := by
  refine h.direct hl (listing?_append hl rfl) (v := some r) hj (fun k => ?_) (fun k => ?_)
  · rw [replay_snoc, hd]
    refine (find?_enter_applied _ _ r k).trans ?_
    simp [hj]
  · rw [after_snoc, hd]
    refine (Table.find?_insert _ j k r).trans ?_
    by_cases hjk : j = k
    · simp [hjk]
    · simp [hjk, Ne.symm hjk]

lemma Told.removed (h : Told es) (hl : listing? es = some false) (hj : Ref.of? r = some j)
    (hd : (after es).deliver (.removed r) = (after es).apply j (.removed r)) :
    Told (es ++ [.removed r]) := by
  refine h.direct hl (listing?_append hl rfl) (v := none) hj (fun k => ?_) (fun k => ?_)
  · rw [replay_snoc, hd]
    refine (Notification.find?_enter _ (.deleted r) k).trans ?_
    simp [Notification.subject, Notification.current?, hj]
  · rw [after_snoc, hd]
    refine (Table.find?_erase _ j k).trans ?_
    by_cases hjk : j = k
    · simp [hjk]
    · simp [hjk, Ne.symm hjk]

/-- **Step**: what was told before an event that can come, and is applied, is told after it. -/
lemma Told.snoc (h : Told es) {b c : Bool} (hl : listing? es = some b) (he : Event.next? b e = some c)
    (hs : (after (es ++ [e])).stopped = false) : Told (es ++ [e]) := by
  rw [after_snoc] at hs
  obtain ⟨j, hj, hs', hd⟩ | ⟨-, -, hstop⟩ := deliver_after_cases es e
  · cases e with
    | listBegins => exact h.listBegins hl hd
    | listed r =>
      cases b with
      | false => cases he
      | true => exact h.listed hl hd
    | listEnds =>
      cases b with
      | false => cases he
      | true => exact h.listEnds hl hs'
    | changed r =>
      cases b with
      | false => exact h.changed hl hj hd
      | true => cases he
    | removed r =>
      cases b with
      | false => exact h.removed hl hj hd
      | true => cases he
  · rw [hstop] at hs
    cases hs

lemma not_stopped_of_snoc (hs : (after (es ++ [e])).stopped = false) : (after es).stopped = false := by
  rw [after_snoc] at hs
  obtain ⟨-, -, hs', -⟩ | ⟨-, -, hstop⟩ := deliver_after_cases es e
  · exact hs'
  · rw [hstop] at hs
    cases hs

/-- **Run**: along a stream, for as long as the watch goes on. -/
lemma told_after {b : Bool} (hl : listing? es = some b) (hs : (after es).stopped = false) : Told es := by
  induction es using List.reverseRecOn generalizing b with
  | nil => exact told_nil
  | append_singleton es e ih =>
    rw [listing?_snoc, Option.bind_eq_some_iff] at hl
    obtain ⟨b', hb', he⟩ := hl
    exact (ih hb' (not_stopped_of_snoc hs)).snoc hb' he hs

/-- **The store from its notifications**: take any stream of a client, whatever lists were begun and
given up in it, at a moment when no list is under way. Whoever has followed all notifications knows
the store, and beyond it only what is left over of lists that were given up. -/
theorem replay_stored {es : List Event} (hl : listing? es = some false)
    (hs : (after es).stopped = false) (k : Ref) (r : Resource) :
    (replay (sent es)).find? k = some r ↔
      (after es).store.entries.find? k = some r ∨ Stray es k r := by
  have h := told_after hl hs
  cases hk : (after es).store.entries.find? k with
  | none =>
    rw [h.unstored k (by simp [hl]) hk]
    simp
  | some s =>
    have hnot : ¬ Stray es k r := fun hr => by
      rw [h.stray k r hr] at hk
      cases hk
    rw [h.stored hl k s hk]
    simp [hnot]

/-- A resource was listed, changed while the next list was given up, and is listed again. -/
theorem replay_stored_orders :
    let es : List Event := [.listBegins, .listed World.orders, .listEnds, .listBegins,
      .listed { World.orders with status := some {} }, .listBegins, .listed World.orders, .listEnds]
    listing? es = some false ∧ (after es).stopped = false ∧
      (replay (sent es)).find? ⟨some "shop", "orders"⟩ = some World.orders := by
  intro es
  have hl : listing? es = some false := by decide
  have hs : (after es).stopped = false := by decide
  exact ⟨hl, hs, (replay_stored hl hs ⟨some "shop", "orders"⟩ World.orders).2 (.inl (by decide))⟩

/-- A resource that only a list had which was given up is known to whoever follows the notifications,
but it is not stored. -/
theorem orders_left_over :
    let es : List Event := [.listBegins, .listed World.orders, .listBegins, .listEnds]
    listing? es = some false ∧ (after es).stopped = false ∧
      (replay (sent es)).find? ⟨some "shop", "orders"⟩ = some World.orders ∧
      (after es).store.entries.find? ⟨some "shop", "orders"⟩ = none := by
  decide +kernel

end Watch

end Provisioner
