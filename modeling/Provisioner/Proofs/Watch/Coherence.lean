import Mathlib.Tactic.Common
import Provisioner.Proofs.World.Basic
import Provisioner.Watch.Basic

/-!
What the store holds at the moment a notification is sent.

The event is applied before anything is sent for it, so a change shows and a deletion is through.
But what a list delivers is notified at once and shows only when the list ends; until then the
store answers with what it held before the list.
-/

namespace Provisioner

namespace Notification

/-- The resource as it is now. -/
def current? : Notification → Option Resource
  | .added r | .updated _ r => some r
  | .deleted _ => none

/-- The resource as it was known before. -/
def previous? : Notification → Option Resource
  | .added _ => none
  | .updated old _ => some old
  | .deleted r => some r

end Notification

/-- Every resource in the table stands under its own identity. -/
def Table.Filed (t : Table Ref Resource) : Prop := ∀ e ∈ t.entries, Ref.of? e.2 = some e.1

namespace Table.Filed

variable {t : Table Ref Resource} {k : Ref} {r : Resource}

lemma empty : Filed {} := fun _ he => absurd he (by simp)

lemma erase (h : t.Filed) (k : Ref) : (t.erase k).Filed :=
  fun e he => h e (List.mem_filter.1 he).1

lemma insert (h : t.Filed) (hk : Ref.of? r = some k) : (t.insert k r).Filed := by
  intro e he
  rcases List.mem_cons.1 he with rfl | he
  · exact hk
  · exact h.erase k e he

end Table.Filed

namespace Watch

/-- A watch that has taken these events. -/
def after (es : List Event) : Watch := (({} : Watch).deliverAll es).2

/-- What is stored under the identity of a resource. -/
def stored? (w : Watch) (r : Resource) : Option Resource := (Ref.of? r).bind w.store.entries.find?

variable {w : Watch} {e : Event} {k : Ref} {n : Notification} {o : Resource}

/-! ### What is delivered -/

lemma deliver_eq (hs : w.stopped = false) (hr : w.receiving = true) (hk : refOf? e = some k) :
    w.deliver e = w.apply k e := by
  have hr' : (w.apply k e).2.receiving = true := hr
  simp [deliver, hs, hk, hr']

/-- Something is sent only by a watch that goes on, for an event with an identity. -/
lemma deliver_sent (hn : n ∈ (w.deliver e).1) :
    ∃ k, refOf? e = some k ∧ w.stopped = false ∧ w.receiving = true ∧
      w.deliver e = w.apply k e := by
  unfold deliver at hn
  split_ifs at hn with hs
  · simp at hn
  · have hs : w.stopped = false := by simpa using hs
    cases hk : refOf? e with
    | none => simp [hk] at hn
    | some k =>
      by_cases hr : w.receiving = true
      · exact ⟨k, rfl, hs, hr, deliver_eq hs hr hk⟩
      · have hr' : (w.apply k e).2.receiving ≠ true := hr
        simp [hk, hr'] at hn

/-! ### Everything stands under its own identity -/

/-- The tables are filed, and what waits in the buffer was seen in the list. -/
structure Sound (w : Watch) : Prop where
  entries : w.store.entries.Filed
  buffer : w.store.buffer.Filed
  before : w.relist.before.Filed
  seen : ∀ k r, w.store.buffer.find? k = some r → k ∈ w.relist.seen

lemma sound_new : Sound {} := ⟨.empty, .empty, .empty, fun _ _ h => by cases h⟩

lemma Sound.apply (h : w.Sound) (hk : refOf? e = some k) : (w.apply k e).2.Sound := by
  obtain ⟨he, hb, hf, hs⟩ := h
  cases e with
  | listBegins => exact ⟨he, .empty, he, fun _ _ h => by cases h⟩
  | listed r =>
    refine ⟨he, hb.insert hk, hf, fun j s hj => ?_⟩
    rw [show (w.apply k (.listed r)).2.store.buffer = w.store.buffer.insert k r from rfl,
      Table.find?_insert] at hj
    split_ifs at hj with hjk
    · exact List.mem_cons.2 (.inl (by simpa using hjk))
    · exact List.mem_cons_of_mem _ (hs j s hj)
  | listEnds => exact ⟨hb, .empty, .empty, fun _ _ h => by cases h⟩
  | changed r => exact ⟨he.insert hk, hb, hf, hs⟩
  | removed r => exact ⟨he.erase k, hb, hf, hs⟩

lemma Sound.deliver (h : w.Sound) (e : Event) : (w.deliver e).2.Sound := by
  unfold Watch.deliver
  split_ifs
  · exact h
  · cases hk : refOf? e with
    | none => exact ⟨h.entries, h.buffer, h.before, h.seen⟩
    | some k =>
      have ha := h.apply hk
      simp only
      split_ifs
      · exact ha
      · exact ⟨ha.entries, ha.buffer, ha.before, ha.seen⟩

lemma Sound.deliverAll (h : w.Sound) (es : List Event) : (w.deliverAll es).2.Sound := by
  induction es generalizing w with
  | nil => exact h
  | cons e es ih => exact ih (h.deliver e)

lemma sound_after (es : List Event) : (after es).Sound := sound_new.deliverAll es

/-! ### What a list has in store -/

/-- What waits in the buffer, and is not listed again, is stored when the list ends. -/
lemma stored_of_listEnds (hk : Ref.of? o = some k) (hs : w.stopped = false)
    (hr : w.receiving = true) (hb : w.store.buffer.find? k = some o) (rs : List Resource)
    (hrs : ∀ r ∈ rs, (Ref.of? r).isSome ∧ Ref.of? r ≠ Ref.of? o) :
    (w.deliverAll (rs.map .listed ++ [.listEnds])).2.stored? o = some o := by
  induction rs generalizing w with
  | nil =>
    have he : w.deliver .listEnds = w.apply ⟨none, ""⟩ .listEnds := deliver_eq hs hr rfl
    change (w.deliver .listEnds).2.stored? o = some o
    rw [he, stored?, hk]
    exact hb
  | cons r rs ih =>
    obtain ⟨hr₁, hne⟩ := hrs r List.mem_cons_self
    obtain ⟨j, hj⟩ := Option.isSome_iff_exists.1 hr₁
    have he : w.deliver (.listed r) = w.apply j (.listed r) := deliver_eq hs hr hj
    have hkj : k ≠ j := by
      rintro rfl
      exact hne (hj.trans hk.symm)
    have hb' : (w.apply j (.listed r)).2.store.buffer.find? k = some o := by
      change (w.store.buffer.insert j r).find? k = some o
      rw [Table.find?_insert, if_neg (by simpa using hkj)]
      exact hb
    change ((w.deliver (.listed r)).2.deliverAll (rs.map .listed ++ [.listEnds])).2.stored? o = _
    rw [he]
    exact ih hs hr hb' fun s hs => hrs s (List.mem_cons_of_mem _ hs)

/-! ### What a worker sees -/

/-- A key leads to what is under the identity of its resource, if that has no empty scope. -/
lemma lookup_ofResource {key : Key} (hkey : Key.ofResource o = .ok key)
    (hscope : o.metadata.scope ≠ some "") (hk : Ref.of? o = some k) :
    w.lookup key = w.store.get? k := by
  have hk' : (⟨if key.scope = "" then none else some key.scope, key.name⟩ : Ref) = k := by
    unfold Key.ofResource at hkey
    unfold Ref.of? at hk
    cases hn : o.metadata.name with
    | none => simp [hn] at hk
    | some name =>
      simp only [hn, Option.map_some, Option.some.injEq] at hk hkey
      split_ifs at hkey
      cases hs : o.metadata.scope with
      | none =>
        cases hkey
        rw [← hk, hs]
        rfl
      | some s =>
        have hne : s ≠ "" := by
          rintro rfl
          exact hscope hs
        cases hkey
        rw [← hk, hs]
        simp [hne]
  rw [lookup, hk']

lemma get?_eq_some (hk : Ref.of? o = some k) (h : w.stored? o = some o) :
    w.store.get? k = some o := by
  rw [stored?, hk] at h
  rw [Store.get?, show w.store.entries.find? k = some o from h]
  rfl

/-! ### Notifications -/

/-- What is notified as added or updated was just changed, or listed. -/
lemma apply_current (hn : n ∈ (w.apply k e).1) (ho : n.current? = some o) :
    (e = .changed o ∨ e = .listed o) ∧ n.previous? = w.store.get? k := by
  have applied_iff (r : Resource) (hn : n = Relist.applied (w.store.get? k) r) :
      r = o ∧ n.previous? = w.store.get? k := by
    subst hn
    cases hs : w.store.get? k <;>
      simpa [Relist.applied, hs, Notification.current?, Notification.previous?] using ho
  cases e with
  | listBegins => simp [Watch.apply, Relist.step] at hn
  | listed r =>
    obtain ⟨rfl, hp⟩ := applied_iff r (List.mem_singleton.1 hn)
    exact ⟨.inr rfl, hp⟩
  | listEnds =>
    obtain ⟨x, -, rfl⟩ := List.mem_map.1 hn
    cases ho
  | changed r =>
    obtain ⟨rfl, hp⟩ := applied_iff r (List.mem_singleton.1 hn)
    exact ⟨.inl rfl, hp⟩
  | removed r =>
    rw [List.mem_singleton.1 hn] at ho
    cases ho

/-- What is notified as deleted has an identity, and nothing is stored under it any more. -/
lemma Sound.apply_deleted (h : w.Sound) (hk : refOf? e = some k)
    (hn : .deleted o ∈ (w.apply k e).1) :
    (Ref.of? o).isSome ∧ (w.apply k e).2.stored? o = none := by
  have not_applied (r : Resource) (hn : .deleted o = Relist.applied (w.store.get? k) r) : False := by
    cases hs : w.store.get? k <;> simp [Relist.applied, hs] at hn
  cases e with
  | listBegins => simp [Watch.apply, Relist.step] at hn
  | listed r => exact (not_applied r (List.mem_singleton.1 hn)).elim
  | changed r => exact (not_applied r (List.mem_singleton.1 hn)).elim
  | removed r =>
    cases List.mem_singleton.1 hn
    have ho : Ref.of? o = some k := hk
    refine ⟨by rw [ho]; rfl, ?_⟩
    rw [stored?, ho]
    change (w.store.entries.erase k).find? k = none
    simp
  | listEnds =>
    -- it was there before the list, and the list that is now stored did not have it
    obtain ⟨⟨j, r⟩, hm, hr⟩ := List.mem_map.1 hn
    cases hr
    obtain ⟨hb, hnot⟩ := List.mem_filter.1 (List.mem_mergeSort.1 hm)
    have hj : Ref.of? r = some j := h.before _ hb
    refine ⟨by rw [hj]; rfl, ?_⟩
    rw [stored?, hj]
    change w.store.buffer.find? j = none
    by_contra hne
    obtain ⟨s, hs⟩ := Option.ne_none_iff_exists'.1 hne
    simp [h.seen j s hs] at hnot

/-- **Coherence**: after any events, when a notification is sent for the next one, a resource that
was changed is stored and seen by every look-up, and of one that was deleted nothing is stored. A
resource that was listed is not stored by that: whoever looks it up sees what was known before,
which for a new one is nothing, and it is stored only when the list comes to its end. -/
theorem deliver_coherent (es : List Event) (e : Event) (n : Notification)
    (hn : n ∈ ((after es).deliver e).1) :
    let w := after es
    let w' := (w.deliver e).2
    (∀ o, n.current? = some o →
      e = .changed o ∧ w'.stored? o = some o ∨
      e = .listed o ∧ w'.stored? o = w.stored? o ∧
        ∀ rs : List Resource, (∀ r ∈ rs, (Ref.of? r).isSome ∧ Ref.of? r ≠ Ref.of? o) →
          (w'.deliverAll (rs.map .listed ++ [.listEnds])).2.stored? o = some o) ∧
    (∀ o, n = .deleted o → (Ref.of? o).isSome ∧ w'.stored? o = none) ∧
    ∀ o key, n.current? = some o → Key.ofResource o = .ok key → o.metadata.scope ≠ some "" →
      w'.lookup key = if e = .listed o then n.previous? else some o := by
  intro w w'
  obtain ⟨k, hk, hs, hr, hd⟩ := deliver_sent hn
  have hw' : w' = (w.apply k e).2 := congrArg Prod.snd hd
  rw [hd] at hn
  have changed {o : Resource} (he : e = .changed o) : w'.stored? o = some o := by
    subst he
    have ho : Ref.of? o = some k := hk
    rw [hw', stored?, ho]
    change (w.store.entries.insert k o).find? k = some o
    simp
  refine ⟨fun o ho => ?_, fun o ho => ?_, fun o key ho hkey hscope => ?_⟩
  · obtain ⟨he | he, -⟩ := apply_current hn ho
    · exact .inl ⟨he, changed he⟩
    · subst he
      have hb : (w.apply k (.listed o)).2.store.buffer.find? k = some o := by
        change (w.store.buffer.insert k o).find? k = some o
        simp
      refine .inr ⟨rfl, by rw [hw']; rfl, fun rs hrs => ?_⟩
      rw [hw']
      exact stored_of_listEnds (w := (w.apply k (.listed o)).2) hk hs hr hb rs hrs
  · subst ho
    rw [hw']
    exact (sound_after es).apply_deleted hk hn
  · obtain ⟨he | he, hp⟩ := apply_current hn ho
    · subst he
      rw [if_neg (by simp), lookup_ofResource hkey hscope hk]
      exact get?_eq_some hk (changed rfl)
    · subst he
      rw [if_pos rfl, lookup_ofResource hkey hscope hk, hp, hw']
      rfl

/-- A resource is created while the watch is up. -/
theorem deliver_coherent_orders :
    let r := (after [.listBegins, .listEnds]).deliver (.changed World.orders)
    .added World.orders ∈ r.1 ∧ r.2.lookup ⟨"shop", "orders"⟩ = some World.orders := by
  intro r
  have hn : .added World.orders ∈ r.1 := by decide
  exact ⟨hn, (deliver_coherent _ _ _ hn).2.2 World.orders ⟨"shop", "orders"⟩ rfl rfl (by decide)⟩

/-- A resource is created while the watch is down. When the next list delivers it, a notification is
sent, but whoever looks the resource up on account of it finds nothing. -/
theorem orders_listed_unseen :
    let r := (after [.listBegins, .listEnds, .listBegins]).deliver (.listed World.orders)
    .added World.orders ∈ r.1 ∧ r.2.stored? World.orders = none ∧
      r.2.lookup ⟨"shop", "orders"⟩ = none := by
  decide

end Watch

end Provisioner
