import Mathlib.Data.List.Basic
import Provisioner.Proofs.Watch.Stream

/-!
Which resources are notified as deleted.

While a list is under way the watch holds what was stored when it began, and who has been listed
since. When the list ends, the resources that were stored and not listed are notified, each once,
and the list takes the place of the store.
-/

namespace Provisioner

namespace Notification

/-- The resource of a deletion, if it has this identity. -/
def deletion? (k : Ref) : Notification → Option Resource
  | .deleted r => if Ref.of? r = some k then some r else none
  | _ => none

end Notification

/-! ### Entries with distinct keys -/

namespace Table

variable {κ ν : Type} [DecidableEq κ] {t : Table κ ν} {k : κ} {v : ν}

lemma nodup_erase (h : t.keys.Nodup) (k : κ) : (t.erase k).keys.Nodup :=
  h.sublist (List.filter_sublist.map _)

lemma nodup_insert (h : t.keys.Nodup) (k : κ) (v : ν) : (t.insert k v).keys.Nodup := by
  refine List.nodup_cons.2 ⟨fun hk => ?_, nodup_erase h k⟩
  obtain ⟨e, he, rfl⟩ := List.mem_map.1 hk
  simpa using (List.mem_filter.1 he).2

/-- Under distinct keys the entries of one key are what is found under it. -/
lemma filterMap_entries (h : t.keys.Nodup) (k : κ) :
    (t.entries.filterMap fun e => if e.1 = k then some e.2 else none) = (t.find? k).toList := by
  obtain ⟨es⟩ := t
  change (es.map (·.1)).Nodup at h
  rw [find?]
  induction es with
  | nil => rfl
  | cons e es ih =>
    obtain ⟨j, v⟩ := e
    obtain ⟨hj, hes⟩ := List.nodup_cons.1 h
    by_cases hk : j = k
    · subst hk
      have hnone : (es.filterMap fun e => if e.1 = j then some e.2 else none) = [] :=
        List.filterMap_eq_nil_iff.2 fun e he => if_neg fun hej =>
          hj (List.mem_map.2 ⟨e, he, hej⟩)
      simp [hnone]
    · have hne : (k == j) = false := by simpa using Ne.symm hk
      simp [List.lookup_cons, hk, hne, ih hes]

end Table

namespace Watch

variable {w : Watch} {es : List Event} {e : Event} {k : Ref}

/-- What is notified as deleted under an identity. -/
def deletions (k : Ref) (ns : List Notification) : List Resource :=
  ns.filterMap (Notification.deletion? k)

structure Distinct (w : Watch) : Prop where
  entries : w.store.entries.keys.Nodup
  buffer : w.store.buffer.keys.Nodup

lemma Distinct.apply (h : w.Distinct) (k : Ref) (e : Event) : (w.apply k e).2.Distinct := by
  have none_nodup : ({} : Table Ref Resource).keys.Nodup := List.nodup_nil
  cases e with
  | listBegins => exact ⟨h.entries, none_nodup⟩
  | listed r => exact ⟨h.entries, Table.nodup_insert h.buffer k r⟩
  | listEnds => exact ⟨h.buffer, none_nodup⟩
  | changed r => exact ⟨Table.nodup_insert h.entries k r, h.buffer⟩
  | removed r => exact ⟨Table.nodup_erase h.entries k, h.buffer⟩

lemma distinct_after (es : List Event) : (after es).Distinct := by
  induction es using List.reverseRecOn with
  | nil => exact ⟨List.nodup_nil, List.nodup_nil⟩
  | append_singleton es e ih =>
    rw [after_snoc]
    rcases deliver_after_cases es e with ⟨k, -, -, hd⟩ | ⟨-, hst, -⟩
    · rw [hd]
      exact ih.apply k e
    · exact ⟨hst ▸ ih.entries, hst ▸ ih.buffer⟩

/-! ### While a list is under way -/

/-- What the watch holds of a list: what was stored before it, and what it has said so far. -/
structure Lists (w : Watch) (es : List Event) : Prop where
  before : w.relist.before = w.store.entries
  seen : ∀ k, k ∈ w.relist.seen ↔ (latest? es k).isSome
  buffer : ∀ k, w.store.buffer.find? k = latest? es k

lemma lists_begins (w : Watch) (k : Ref) (es : List Event) :
    (w.apply k .listBegins).2.Lists (es ++ [.listBegins]) :=
  ⟨rfl, fun j => by simp [Watch.apply, Relist.step], fun j => by
    rw [latest?_listBegins]
    rfl⟩

lemma Lists.listed (h : w.Lists es) {r : Resource} (hk : Ref.of? r = some k) :
    (w.apply k (.listed r)).2.Lists (es ++ [.listed r]) := by
  refine ⟨h.before, fun j => ?_, fun j => ?_⟩
  · change j ∈ k :: w.relist.seen ↔ _
    rw [latest?_listed, hk, List.mem_cons, h.seen j]
    by_cases hj : k = j
    · simp [hj]
    · simp [hj, Ne.symm hj]
  · change (w.store.buffer.insert k r).find? j = _
    rw [latest?_listed, hk, Table.find?_insert, h.buffer j]
    by_cases hj : k = j
    · simp [hj]
    · simp [hj, Ne.symm hj]

/-- As long as the watch goes on, it holds what a list under way has said. -/
lemma lists_after (h : listing? es = some true) (hs : (after es).stopped = false) :
    (after es).Lists es := by
  induction es using List.reverseRecOn with
  | nil => cases h
  | append_singleton es e ih =>
    rw [listing?_snoc, Option.bind_eq_some_iff] at h
    obtain ⟨b, hb, he⟩ := h
    rw [after_snoc] at hs ⊢
    rcases deliver_after_cases es e with ⟨k, hk, hs', hd⟩ | ⟨-, -, hstop⟩
    swap
    · rw [hstop] at hs
      cases hs
    rw [hd]
    cases e with
    | listBegins => exact lists_begins _ k es
    | listed r =>
      cases b with
      | false => cases he
      | true => exact (ih hb hs').listed hk
    | listEnds => cases b <;> cases he
    | changed r => cases b <;> cases he
    | removed r => cases b <;> cases he

/-! ### What is notified -/

lemma deletions_applied (k : Ref) (old : Option Resource) (r : Resource) :
    deletions k [Relist.applied old r] = [] := by
  cases old <;> rfl

/-- Of what was stored, the end of a list notifies what the list did not have, each once. -/
lemma deletions_missing {t : Relist} (hf : t.before.Filed) (hn : t.before.keys.Nodup) (k : Ref) :
    deletions k (t.missing.map fun e => .deleted e.2) =
      if k ∈ t.seen then [] else (t.before.find? k).toList := by
  -- what is notified about `k`, in terms of the entries before they are sorted
  have perm : (deletions k (t.missing.map fun e => .deleted e.2)).Perm
      ((t.before.entries.filter fun e => !t.seen.contains e.1).filterMap
        fun e => if e.1 = k then some e.2 else none) := by
    have about : ∀ e ∈ t.missing,
        Notification.deletion? k (.deleted e.2) = if e.1 = k then some e.2 else none := by
      intro e he
      have hr := hf e (List.mem_filter.1 (List.mem_mergeSort.1 he)).1
      simp [Notification.deletion?, hr]
    rw [deletions, List.filterMap_map]
    exact (List.Perm.of_eq (List.filterMap_congr about)).trans
      ((List.mergeSort_perm _ _).filterMap _)
  have unsorted : (t.before.entries.filter fun e => !t.seen.contains e.1).filterMap
      (fun e => if e.1 = k then some e.2 else none) =
      if k ∈ t.seen then [] else (t.before.find? k).toList := by
    rw [List.filterMap_filter, ← Table.filterMap_entries hn k]
    split_ifs with hk
    · refine List.filterMap_eq_nil_iff.2 fun e _ => ?_
      by_cases he : e.1 = k <;> simp [he, hk]
    · refine List.filterMap_congr fun e _ => ?_
      by_cases he : e.1 = k <;> simp [he, hk]
  rw [unsorted] at perm
  split_ifs at perm ⊢ with hk
  · exact List.perm_nil.1 perm
  · cases hb : t.before.find? k with
    | none =>
      rw [hb] at perm
      exact List.perm_nil.1 perm
    | some r =>
      rw [hb] at perm
      exact List.perm_singleton.1 perm

/-- The end of a list, notified and stored. -/
lemma listEnds_exact (h : listing? es = some true) (hs : (after es).stopped = false) (k : Ref) :
    deletions k ((after es).deliver .listEnds).1 =
      (if (latest? es k).isSome then [] else ((after es).store.entries.find? k).toList) ∧
    ((after es).deliver .listEnds).2.store.entries.find? k = latest? es k := by
  have hl := lists_after h hs
  have hd : (after es).deliver .listEnds = (after es).apply ⟨none, ""⟩ .listEnds :=
    deliver_eq hs (receiving_after es) rfl
  rw [hd]
  refine ⟨?_, hl.buffer k⟩
  change deletions k ((after es).relist.missing.map fun e => .deleted e.2) = _
  have hn : (after es).relist.before.keys.Nodup := by
    rw [hl.before]
    exact (distinct_after es).entries
  rw [deletions_missing (sound_after es).before hn, hl.before]
  simp only [hl.seen]

/-- Who leaves the store in a step is notified in it, once, and nobody who stays is. -/
lemma step_exact {b : Bool} (h : listing? es = some b) (he : (Event.next? b e).isSome) (k : Ref) :
    (((after es).store.entries.find? k).isSome →
      ((after es).deliver e).2.store.entries.find? k = none →
        ∃ o, deletions k ((after es).deliver e).1 = [o]) ∧
    ((((after es).deliver e).2.store.entries.find? k).isSome →
      deletions k ((after es).deliver e).1 = []) := by
  -- a step that does not touch the entry of `k` has nobody leaving
  have stays {rs : List Resource} (h₁ : ((after es).store.entries.find? k).isSome)
      (h₂ : (after es).store.entries.find? k = none) : ∃ o, rs = [o] := by
    simp [h₂] at h₁
  obtain ⟨j, hj, hs, hd⟩ | ⟨hn, hst, -⟩ := deliver_after_cases es e
  · cases e with
    | listBegins =>
      rw [hd]
      exact ⟨stays, fun _ => rfl⟩
    | listed r =>
      rw [hd]
      exact ⟨stays, fun _ => deletions_applied k _ r⟩
    | listEnds =>
      cases b with
      | false => cases he
      | true =>
        obtain ⟨hdel, hst⟩ := listEnds_exact h hs k
        rw [hdel, hst]
        refine ⟨fun h₁ h₂ => ?_, fun h₁ => by rw [if_pos h₁]⟩
        obtain ⟨o, ho⟩ := Option.isSome_iff_exists.1 h₁
        exact ⟨o, by simp [h₂, ho]⟩
    | changed r =>
      rw [hd]
      refine ⟨fun h₁ h₂ => ?_, fun _ => deletions_applied k _ r⟩
      change ((after es).store.entries.insert j r).find? k = none at h₂
      rw [Table.find?_insert] at h₂
      split_ifs at h₂
      simp [h₂] at h₁
    | removed r =>
      have hr : Ref.of? r = some j := hj
      have hdel : deletions k [.deleted r] = if j = k then [r] else [] := by
        by_cases hjk : j = k <;> simp [deletions, Notification.deletion?, hr, hjk]
      have hst : ((after es).apply j (.removed r)).2.store.entries.find? k =
          if k == j then none else (after es).store.entries.find? k :=
        Table.find?_erase _ _ _
      rw [hd, hst]
      change (_ → _ → ∃ o, deletions k [.deleted r] = [o]) ∧ (_ → deletions k [.deleted r] = [])
      rw [hdel]
      by_cases hjk : j = k
      · subst hjk
        exact ⟨fun _ _ => ⟨r, by simp⟩, fun h₁ => by simp at h₁⟩
      · have hne : (k == j) = false := by simpa using Ne.symm hjk
        rw [hne, if_neg hjk]
        exact ⟨stays, fun _ => rfl⟩
  · rw [hn, hst]
    exact ⟨stays, fun _ => rfl⟩

/-- **Deletions are exact**: take any stream of a client, whatever lists were begun and given up in
it. At the end of a list exactly those are notified as deleted, each once and as they were stored,
that the list did not have, and then the store holds what the list said last about each identity;
what is only listed does not show in the store. And in every step, who leaves the store is notified
as deleted once, and nobody who is in it afterwards. -/
theorem deletions_exact {es : List Event} {b : Bool} (h : listing? es = some b) :
    (b = true → (after es).stopped = false →
      (∀ n ∈ ((after es).deliver .listEnds).1, ∃ o, n = .deleted o ∧ (Ref.of? o).isSome) ∧
      ∀ k,
        deletions k ((after es).deliver .listEnds).1 =
          (if (latest? es k).isSome then [] else ((after es).store.entries.find? k).toList) ∧
        ((after es).deliver .listEnds).2.store.entries.find? k = latest? es k) ∧
    ∀ e, (Event.next? b e).isSome →
      (e = .listBegins ∨ (∃ r, e = .listed r) →
        ((after es).deliver e).2.store.entries = (after es).store.entries) ∧
      ∀ k,
        (((after es).store.entries.find? k).isSome →
          ((after es).deliver e).2.store.entries.find? k = none →
            ∃ o, deletions k ((after es).deliver e).1 = [o]) ∧
        ((((after es).deliver e).2.store.entries.find? k).isSome →
          deletions k ((after es).deliver e).1 = []) := by
  refine ⟨fun hb hs => ⟨fun n hn => ?_, fun k => ?_⟩, fun e he => ⟨fun hl => ?_, fun k => ?_⟩⟩
  · obtain ⟨k, hk, -, -, hd⟩ := deliver_sent hn
    rw [hd] at hn
    obtain ⟨x, -, rfl⟩ := List.mem_map.1 hn
    exact ⟨x.2, rfl, ((sound_after es).apply_deleted hk hn).1⟩
  · subst hb
    exact listEnds_exact h hs k
  · obtain ⟨j, -, -, hd⟩ | ⟨-, hst, -⟩ := deliver_after_cases es e
    · rw [hd]
      obtain rfl | ⟨r, rfl⟩ := hl <;> rfl
    · rw [hst]
  · exact step_exact h he k

/-- A resource that was stored, and listed since only in a list that was given up. -/
theorem deletions_exact_orders :
    let es : List Event := [.listBegins, .listed World.orders, .listEnds, .listBegins,
      .listed World.orders, .listBegins]
    let r := (after es).deliver .listEnds
    listing? es = some true ∧ deletions ⟨some "shop", "orders"⟩ r.1 = [World.orders] ∧
      r.2.store.entries.find? ⟨some "shop", "orders"⟩ = none := by
  intro es r
  have hl : listing? es = some true := by decide
  obtain ⟨hd, hs⟩ := ((deletions_exact hl).1 rfl (by decide)).2 ⟨some "shop", "orders"⟩
  exact ⟨hl, hd.trans (by decide), hs.trans (by decide)⟩

end Watch

end Provisioner
