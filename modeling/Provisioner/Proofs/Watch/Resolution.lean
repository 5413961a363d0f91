import Provisioner.Controller.Step
import Provisioner.Proofs.Resource.Key
import Provisioner.Proofs.Watch.Stream

/-!
Where the text of a queued resource leads.

A resource has one identity in its metadata, in its key, in the text of the key, and in the store. All
of them agree as long as names and scopes have no slashes and no scope is empty: the text leads back to
what is stored. An identity of which nothing is stored leads to a resource of that name without scope,
if there is one.
-/

namespace Provisioner

namespace Ref

/-- The key of a resource with that identity. -/
def key (k : Ref) : Key := ⟨k.scope.getD "", k.name⟩

/-- The name and the scope, if there is one, are not empty and have no slashes. -/
structure Plain (k : Ref) : Prop where
  key : k.key.Plain
  scope : k.scope ≠ some ""

variable {k j : Ref}

/-- No scope and an empty scope are the same in a key. -/
lemma ofKey_key (h : k.scope ≠ some "") :
    (⟨if k.key.scope = "" then none else some k.key.scope, k.key.name⟩ : Ref) = k := by
  obtain ⟨_ | s, name⟩ := k
  · rfl
  · have hs : s ≠ "" := by simpa using h
    simp [key, hs]

lemma key_inj (hk : k.scope ≠ some "") (hj : j.scope ≠ some "") (h : k.key = j.key) : k = j := by
  rw [← ofKey_key hk, h, ofKey_key hj]

lemma Plain.ofResource_eq (h : k.Plain) {r : Resource} (hr : Ref.of? r = some k) :
    Key.ofResource r = .ok k.key := by
  obtain ⟨name, hn, rfl⟩ := Option.map_eq_some_iff.1 hr
  have hname : name ≠ "" := h.key.named
  simp only [Key.ofResource, hn, if_neg hname]
  rfl

end Ref

namespace Watch

variable {w : Watch} {es : List Event} {e : Event} {k : Ref} {P : Ref → Resource → Prop}

/-- What is stored, or waits for a list to end, has the property. -/
structure Within (P : Ref → Resource → Prop) (w : Watch) : Prop where
  entries : ∀ k r, w.store.entries.find? k = some r → P k r
  buffer : ∀ k r, w.store.buffer.find? k = some r → P k r

/-- Nothing is stored yet. -/
lemma find?_new {r : Resource} (h : ({} : Table Ref Resource).find? k = some r) : P k r := by cases h

lemma Within.apply (h : w.Within P) (hk : ∀ r, e.subject? = some r → P k r) :
    (w.apply k e).2.Within P := by
  have insert {t : Table Ref Resource} (ht : ∀ j r, t.find? j = some r → P j r) {r : Resource}
      (hr : P k r) (j : Ref) (s : Resource) (hj : (t.insert k r).find? j = some s) : P j s := by
    rw [Table.find?_insert] at hj
    split_ifs at hj with hjk
    · obtain rfl : j = k := by simpa using hjk
      obtain rfl := Option.some.inj hj
      exact hr
    · exact ht j s hj
  cases e with
  | listBegins => exact ⟨h.entries, fun _ _ => find?_new⟩
  | listed r => exact ⟨h.entries, insert h.buffer (hk r rfl)⟩
  | listEnds => exact ⟨h.buffer, fun _ _ => find?_new⟩
  | changed r => exact ⟨insert h.entries (hk r rfl), h.buffer⟩
  | removed r =>
    refine ⟨fun j s hj => ?_, h.buffer⟩
    change (w.store.entries.erase k).find? j = some s at hj
    rw [Table.find?_erase] at hj
    split_ifs at hj
    exact h.entries j s hj

/-- Everything in the store came with one of the events. -/
lemma within_after (h : ∀ e ∈ es, ∀ r k, e.subject? = some r → Ref.of? r = some k → P k r) :
    (after es).Within P := by
  induction es using List.reverseRecOn with
  | nil => exact ⟨fun _ _ => find?_new, fun _ _ => find?_new⟩
  | append_singleton es e ih =>
    have hes := ih fun e he => h e (by simp [he])
    rw [after_snoc]
    rcases deliver_after_cases es e with ⟨k, hk, -, hd⟩ | ⟨-, hst, -⟩
    · rw [hd]
      refine hes.apply fun r hr => h e (by simp) r k hr ?_
      simpa [refOf?, hr] using hk
    · exact ⟨hst ▸ hes.entries, hst ▸ hes.buffer⟩

lemma lookup_key (h : k.scope ≠ some "") : w.lookup k.key = w.store.get? k := by
  rw [lookup, Ref.ofKey_key h]

/-- **Texts lead back**: after any events about resources with plain names and scopes, the text under
which a stored resource is queued is read as a key under which just this resource is found, and no
other stored resource has that text. Where nothing is stored under an identity, a resource of that name
without scope is found, or nothing. -/
theorem queued_resolves
    (h : ∀ e ∈ es, ∀ r, e.subject? = some r → ∃ k, Ref.of? r = some k ∧ k.Plain) :
    let w := after es
    (∀ k o, w.store.entries.find? k = some o →
      (∀ {ρ : Type} (c : Controller ρ), c.enqueue o = c.addKey k.key.text) ∧
      (∃ key, Key.parse k.key.text = .ok key ∧ w.lookup key = some o) ∧
      ∀ j p, w.store.entries.find? j = some p → j.key.text = k.key.text → j = k) ∧
    ∀ k : Ref, k.scope ≠ some "" → w.store.entries.find? k = none →
      w.lookup k.key = w.store.entries.find? { k with scope := none } := by
  intro w
  have hw : w.Within fun k r => Ref.of? r = some k ∧ k.Plain := by
    refine within_after fun e he r k hr hk => ?_
    obtain ⟨j, hj, hplain⟩ := h e he r hr
    obtain rfl := Option.some.inj (hk.symm.trans hj)
    exact ⟨hk, hplain⟩
  refine ⟨fun k o ho => ⟨fun c => ?_, ⟨k.key, ?_, ?_⟩, fun j p hp htext => ?_⟩, fun k hk hnone => ?_⟩
  · obtain ⟨hr, hplain⟩ := hw.entries k o ho
    rw [Controller.enqueue, hplain.ofResource_eq hr]
  · exact Key.parse_text (hw.entries k o ho).2.key
  · rw [lookup_key (hw.entries k o ho).2.scope, Store.get?, ho]
    rfl
  · obtain ⟨-, hk⟩ := hw.entries k o ho
    obtain ⟨-, hj⟩ := hw.entries j p hp
    refine Ref.key_inj hj.scope hk.scope (Except.ok.inj ((Key.parse_text hj.key).symm.trans ?_))
    rw [htext]
    exact Key.parse_text hk.key
  · rw [lookup_key hk, Store.get?, hnone]
    rfl

/-- The same resource without a scope. -/
def ordersAtLarge : Resource := { World.orders with metadata := { name := some "orders" } }

lemma plain_shop : (⟨some "shop", "orders"⟩ : Ref).Plain :=
  ⟨⟨by decide, by decide, by decide⟩, by decide⟩

lemma plain_atLarge : (⟨none, "orders"⟩ : Ref).Plain := ⟨⟨by decide, by decide, by decide⟩, by decide⟩

theorem queued_resolves_orders :
    let w := after [.listBegins, .listed World.orders, .listed ordersAtLarge, .listEnds]
    (∃ key, Key.parse "shop/orders" = .ok key ∧ w.lookup key = some World.orders) ∧
      ∃ key, Key.parse "orders" = .ok key ∧ w.lookup key = some ordersAtLarge := by
  intro w
  have hplain : ∀ e ∈ [Event.listBegins, .listed World.orders, .listed ordersAtLarge, .listEnds],
      ∀ r, e.subject? = some r → ∃ k, Ref.of? r = some k ∧ k.Plain := by
    intro e he r hr
    simp only [List.mem_cons, List.not_mem_nil, or_false] at he
    rcases he with rfl | rfl | rfl | rfl <;> cases hr
    · exact ⟨_, rfl, plain_shop⟩
    · exact ⟨_, rfl, plain_atLarge⟩
  obtain ⟨hstored, -⟩ := queued_resolves hplain
  exact ⟨(hstored ⟨some "shop", "orders"⟩ World.orders (by decide)).2.1,
    (hstored ⟨none, "orders"⟩ ordersAtLarge (by decide)).2.1⟩

/-- A resource without scope is found under a scope in which there is nothing of its name. -/
theorem orders_found_at_large :
    let es : List Event := [.listBegins, .listed ordersAtLarge, .listEnds]
    let w := after es
    (∀ e ∈ es, ∀ r, e.subject? = some r → ∃ k, Ref.of? r = some k ∧ k.Plain) ∧
      w.store.entries.find? ⟨some "shop", "orders"⟩ = none ∧
      w.lookup ⟨"shop", "orders"⟩ = some ordersAtLarge := by
  intro es w
  refine ⟨fun e he r hr => ?_, by decide, by decide⟩
  simp only [es, List.mem_cons, List.not_mem_nil, or_false] at he
  rcases he with rfl | rfl | rfl <;> cases hr
  exact ⟨_, rfl, plain_atLarge⟩

end Watch

end Provisioner
