import Mathlib.Tactic.Common
import Provisioner.Proofs.Sql.Server
import Provisioner.World.Basic

/-!
The effects on a world, and what each of them leaves alone.

A statement succeeds or fails as the server says, unless it is made to fail, and changes only the
server and the journal.
-/

namespace Provisioner.World

variable {w : World}

/-- No statement is made to fail: what fails is refused by the server. -/
def Faultless (w : World) : Prop := ∀ action, w.faults.find? action = none

lemma Faultless.fault?_eq_none (h : w.Faultless) {t : Sql.Statement} {text : String}
    (ht : t.render? = .ok text) : w.fault? t = none := by
  unfold fault?
  rw [ht]
  exact h _

/-- A statement has its outcome and its effect from the server, unless it is made to fail. -/
lemma execute_eq (ht : w.tracking = true) (t : Sql.Statement) :
    w.execute t = ((w.server.attempt (w.fault? t) t).1, { w with
      server := (w.server.attempt (w.fault? t) t).2
      journal := { w.journal with statements := w.journal.statements ++ [t.render?] }
      maxInFlight := max w.maxInFlight (w.inFlight + 1) }) := by
  cases hf : w.fault? t <;> simp [execute, begin, complete, hf, ht, Sql.Server.attempt]

/-- A world that does not track leaves its server alone. -/
lemma execute_untracked (ht : w.tracking = false) (t : Sql.Statement) :
    w.execute t = ((w.fault? t).elim (.ok ()) .error, { w with
      journal := { w.journal with statements := w.journal.statements ++ [t.render?] }
      maxInFlight := max w.maxInFlight (w.inFlight + 1) }) := by
  cases hf : w.fault? t <;> simp [execute, begin, complete, hf, ht]

/-! ### What the effects leave alone -/

lemma frame_put (w : World) (r : Resource) :
    (w.put r).2.server = w.server ∧ (w.put r).2.tracking = w.tracking ∧
      (w.put r).2.faults = w.faults ∧ (w.put r).2.journal = w.journal := by
  unfold put
  split <;> exact ⟨rfl, rfl, rfl, rfl⟩

lemma frame_write (w : World) (r : Resource) :
    (w.write r).2.server = w.server ∧ (w.write r).2.tracking = w.tracking ∧
      (w.write r).2.faults = w.faults := by
  unfold write
  split
  · exact ⟨rfl, rfl, rfl⟩
  · simp only
    split_ifs
    · obtain ⟨h₁, h₂, h₃, -⟩ := frame_put
        { w with journal := { w.journal with updates := w.journal.updates ++ [r] } } r
      exact ⟨h₁, h₂, h₃⟩
    · exact ⟨rfl, rfl, rfl⟩

/-- A write is noted, unless it fails. -/
lemma journal_write (w : World) (r : Resource) :
    (w.write r).2.journal = w.journal ∨
      (w.write r).2.journal = { w.journal with updates := w.journal.updates ++ [r] } := by
  unfold write
  split
  · exact .inl rfl
  · simp only
    split_ifs
    · exact .inr (frame_put _ r).2.2.2
    · exact .inr rfl

lemma frame_complete (w : World) (l : Launch) :
    (w.complete l).2.tracking = w.tracking ∧ (w.complete l).2.faults = w.faults ∧
      (w.complete l).2.objects = w.objects ∧ (w.complete l).2.journal = w.journal := by
  unfold complete
  cases l.fault with
  | some f => exact ⟨rfl, rfl, rfl, rfl⟩
  | none =>
    simp only
    split_ifs <;> exact ⟨rfl, rfl, rfl, rfl⟩

lemma server_complete (w : World) (l : Launch) :
    (w.complete l).2.server = w.server ∨
      (w.complete l).2.server = (w.server.run l.statement).2 := by
  unfold complete
  cases l.fault with
  | some f => exact .inl rfl
  | none =>
    simp only
    split_ifs
    · exact .inr rfl
    · exact .inl rfl

lemma server_complete_tracking (ht : w.tracking = true) (l : Launch) :
    (w.complete l).2.server = if l.fault.isNone then (w.server.run l.statement).2 else w.server := by
  unfold complete
  cases l.fault with
  | some f => rfl
  | none =>
    simp only [ht]
    rfl

/-- A statement that succeeds on a server that tracks has had its effect. -/
lemma server_complete_ok (ht : w.tracking = true) {l : Launch} (h : (w.complete l).1 = .ok ()) :
    (w.server.run l.statement).1 = .ok () ∧
      (w.complete l).2.server = (w.server.run l.statement).2 := by
  unfold complete at h ⊢
  cases hf : l.fault with
  | some f => simp [hf] at h
  | none =>
    simp only [hf, ht, if_true] at h ⊢
    exact ⟨h, trivial⟩

/-! ### Whether writes fail -/

lemma writeFault_put (w : World) (r : Resource) : (w.put r).2.writeFault = w.writeFault := by
  unfold put
  split <;> rfl

lemma writeFault_write (w : World) (r : Resource) : (w.write r).2.writeFault = w.writeFault := by
  unfold write
  split
  · rfl
  · simp only
    split_ifs
    · exact writeFault_put _ r
    · rfl

/-- A write that is not made to fail is noted, and shows where writes do. -/
lemma write_eq (h : w.writeFault = none) (r : Resource) :
    let noted : World := { w with journal := { w.journal with updates := w.journal.updates ++ [r] } }
    w.write r = (.ok (), if w.storesWrites then (noted.put r).2 else noted) := by
  unfold write
  rw [h]

lemma write_eq_error {f : Failure} (h : w.writeFault = some f) (r : Resource) :
    w.write r = (.error f, w) := by
  unfold write
  rw [h]

/-- A write that is not made to fail succeeds. -/
lemma write_ok (h : w.writeFault = none) (r : Resource) : (w.write r).1 = .ok () := by
  rw [write_eq h]

/-- A write has the same outcome in two worlds, and leaves them as they are to each other, if notes and
stored resources do. -/
lemma write_related {R : World → World → Prop} {w' : World} {r r' : Resource} (h : R w w')
    (hfault : w.writeFault = w'.writeFault) (hstores : w.storesWrites = w'.storesWrites)
    (hnoted : ∀ j j', R { w with journal := j } { w' with journal := j' })
    (hput : ∀ j j', R (put r { w with journal := j }).2 (put r' { w' with journal := j' }).2) :
    (w.write r).1 = (w'.write r').1 ∧ R (w.write r).2 (w'.write r').2 := by
  cases hf : w'.writeFault with
  | some f =>
    rw [write_eq_error hf, write_eq_error (hfault.trans hf)]
    exact ⟨rfl, h⟩
  | none =>
    rw [write_eq hf, write_eq (hfault.trans hf)]
    refine ⟨rfl, ?_⟩
    by_cases hs : w'.storesWrites = true
    · simp only [if_pos hs, if_pos (hstores.trans hs)]
      exact hput _ _
    · have hs₀ : ¬ w.storesWrites = true := fun h' => hs (hstores.symm.trans h')
      simp only [if_neg hs, if_neg hs₀]
      exact hnoted _ _

/-! ### The cache -/

/-- To store a resource changes the cache and nothing else. -/
lemma put_eq (w : World) (r : Resource) :
    (w.put r).2 = { w with objects := (w.put r).2.objects } := by
  unfold put
  split <;> rfl

lemma lookup_put (w : World) (r : Resource) (k : Key) :
    (w.put r).2.lookup k = if Key.ofResource r = .ok k then some r else w.lookup k := by
  unfold put
  cases hr : Key.ofResource r with
  | error f => simp
  | ok j =>
    by_cases hk : k = j
    · simp [World.lookup, hk]
    · simp [World.lookup, hk, Ne.symm hk]

lemma lookup_remove (w : World) (j k : Key) :
    (w.remove j).2.lookup k = if k = j then none else w.lookup k := by
  by_cases hk : k = j
  · simp [World.lookup, remove, hk]
  · simp [World.lookup, remove, hk]

/-- The cache is as it was, and so is what a write would do to it. -/
structure SameCache (w w' : World) : Prop where
  objects : w'.objects = w.objects
  storesWrites : w'.storesWrites = w.storesWrites
  writeFault : w'.writeFault = w.writeFault

lemma SameCache.refl (w : World) : SameCache w w := ⟨rfl, rfl, rfl⟩

lemma SameCache.lookup {w' : World} (h : SameCache w w') (k : Key) : w'.lookup k = w.lookup k :=
  congrArg (·.find? k) h.objects

lemma sameCache_begin (w : World) (t : Sql.Statement) : SameCache w (w.begin t).2 := ⟨rfl, rfl, rfl⟩

lemma sameCache_complete (w : World) (l : Launch) : SameCache w (w.complete l).2 := by
  unfold complete
  cases l.fault with
  | some f => exact ⟨rfl, rfl, rfl⟩
  | none =>
    simp only
    split_ifs <;> exact ⟨rfl, rfl, rfl⟩

lemma sameCache_publish (w : World) (r : Resource) (n : Notice) : SameCache w (w.publish r n) :=
  ⟨rfl, rfl, rfl⟩

/-- A write shows in the cache at most under the key of what is written. -/
lemma lookup_write (w : World) (r : Resource) (k : Key) :
    (w.write r).2.lookup k = w.lookup k ∨
      Key.ofResource r = .ok k ∧ (w.write r).2.lookup k = some r := by
  unfold write
  split
  · exact .inl rfl
  · simp only
    split_ifs
    · rw [lookup_put]
      split_ifs with hk
      · exact .inr ⟨hk, rfl⟩
      · exact .inl rfl
    · exact .inl rfl

/-! ### Worlds that show what is written -/

/-- What is written shows in the cache, where everything is under its own key, and a write never
fails because the resource is not found. -/
structure Mirrors (w : World) : Prop where
  stores : w.storesWrites = true
  fault : ∀ f, w.writeFault = some f → f.isNotFound = false
  cached : ∀ j r, w.lookup j = some r → Key.ofResource r = .ok j

variable {w' : World}

lemma Mirrors.of_sameCache (h : w.Mirrors) (hs : w.SameCache w') : w'.Mirrors where
  stores := hs.storesWrites.trans h.stores
  fault f hf := h.fault f (hs.writeFault.symm.trans hf)
  cached j r hj := h.cached j r ((hs.lookup j).symm.trans hj)

lemma Mirrors.put (h : w.Mirrors) (r : Resource) : (w.put r).2.Mirrors where
  stores := by
    unfold World.put
    split <;> exact h.stores
  fault := by
    unfold World.put
    split <;> exact h.fault
  cached j r' hj := by
    rw [lookup_put] at hj
    split_ifs at hj with hk
    · obtain rfl := Option.some.inj hj
      exact hk
    · exact h.cached j r' hj

lemma Mirrors.remove (h : w.Mirrors) (j : Key) : (w.remove j).2.Mirrors where
  stores := h.stores
  fault := h.fault
  cached i r hi := by
    rw [lookup_remove] at hi
    split_ifs at hi
    exact h.cached i r hi

/-- A write fails for some other reason and changes nothing, or it shows. -/
lemma Mirrors.write_cases (h : w.Mirrors) (r : Resource) :
    (∃ f, f.isNotFound = false ∧ w.write r = (.error f, w)) ∨
    ((w.write r).1 = .ok () ∧ (w.write r).2.Mirrors ∧
      ∀ k, (w.write r).2.lookup k = if Key.ofResource r = .ok k then some r else w.lookup k) := by
  cases hf : w.writeFault with
  | some f => exact .inl ⟨f, h.fault f hf, write_eq_error hf r⟩
  | none =>
    let noted : World := { w with journal := { w.journal with updates := w.journal.updates ++ [r] } }
    have hnoted : noted.Mirrors := h.of_sameCache ⟨rfl, rfl, rfl⟩
    have hw : w.write r = (.ok (), (noted.put r).2) := by
      rw [write_eq hf, if_pos h.stores]
    rw [hw]
    exact .inr ⟨rfl, hnoted.put r, noted.lookup_put r⟩

/-! ### A small world -/

/-- One resource, and a server that has nothing yet. -/
def solo (k : Key) (r : Resource) : World where
  objects := ({} : Table Key Resource).insert k r
  tracking := true
  storesWrites := true

def orders : Resource where
  metadata := { name := some "orders", scope := some "shop" }
  spec := ⟨"clerk", "secret", "orders"⟩

lemma mirrors_solo {k : Key} {r : Resource} (h : Key.ofResource r = .ok k) : (solo k r).Mirrors := by
  refine ⟨rfl, nofun, fun j r' hj => ?_⟩
  simp only [lookup, solo, Table.find?_insert] at hj
  split_ifs at hj with hjk
  · obtain rfl := Option.some.inj hj
    rw [show j = k by simpa using hjk, h]
  · cases hj

end Provisioner.World
