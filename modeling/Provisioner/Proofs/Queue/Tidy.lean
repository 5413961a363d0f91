import Mathlib.Data.List.Nodup
import Provisioner.Queue.Basic

/-!
The three collections of a queue against each other.

The items that wait are exactly the dirty ones that nobody has, each of them once. Every operation
keeps it that way, as long as only items in someone's hands are finished.
-/

namespace Provisioner.Queue

variable {α : Type} {q q' : Queue α} {x y : α}

structure Tidy (q : Queue α) : Prop where
  line_nodup : q.line.Nodup
  dirty_nodup : q.dirty.Nodup
  active_nodup : q.active.Nodup
  mem_line : ∀ x, x ∈ q.line ↔ x ∈ q.dirty ∧ x ∉ q.active

lemma tidy_empty : Tidy ({} : Queue α) := ⟨.nil, .nil, .nil, by simp⟩

lemma Tidy.disjoint (h : q.Tidy) : q.line.Disjoint q.active :=
  fun x hl ha => ((h.mem_line x).1 hl).2 ha

/-- What is marked is in the line or active. -/
lemma Tidy.dirty_eq_nil (h : q.Tidy) (hline : q.line = []) (hactive : q.active = []) :
    q.dirty = [] := by
  refine List.eq_nil_iff_forall_not_mem.2 fun x hx => ?_
  have hx' : x ∈ q.line := (h.mem_line x).2 ⟨hx, by simp [hactive]⟩
  rw [hline] at hx'
  cases hx'

lemma Tidy.close (h : q.Tidy) : q.close.Tidy := ⟨h.1, h.2, h.3, h.4⟩

variable [BEq α]

lemma take_eq_none (h : q.take = (none, q')) : q.line = [] ∧ q' = q := by
  unfold take at h
  split at h
  · rename_i hz
    simp only [Prod.mk.injEq, true_and] at h
    exact ⟨hz, h.symm⟩
  · simp at h

/-- Nothing is taken in any more. -/
lemma add_of_closed (h : q.closed = true) (x : α) : q.add x = q := by
  unfold add
  rw [if_pos (by simp [h])]

lemma adds_of_closed (h : q.closed = true) (xs : List α) : xs.foldl add q = q := by
  induction xs with
  | nil => rfl
  | cons x xs ih => rw [List.foldl_cons, add_of_closed h, ih]

variable [LawfulBEq α]

/-! ### What the operations do -/

/-- An addition is ignored, only marks the item, or also puts it into the line. -/
lemma add_cases (q : Queue α) (x : α) :
    ((q.closed = true ∨ x ∈ q.dirty) ∧ q.add x = q) ∨
    (q.closed = false ∧ x ∉ q.dirty ∧ x ∈ q.active ∧
      q.add x = { q with dirty := q.dirty ++ [x] }) ∨
    (q.closed = false ∧ x ∉ q.dirty ∧ x ∉ q.active ∧
      q.add x = { q with dirty := q.dirty ++ [x], line := q.line ++ [x] }) := by
  unfold add
  split_ifs with h1 h2
  · exact Or.inl ⟨by simpa using h1, rfl⟩
  · simp only [Bool.or_eq_true, List.contains_iff_mem, not_or, Bool.not_eq_true] at h1
    exact Or.inr (Or.inl ⟨h1.1, h1.2, by simpa using h2, rfl⟩)
  · simp only [Bool.or_eq_true, List.contains_iff_mem, not_or, Bool.not_eq_true] at h1
    exact Or.inr (Or.inr ⟨h1.1, h1.2, by simpa using h2, rfl⟩)

@[simp] lemma active_add (q : Queue α) (x : α) : (q.add x).active = q.active := by
  rcases add_cases q x with ⟨-, h⟩ | ⟨-, -, -, h⟩ | ⟨-, -, -, h⟩ <;> rw [h]

@[simp] lemma closed_add (q : Queue α) (x : α) : (q.add x).closed = q.closed := by
  rcases add_cases q x with ⟨-, h⟩ | ⟨-, -, -, h⟩ | ⟨-, -, -, h⟩ <;> rw [h]

lemma mem_dirty_add : y ∈ (q.add x).dirty ↔ y ∈ q.dirty ∨ q.closed = false ∧ y = x := by
  rcases add_cases q x with ⟨hc, h⟩ | ⟨hc, -, -, h⟩ | ⟨hc, -, -, h⟩
  · rw [h]
    refine ⟨.inl, fun hy => hy.elim id ?_⟩
    rintro ⟨ho, rfl⟩
    exact hc.resolve_left (by simp [ho])
  · simp [h, hc]
  · simp [h, hc]

lemma take_eq_some (h : q.take = (some x, q')) :
    ∃ xs, q.line = x :: xs ∧ q' = { q with
      line := xs
      dirty := q.dirty.filter (· != x)
      active := if x ∈ q.active then q.active else q.active ++ [x] } := by
  unfold take at h
  split at h
  · simp at h
  · rename_i z zs hz
    simp only [Prod.mk.injEq, Option.some.injEq, List.contains_iff_mem] at h
    obtain ⟨rfl, rfl⟩ := h
    exact ⟨zs, hz, rfl⟩

lemma mem_dirty_take (h : q.take = (some x, q')) : y ∈ q'.dirty ↔ y ∈ q.dirty ∧ y ≠ x := by
  obtain ⟨xs, -, rfl⟩ := take_eq_some h
  simp

lemma closed_take (h : q.take = (some x, q')) : q'.closed = q.closed := by
  obtain ⟨xs, -, rfl⟩ := take_eq_some h
  rfl

lemma mem_active_finish : y ∈ (q.finish x).active ↔ y ∈ q.active ∧ y ≠ x := by
  simp [finish]

/-! ### What the operations keep -/

lemma Tidy.add (h : q.Tidy) (x : α) : (q.add x).Tidy := by
  obtain ⟨hl, hd, ha, hm⟩ := h
  rcases add_cases q x with ⟨-, e⟩ | ⟨-, hx, hxa, e⟩ | ⟨-, hx, hxa, e⟩ <;> rw [e]
  · exact ⟨hl, hd, ha, hm⟩
  · refine ⟨hl, by simpa using hd.concat hx, ha, fun y => ?_⟩
    -- the marked item is active, so it is on neither side
    have hy := hm y
    simp only [List.mem_append, List.mem_singleton]
    grind
  · have hxl : x ∉ q.line := fun hxl => hx ((hm x).1 hxl).1
    refine ⟨by simpa using hl.concat hxl, by simpa using hd.concat hx, ha, fun y => ?_⟩
    have hy := hm y
    simp only [List.mem_append, List.mem_singleton]
    grind

lemma Tidy.take (h : q.Tidy) (ht : q.take = (some x, q')) : q'.Tidy := by
  obtain ⟨hl, hd, ha, hm⟩ := h
  obtain ⟨xs, hline, rfl⟩ := take_eq_some ht
  have hx : x ∉ q.active := ((hm x).1 (by simp [hline])).2
  rw [hline, List.nodup_cons] at hl
  rw [if_neg hx]
  refine ⟨hl.2, hd.filter _, by simpa using ha.concat hx, fun y => ?_⟩
  have hy := hm y
  rw [hline, List.mem_cons] at hy
  simp only [List.mem_filter, bne_iff_ne, List.mem_append, List.mem_singleton]
  grind

/-- If nobody had the item, it could come to stand in the line twice. -/
lemma Tidy.finish (h : q.Tidy) (hx : x ∈ q.active) : (q.finish x).Tidy := by
  obtain ⟨hl, hd, ha, hm⟩ := h
  have hxl : x ∉ q.line := fun hxl => ((hm x).1 hxl).2 hx
  by_cases hdx : x ∈ q.dirty
  · have e : (q.finish x).line = q.line ++ [x] := by simp [Queue.finish, hdx]
    refine ⟨by rw [e]; simpa using hl.concat hxl, hd, ha.filter _, fun y => ?_⟩
    have hy := hm y
    rw [e, mem_active_finish, List.mem_append, List.mem_singleton]
    change _ ↔ y ∈ q.dirty ∧ _
    grind
  · have e : (q.finish x).line = q.line := by simp [Queue.finish, hdx]
    refine ⟨by rwa [e], hd, ha.filter _, fun y => ?_⟩
    have hy := hm y
    rw [e, mem_active_finish]
    change _ ↔ y ∈ q.dirty ∧ _
    grind

/-! ### Additions in a row -/

@[simp] lemma active_adds (q : Queue α) (xs : List α) : (xs.foldl add q).active = q.active := by
  induction xs generalizing q with
  | nil => rfl
  | cons x xs ih => exact (ih (q.add x)).trans (q.active_add x)

@[simp] lemma closed_adds (q : Queue α) (xs : List α) : (xs.foldl add q).closed = q.closed := by
  induction xs generalizing q with
  | nil => rfl
  | cons x xs ih => exact (ih (q.add x)).trans (q.closed_add x)

lemma mem_dirty_adds {xs : List α} :
    y ∈ (xs.foldl add q).dirty ↔ y ∈ q.dirty ∨ q.closed = false ∧ y ∈ xs := by
  induction xs generalizing q with
  | nil => simp
  | cons x xs ih =>
    rw [List.foldl_cons, ih, mem_dirty_add, closed_add, List.mem_cons]
    tauto

lemma Tidy.adds (h : q.Tidy) (xs : List α) : (xs.foldl Queue.add q).Tidy := by
  induction xs generalizing q with
  | nil => exact h
  | cons x xs ih => exact ih (h.add x)

/-! ### How often an item is waited for -/

/-- The items that go back into the line when they are finished. -/
def deferred (q : Queue α) : List α := q.dirty.filter q.active.contains

/-- An item waits, or is put off until it is finished, and neither twice. -/
lemma Tidy.count_le (h : q.Tidy) (x : α) : q.line.count x + q.deferred.count x ≤ 1 := by
  have hl := List.nodup_iff_count_le_one.1 h.line_nodup x
  have hd := List.nodup_iff_count_le_one.1 (h.dirty_nodup.filter q.active.contains) x
  by_cases hx : x ∈ q.active
  · have hxl : x ∉ q.line := fun hxl => h.disjoint hxl hx
    rw [List.count_eq_zero_of_not_mem hxl]
    simpa [deferred] using hd
  · have hxd : x ∉ q.deferred := by simp [deferred, hx]
    rw [List.count_eq_zero_of_not_mem hxd]
    exact hl

end Provisioner.Queue
