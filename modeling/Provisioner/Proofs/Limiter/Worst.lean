import Mathlib.Data.Option.NAry
import Provisioner.Proofs.Limiter.Backoff

/-!
A combination of limiters beside its parts, each on its own.

As long as there is a delay whenever one is asked for, the parts of a combination are as if each of
them alone had been asked the same at the same readings of the clock. So the combination answers with
the longest of their delays and the largest of their counts. Parts that are combinations themselves
come apart in the same way, down to backoffs and buckets.
-/

namespace Provisioner

namespace Delay

lemma max_zero (d : Delay) : d.max zero = d := ext (by simp [zero])

lemma zero_max (d : Delay) : zero.max d = d := ext (by simp [zero])

lemma max_assoc (a b c : Delay) : (a.max b).max c = a.max (b.max c) := ext (by simp [Nat.max_assoc])

/-- The longest delay, if all of them are there; of none at all it is no time. -/
def longest? (ds : List (Option Delay)) : Option Delay :=
  ds.foldr (Option.map₂ max) (some zero)

lemma longest?_cons (d? : Option Delay) (ds : List (Option Delay)) :
    longest? (d? :: ds) = Option.map₂ max d? (longest? ds) := rfl

lemma longest?_singleton (d? : Option Delay) : longest? [d?] = d? := by
  cases d? with
  | none => rfl
  | some d => exact congrArg some d.max_zero

lemma longest?_append (ds es : List (Option Delay)) :
    longest? (ds ++ es) = Option.map₂ max (longest? ds) (longest? es) := by
  induction ds with
  | nil =>
    change longest? es = Option.map₂ max (some zero) (longest? es)
    cases longest? es with
    | none => rfl
    | some e => exact congrArg some e.zero_max.symm
  | cons d? ds ih =>
    rw [List.cons_append, longest?_cons, ih, longest?_cons, Option.map₂_assoc max_assoc]

lemma longest?_flatMap {β : Type} (xs : List β) (f : β → List (Option Delay)) :
    longest? (xs.flatMap f) = longest? (xs.map fun x => longest? (f x)) := by
  induction xs with
  | nil => rfl
  | cons x xs ih => rw [List.flatMap_cons, longest?_append, ih, List.map_cons, longest?_cons]

lemma isSome_longest? (ds : List (Option Delay)) :
    (longest? ds).isSome ↔ ∀ d? ∈ ds, d?.isSome := by
  induction ds with
  | nil => simp [longest?]
  | cons d? ds ih =>
    rw [longest?_cons, List.forall_mem_cons, ← ih]
    cases d? <;> cases longest? ds <;> simp

end Delay

namespace Limiter

/-! ### What can be asked -/

inductive Query (α : Type) where
  | call (c : Call α)
  | count (x : α)
  deriving DecidableEq

def Query.call? {α : Type} : Query α → Option (Call α)
  | .call c => some c
  | .count _ => none

section

variable {ρ α : Type} [Quantity ρ] [BEq α]

/-- Counts are only looked at. -/
def serve (l : Limiter ρ α) : Query α → Limiter ρ α
  | .call c => l.step c
  | .count _ => l

def after (l : Limiter ρ α) (qs : List (Query α)) : Limiter ρ α := qs.foldl serve l

/-- If a delay is asked for, there is one. -/
def answers (l : Limiter ρ α) : Query α → Bool
  | .call (.next x reading) => (l.next x reading).1.isSome
  | .call (.forget _) | .count _ => true

def answersAll (l : Limiter ρ α) : List (Query α) → Bool
  | [] => true
  | q :: qs => l.answers q && (l.serve q).answersAll qs

lemma after_eq_run (l : Limiter ρ α) (qs : List (Query α)) :
    l.after qs = l.run (qs.filterMap Query.call?) := by
  induction qs generalizing l with
  | nil => rfl
  | cons q qs ih => cases q <;> exact ih _

end

/-! ### Parts and leaves -/

section

variable {ρ α : Type}

/-- What holds for backoffs and buckets, and for a combination if it holds for its parts. -/
@[elab_as_elim]
lemma induct {P : Limiter ρ α → Prop} (backoff : ∀ b, P (.backoff b)) (bucket : ∀ b, P (.bucket b))
    (worst : ∀ parts, (∀ l ∈ parts, P l) → P (.worst parts)) (l : Limiter ρ α) : P l :=
  Limiter.rec backoff bucket worst (fun _ h => absurd h List.not_mem_nil)
    (fun _ _ hl hls => List.forall_mem_cons.2 ⟨hl, hls⟩) l

mutual

/-- The backoffs and buckets in a limiter, from the first to the last. -/
def leaves : Limiter ρ α → List (Limiter ρ α)
  | .backoff b => [.backoff b]
  | .bucket b => [.bucket b]
  | .worst parts => leavesAll parts

def leavesAll : List (Limiter ρ α) → List (Limiter ρ α)
  | [] => []
  | l :: ls => leaves l ++ leavesAll ls

end

lemma leaves_worst (parts : List (Limiter ρ α)) :
    (Limiter.worst parts).leaves = parts.flatMap leaves := by
  rw [leaves]
  induction parts with
  | nil => rfl
  | cons l ls ih => rw [leavesAll, ih, List.flatMap_cons]

end

variable {ρ α : Type} [Quantity ρ] [BEq α]

lemma nextAll_eq (ls : List (Limiter ρ α)) (x : α) (reading : Nat) (d : Delay) :
    (nextAll ls x reading d).1 =
      (Delay.longest? (ls.map fun l => (l.next x reading).1)).map d.max ∧
    ((∀ l ∈ ls, (l.next x reading).1.isSome) →
      (nextAll ls x reading d).2 = ls.map fun l => (l.next x reading).2) := by
  induction ls generalizing d with
  | nil => simp [nextAll, Delay.longest?, Delay.max_zero]
  | cons l ls ih =>
    rw [List.map_cons, List.map_cons, Delay.longest?_cons, nextAll]
    rcases hl : l.next x reading with ⟨_ | e, l'⟩
    · exact ⟨rfl, fun h => by simpa [hl] using h l List.mem_cons_self⟩
    · obtain ⟨hdelay, hrest⟩ := ih (d.max e)
      refine ⟨?_, fun h => ?_⟩
      · change (nextAll ls x reading (d.max e)).1 = _
        rw [hdelay]
        cases Delay.longest? (ls.map fun l => (l.next x reading).1) with
        | none => rfl
        | some e' => exact congrArg some (Delay.max_assoc d e e')
      · exact congrArg (l' :: ·) (hrest fun p hp => h p (List.mem_cons_of_mem l hp))

/-- The largest of the numbers; of none at all it is zero. -/
def largest (ns : List Nat) : Nat := ns.foldr max 0

lemma largest_flatMap {β : Type} (xs : List β) (f : β → List Nat) :
    largest (xs.flatMap f) = largest (xs.map fun x => largest (f x)) := by
  have happend (ms ns : List Nat) : largest (ms ++ ns) = max (largest ms) (largest ns) := by
    induction ms with
    | nil => exact (Nat.zero_max _).symm
    | cons m ms ih => exact (congrArg (max m) ih).trans (Nat.max_assoc m _ _).symm
  induction xs with
  | nil => rfl
  | cons x xs ih => exact (happend _ _).trans (congrArg (max _) ih)

/-! ### One call -/

/-- However a limiter is taken apart into others, it answers with the longest and the largest of what
they answer, and what is asked of it is asked of each of them. -/
structure Splits (R : Limiter ρ α → List (Limiter ρ α) → Prop) : Prop where
  delay : ∀ {l ls}, R l ls → ∀ x reading,
    (l.next x reading).1 = Delay.longest? (ls.map fun p => (p.next x reading).1)
  count : ∀ {l ls}, R l ls → ∀ x, l.count x = largest (ls.map (·.count x))
  serve : ∀ {l ls q}, R l ls → l.answers q → R (l.serve q) (ls.map (·.serve q))

lemma next_parts (parts : List (Limiter ρ α)) (x : α) (reading : Nat) :
    ((Limiter.worst parts).next x reading).1 =
      Delay.longest? (parts.map fun p => (p.next x reading).1) := by
  rw [next]
  change (nextAll parts x reading .zero).1 = _
  rw [(nextAll_eq parts x reading .zero).1]
  cases Delay.longest? (parts.map fun p => (p.next x reading).1) with
  | none => rfl
  | some d => exact congrArg some d.zero_max

omit [Quantity ρ] in
lemma count_parts (parts : List (Limiter ρ α)) (x : α) :
    (Limiter.worst parts).count x = largest (parts.map (·.count x)) := by
  rw [count]
  induction parts with
  | nil => rfl
  | cons l ls ih => exact congrArg (max (l.count x)) ih

lemma serve_parts {parts : List (Limiter ρ α)} {q : Query α}
    (h : (Limiter.worst parts).answers q) :
    (Limiter.worst parts).serve q = .worst (parts.map (·.serve q)) := by
  cases q with
  | count x => simp only [serve, List.map_id']
  | call c =>
    cases c with
    | next x reading =>
      have hparts : ∀ l ∈ parts, (l.next x reading).1.isSome := by
        simpa [answers, next_parts, Delay.isSome_longest?] using h
      simp only [serve, step]
      rw [next]
      exact congrArg Limiter.worst ((nextAll_eq parts x reading .zero).2 hparts)
    | forget x =>
      have hall (ls : List (Limiter ρ α)) : forgetAll ls x = ls.map (·.forget x) := by
        induction ls with
        | nil => rfl
        | cons l ls ih => exact congrArg (l.forget x :: ·) ih
      simp only [serve, step, forget, hall]

lemma splits_parts : Splits fun (l : Limiter ρ α) ls => l = .worst ls where
  delay := by
    rintro _ ls rfl
    exact next_parts ls
  count := by
    rintro _ ls rfl
    exact count_parts ls
  serve := by
    rintro _ ls q rfl h
    exact serve_parts h

variable {R : Limiter ρ α → List (Limiter ρ α) → Prop} {l : Limiter ρ α} {ls : List (Limiter ρ α)}

/-- There is a delay if every one of them has one. -/
lemma Splits.answers_iff (hR : Splits R) (h : R l ls) (q : Query α) :
    l.answers q ↔ ∀ p ∈ ls, p.answers q := by
  rcases q with ⟨⟨x, reading⟩ | _⟩ | _
  · simp [answers, hR.delay h, Delay.isSome_longest?]
  · simp [answers]
  · simp [answers]

lemma splits_leaves : Splits fun (l : Limiter ρ α) ls => ls = l.leaves where
  delay := by
    rintro l _ rfl x reading
    induction l using induct with
    | backoff b | bucket b => exact (Delay.longest?_singleton _).symm
    | worst parts ih =>
      rw [next_parts, leaves_worst, List.map_flatMap, Delay.longest?_flatMap]
      exact congrArg _ (List.map_congr_left ih)
  count := by
    rintro l _ rfl x
    induction l using induct with
    | backoff b | bucket b => exact (Nat.max_zero _).symm
    | worst parts ih =>
      rw [count_parts, leaves_worst, List.map_flatMap, largest_flatMap]
      exact congrArg _ (List.map_congr_left ih)
  serve := by
    rintro l _ q rfl h
    induction l using induct with
    | backoff b | bucket b => rcases q with ⟨_ | _⟩ | _ <;> rfl
    | worst parts ih =>
      have hparts := (splits_parts.answers_iff rfl q).1 h
      rw [serve_parts h, leaves_worst, leaves_worst, List.map_flatMap, List.flatMap_map]
      exact List.flatMap_congr fun p hp => ih p hp (hparts p hp)

/-! ### Calls in a row -/

/-- What is asked of a limiter in a row is asked of all the others in a row. -/
lemma Splits.after (hR : Splits R) (h : R l ls) (qs : List (Query α)) :
    (l.answersAll qs ↔ ∀ p ∈ ls, p.answersAll qs) ∧
      (l.answersAll qs → R (l.after qs) (ls.map (·.after qs))) := by
  induction qs generalizing l ls with
  | nil =>
    simp only [Limiter.after, List.foldl_nil, List.map_id']
    exact ⟨by simp [answersAll], fun _ => h⟩
  | cons q qs ih =>
    have hq := hR.answers_iff h q
    by_cases hfirst : l.answers q = true
    · obtain ⟨hrest, hafter⟩ := ih (hR.serve h hfirst)
      rw [List.forall_mem_map] at hrest
      rw [List.map_map] at hafter
      simp only [answersAll, Bool.and_eq_true, forall_and]
      exact ⟨and_congr hq hrest, fun hall => hafter hall.2⟩
    · have hwhole : ¬ l.answersAll (q :: qs) = true := by simp [answersAll, hfirst]
      have heach : ¬ ∀ p ∈ ls, p.answersAll (q :: qs) = true := fun hall =>
        hfirst (hq.2 fun p hp => (Bool.and_eq_true_iff.1 (hall p hp)).1)
      exact ⟨iff_of_false hwhole heach, fun hall => absurd hall hwhole⟩

section

variable {ρ α : Type} [Quantity ρ] [DecidableEq α]

/-- Every backoff counts all the tries of an item since it was forgotten, wherever it is. -/
lemma count_after_backoff (base cap : Delay) (qs : List (Query α)) :
    ∃ b : Backoff α, (Limiter.backoff { base, cap } : Limiter ρ α).after qs = .backoff b ∧
      ∀ x, b.count x = min (tries x (qs.filterMap Query.call?)) maxCount := by
  obtain ⟨b, hrun, -, -, hcount⟩ := run_backoff (ρ := ρ) base cap (qs.filterMap Query.call?)
  exact ⟨b, (after_eq_run _ qs).trans hrun, hcount⟩

/-- **Pointwise maximum**: whatever is asked of a combination in a row, there is a delay each time if
and only if each of its parts alone has one each time, and if so, the combination is made of its parts
as they are after being asked the same at the same readings, each alone. It answers with the longest of
their delays, with none if one of them has none, and with the largest of their counts. The same goes
for the backoffs and buckets that its parts are made of in turn; every one of these backoffs has
counted each time that an item was tried since it was last forgotten. -/
theorem worst_pointwise (parts : List (Limiter ρ α)) (qs : List (Query α)) :
    let whole : Limiter ρ α := .worst parts
    let alone := parts.map (·.after qs)
    let leaves := whole.leaves.map (·.after qs)
    (whole.answersAll qs ↔ ∀ l ∈ parts, l.answersAll qs) ∧
    (whole.answersAll qs ↔ ∀ l ∈ whole.leaves, l.answersAll qs) ∧
    (whole.answersAll qs →
      whole.after qs = .worst alone ∧ (whole.after qs).leaves = leaves ∧
      (∀ x reading, ((whole.after qs).next x reading).1 =
          Delay.longest? (alone.map fun l => (l.next x reading).1) ∧
        ((whole.after qs).next x reading).1 =
          Delay.longest? (leaves.map fun l => (l.next x reading).1)) ∧
      (∀ x, (whole.after qs).count x = largest (alone.map (·.count x)) ∧
        (whole.after qs).count x = largest (leaves.map (·.count x))) ∧
      ∀ base cap, .backoff { base, cap } ∈ whole.leaves → ∃ b, .backoff b ∈ leaves ∧
        ∀ x, b.count x = min (tries x (qs.filterMap Query.call?)) maxCount) := by
  intro whole alone leaves
  obtain ⟨hparts, hafter⟩ := splits_parts.after (l := whole) rfl qs
  obtain ⟨hleaves, hafter'⟩ := splits_leaves.after (l := whole) rfl qs
  refine ⟨hparts, hleaves, fun h => ⟨hafter h, (hafter' h).symm, fun x reading => ⟨?_, ?_⟩,
    fun x => ⟨?_, ?_⟩, fun base cap hfresh => ?_⟩⟩
  · exact splits_parts.delay (hafter h) x reading
  · exact splits_leaves.delay (hafter' h) x reading
  · exact splits_parts.count (hafter h) x
  · exact splits_leaves.count (hafter' h) x
  · obtain ⟨b, hb, hcount⟩ := count_after_backoff (ρ := ρ) base cap qs
    exact ⟨b, hb ▸ List.mem_map_of_mem hfresh, hcount⟩

end

/-- After the burst the bucket in the inner combination is the longest, and after an item was forgotten
the backoffs have counted it once. -/
theorem worst_pointwise_nested :
    let parts : List (Limiter Rat String) :=
      [.backoff { base := .ofMillis 5, cap := .ofSeconds 1 },
        .worst [.backoff { base := .ofMillis 50, cap := .ofSeconds 1 }, .bucket (Bucket.full 10 2 0)]]
    let qs : List (Query String) := [.call (.next "shop/orders" 0), .call (.next "shop/orders" 0),
      .count "shop/orders", .call (.forget "shop/orders"), .call (.next "shop/orders" 0)]
    (Limiter.worst parts).answersAll qs ∧
    (((Limiter.worst parts).after qs).next "shop/orders" 0).1 =
      Delay.longest? [some (.ofMillis 10), some (.ofMillis 100), some (.ofMillis 200)] ∧
    ((Limiter.worst parts).after qs).count "shop/orders" = largest [1, 1, 0] := by
  intro parts qs
  have hanswers : (Limiter.worst parts).answersAll qs := by decide +kernel
  obtain ⟨-, -, hdelay, hcount, -⟩ := (worst_pointwise parts qs).2.2 hanswers
  exact ⟨hanswers, (hdelay "shop/orders" 0).2.trans (by decide +kernel),
    (hcount "shop/orders").2.trans (by decide +kernel)⟩

end Limiter

end Provisioner
