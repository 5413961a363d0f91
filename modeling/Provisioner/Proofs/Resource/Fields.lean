import Mathlib.Tactic.Common
import Provisioner.Resource.Decode
import Provisioner.Resource.Encode

/-!
The fields of a record and the members of an object.

Fields are found by their names. So members of other names can be left out and the value of a member
can be trimmed before the record is read, an array of the fields in order is as good as the object, and
an object that was compacted still has each field where it is looked for.
-/

namespace Provisioner

/-! ### Members -/

namespace Json.Members

/-- The members of these names. -/
def only (names : List String) (ms : Members) : Members := ms.filter fun m => m.1 ∈ names

/-- Every value as the function for its name makes it. -/
def mapValues (f : String → Json → Json) (ms : Members) : Members :=
  ms.map fun m => (m.1, f m.1 m.2)

/-- The members of a compacted object. -/
def compacted (fields : List (String × Option Json)) : Members :=
  fields.filterMap fun m => m.2.map (m.1, ·)

variable {name : String}

lemma get?_only {names : List String} (h : name ∈ names) (ms : Members) :
    (only names ms).get? name = ms.get? name := by
  unfold only get?
  induction ms with
  | nil => rfl
  | cons m ms ih =>
    rw [List.filter_cons]
    split_ifs with hm
    · rw [List.lookup_cons, List.lookup_cons, ih]
    · have hne : (name == m.1) = false := beq_false_of_ne fun e => hm (by simpa [← e] using h)
      rw [List.lookup_cons, hne, ih]

lemma get?_mapValues (f : String → Json → Json) (ms : Members) :
    (mapValues f ms).get? name = (ms.get? name).map (f name) := by
  unfold mapValues get?
  induction ms with
  | nil => rfl
  | cons m ms ih =>
    rw [List.map_cons, List.lookup_cons, List.lookup_cons, ih]
    split
    · next h => rw [eq_of_beq h]; rfl
    · rfl

/-- In an object made of an array and the names of the fields, each field is found at its place. -/
lemma get?_zip {fields : List String} {i : Nat} (hn : fields.Nodup) (hi : fields[i]? = some name)
    (js : List Json) : get? (fields.zip js) name = js[i]? := by
  unfold get?
  induction fields generalizing i js with
  | nil => simp at hi
  | cons n fields ih =>
    obtain ⟨hnot, hn⟩ := List.nodup_cons.1 hn
    cases js with
    | nil => rfl
    | cons j js =>
      rw [List.zip_cons_cons, List.lookup_cons]
      cases i with
      | zero =>
        obtain rfl : n = name := by simpa using hi
        simp
      | succ i =>
        rw [List.getElem?_cons_succ] at hi ⊢
        have hne : (name == n) = false :=
          beq_false_of_ne fun e => hnot (e ▸ List.mem_of_getElem? hi)
        rw [hne, ih hn hi]

/-- With no name twice, an absent member hides nothing. -/
lemma get?_compacted {fields : List (String × Option Json)} (h : (fields.map Prod.fst).Nodup) :
    (compacted fields).get? name = (fields.lookup name).join := by
  unfold compacted get?
  induction fields with
  | nil => rfl
  | cons m fields ih =>
    obtain ⟨n, o⟩ := m
    simp only [List.map_cons, List.nodup_cons] at h
    by_cases hn : name = n
    · subst hn
      cases o with
      | none =>
        have hnone : fields.lookup name = none := by
          rw [List.lookup_eq_none_iff]
          intro p hp
          exact bne_iff_ne.2 fun e => h.1 (List.mem_map.2 ⟨p, hp, e.symm⟩)
        simp [ih h.2, hnone]
      | some j => simp
    · have hne : (name == n) = false := beq_false_of_ne hn
      cases o with
      | none => simp [List.lookup_cons, hne, ih h.2]
      | some j => simp [List.lookup_cons, hne, ih h.2]

end Json.Members

/-! ### Fields -/

namespace Decode

variable {α β : Type} {item : Json → Result α} {ms : Json.Members} {name : String} {a : α}

/-! #### A reader that looks at some members only -/

lemma member_only {names : List String} (h : name ∈ names) :
    member item (Json.Members.only names ms) name = member item ms name := by
  rw [member, member, Json.Members.get?_only h]

lemma nullable_only {names : List String} (h : name ∈ names) :
    nullable item (Json.Members.only names ms) name = nullable item ms name := by
  rw [nullable, nullable, member_only h]

/-- A field whose value was changed reads as before if its values do. -/
lemma member_mapValues {f : String → Json → Json} (h : ∀ j, item (f name j) = item j) :
    member item (Json.Members.mapValues f ms) name = member item ms name := by
  rw [member, member, Json.Members.get?_mapValues]
  cases ms.get? name with
  | none => rfl
  | some j => simp [h]

lemma member_of_none (h : ms.get? name = none) : member item ms name = .ok none := by
  rw [member, h]

lemma member_cons_self {j : Json} : member item ((name, j) :: ms) name = (item j).map some := by
  simp [member, Json.Members.get?]

lemma member_cons_of_ne {n : String} {j : Json} (h : name ≠ n) :
    member item ((n, j) :: ms) name = member item ms name := by
  simp [member, Json.Members.get?, List.lookup_cons, beq_false_of_ne h]

/-! #### Where a value comes from -/

lemma bind_eq_ok_iff {x : Result α} {g : α → Result β} {b : β} :
    x >>= g = .ok b ↔ ∃ a, x = .ok a ∧ g a = .ok b := by
  cases x with
  | error m => exact ⟨nofun, fun ⟨_, h, _⟩ => nomatch h⟩
  | ok a => exact ⟨fun h => ⟨a, rfl, h⟩, fun ⟨_, h, hg⟩ => by cases h; exact hg⟩

lemma pure_eq_ok_iff {b : α} : (pure a : Result α) = .ok b ↔ a = b := by
  simp [pure, Except.pure]

lemma present_eq_ok_iff {field : String} {o : Option α} :
    present field o = .ok a ↔ o = some a := by
  cases o with
  | none => exact ⟨nofun, nofun⟩
  | some b => simp [present]

lemma atMost_eq_ok_iff {n : Nat} {js : List Json} {u : Unit} :
    atMost n js = .ok u ↔ js.length ≤ n := by
  unfold atMost
  split_ifs with h <;> simp [h]

lemma element_eq_ok_iff {js : List Json} {i : Nat} {expected : String} :
    element item js i expected = .ok a ↔ ∃ j, js[i]? = some j ∧ item j = .ok a := by
  unfold element
  cases js[i]? <;> simp

lemma member_eq_ok_some_iff :
    member item ms name = .ok (some a) ↔ ∃ j, ms.get? name = some j ∧ item j = .ok a := by
  unfold member
  cases ms.get? name with
  | none => simp
  | some j => cases hj : item j <;> simp [hj, Except.map]

/-- An element that may be left out is like a member with a default. -/
lemma getD_eq_ok_iff {default : α} :
    ((ms.get? name).map item).getD (.ok default) = .ok a ↔
      ∃ o, member item ms name = .ok o ∧ o.getD default = a := by
  unfold member
  cases ms.get? name with
  | none => simp
  | some j => cases hj : item j <;> simp [hj, Except.map]

lemma nullable_eq_optional {j : Json} (h : ms.get? name = some j) :
    nullable item ms name = optional item j := by
  rw [nullable, member, h]
  cases hj : optional item j <;> simp [hj, Except.map]

lemma le_of_nullable_int64 {o : Option Int} (h : nullable int64 ms name = .ok o) :
    ∀ g ∈ o, g ≤ Decimal.maxInt64 := by
  intro g hg
  obtain rfl : o = some g := hg
  unfold nullable member at h
  cases hj : ms.get? name with
  | none => simp [hj, Except.map] at h
  | some j =>
    cases j with
    | integer n =>
      by_cases hn : n ≤ Decimal.maxInt64
      · obtain rfl : n = g := by simpa [hj, optional, int64, hn, Except.map] using h
        exact hn
      · simp [hj, optional, int64, hn, Except.map] at h
    | _ => simp [hj, optional, int64, Except.map] at h

/-! #### What was written -/

lemma optional_list (ss : List String) :
    optional (list string) (.array (ss.map .string)) = .ok (some ss) := by
  have h : string ∘ Json.string = fun s => pure (id s) := rfl
  rw [optional, list, List.mapM_map, h, List.mapM_pure, List.map_id]
  · rfl
  · exact Json.noConfusion

lemma optional_map (ms : List (String × String)) :
    optional (map string) (Encode.map ms) = .ok (some ms) := by
  have h : (fun m : String × Json => (string m.2).map (m.1, ·)) ∘
      (fun m : String × String => (m.1, Json.string m.2)) = fun m => pure (id m) := rfl
  rw [Encode.map, optional, map, List.mapM_map, h, List.mapM_pure, List.map_id]
  · rfl
  · exact Json.noConfusion

lemma optional_int64 {n : Int} (h : n ≤ Decimal.maxInt64) :
    optional int64 (.integer n) = .ok (some n) := by
  rw [optional, int64, if_pos h]
  · rfl
  · exact Json.noConfusion

variable {fields : List (String × Option Json)} (hn : (fields.map Prod.fst).Nodup)
include hn

lemma member_compacted (name : String) {j : Json} (ha : item j = .ok a)
    (h : fields.lookup name = some (some j)) :
    member item (Json.Members.compacted fields) name = .ok (some a) := by
  rw [member, Json.Members.get?_compacted hn, h]
  simp [ha, Except.map]

/-- A value is read back from what is written of it, and so is its absence. -/
lemma nullable_compacted (name : String) (write : α → Json) {o : Option α}
    (ho : ∀ a ∈ o, optional item (write a) = .ok (some a))
    (h : fields.lookup name = some (o.map write)) :
    nullable item (Json.Members.compacted fields) name = .ok o := by
  rw [nullable, member, Json.Members.get?_compacted hn, h]
  cases o with
  | none => rfl
  | some a => simp [ho a rfl, Except.map]

lemma nullable_text (name : String) (o : Option String)
    (h : fields.lookup name = some (o.map .string)) :
    nullable string (Json.Members.compacted fields) name = .ok o :=
  nullable_compacted hn name .string (fun _ _ => rfl) h

lemma nullable_map (name : String) (o : Option (List (String × String)))
    (h : fields.lookup name = some (o.map Encode.map)) :
    nullable (map string) (Json.Members.compacted fields) name = .ok o :=
  nullable_compacted hn name Encode.map (fun ms _ => optional_map ms) h

lemma nullable_list (name : String) (o : Option (List String))
    (h : fields.lookup name = some (o.map fun ss => .array (ss.map .string))) :
    nullable (list string) (Json.Members.compacted fields) name = .ok o :=
  nullable_compacted hn name (fun ss => .array (ss.map .string)) (fun ss _ => optional_list ss) h

lemma nullable_int64 (name : String) (o : Option Int) (ho : ∀ g ∈ o, g ≤ Decimal.maxInt64)
    (h : fields.lookup name = some (o.map .integer)) :
    nullable int64 (Json.Members.compacted fields) name = .ok o :=
  nullable_compacted hn name .integer (fun g hg => optional_int64 (ho g hg)) h

end Decode

end Provisioner
