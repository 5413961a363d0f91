/-!
Finite maps as lists of entries, at most one for each key.

A table is read through `find?`; the three equations for `insert` and `erase` say what is found after a
change.
-/

namespace Provisioner

structure Table (κ ν : Type) where
  entries : List (κ × ν) := []
  deriving Repr, DecidableEq

namespace Table

variable {κ ν : Type} [BEq κ]

def empty : Table κ ν := ⟨[]⟩

def find? (t : Table κ ν) (k : κ) : Option ν := t.entries.lookup k

def erase (t : Table κ ν) (k : κ) : Table κ ν := ⟨t.entries.filter fun e => !(k == e.1)⟩

def insert (t : Table κ ν) (k : κ) (v : ν) : Table κ ν := ⟨(k, v) :: (t.erase k).entries⟩

def contains (t : Table κ ν) (k : κ) : Bool := (t.find? k).isSome

def ofList (es : List (κ × ν)) : Table κ ν := es.foldl (fun t e => t.insert e.1 e.2) empty

def keys (t : Table κ ν) : List κ := t.entries.map (·.1)

def values (t : Table κ ν) : List ν := t.entries.map (·.2)

@[simp] theorem find?_empty (k : κ) : (empty : Table κ ν).find? k = none := rfl

variable [LawfulBEq κ]

theorem lookup_filter_ne (es : List (κ × ν)) (k j : κ) :
    (es.filter fun e => !(k == e.1)).lookup j = if j == k then none else es.lookup j := by
  induction es with
  | nil => simp
  | cons e es ih =>
    obtain ⟨a, b⟩ := e
    by_cases hk : k = a
    · subst hk
      simp only [List.filter_cons, beq_self_eq_true, Bool.not_true, Bool.false_eq_true, if_false,
        ih]
      by_cases hj : j = k
      · simp [hj]
      · have : (j == k) = false := by simpa using hj
        simp [List.lookup_cons, this]
    · have hka : (k == a) = false := by simpa using hk
      simp only [List.filter_cons, hka, Bool.not_false, if_true, List.lookup_cons]
      by_cases hj : j = a
      · subst hj
        have : (j == k) = false := by simpa using Ne.symm hk
        simp [this]
      · have : (j == a) = false := by simpa using hj
        simp [this, ih]

@[simp] theorem find?_erase (t : Table κ ν) (k j : κ) :
    (t.erase k).find? j = if j == k then none else t.find? j := by
  simp [find?, erase, lookup_filter_ne]

@[simp] theorem find?_insert (t : Table κ ν) (k j : κ) (v : ν) :
    (t.insert k v).find? j = if j == k then some v else t.find? j := by
  simp only [find?, insert, erase, List.lookup_cons, lookup_filter_ne]
  cases j == k <;> rfl

end Table

end Provisioner
