import Mathlib.Tactic.Common
import Provisioner.Resource.Key

/-!
Keys and their one-line form.

The slash is the only character that means anything in a text, so a key without slashes in its parts
is read back from its text. A text is read if it has at most one slash and a name behind it; that a name
without scope may have a slash in front is the only way in which two texts are read as one key.
-/

namespace Provisioner.Key

/-- A key that has a name, and no slash in either part. -/
structure Plain (k : Key) : Prop where
  named : k.name ≠ ""
  name : '/' ∉ k.name.toList
  scope : '/' ∉ k.scope.toList

lemma segments_ne_nil (cs : List Char) : segments cs ≠ [] := by
  cases cs with
  | nil => simp [segments]
  | cons c cs =>
    rw [segments, List.foldr_cons]
    split
    · simp
    · split_ifs <;> simp

lemma segments_slash (cs : List Char) : segments ('/' :: cs) = [] :: segments cs := by
  cases h : segments cs with
  | nil => exact absurd h (segments_ne_nil cs)
  | cons p ps =>
    unfold segments at h ⊢
    rw [List.foldr_cons, h]
    rfl

lemma segments_cons {c : Char} {cs p : List Char} {ps : List (List Char)} (hc : c ≠ '/')
    (h : segments cs = p :: ps) : segments (c :: cs) = (c :: p) :: ps := by
  unfold segments at h ⊢
  rw [List.foldr_cons, h]
  exact if_neg hc

/-- A part without a slash is one segment. -/
lemma segments_of_not_mem {cs : List Char} (h : '/' ∉ cs) : segments cs = [cs] := by
  induction cs with
  | nil => rfl
  | cons c cs ih =>
    simp only [List.mem_cons, not_or] at h
    exact segments_cons (Ne.symm h.1) (ih h.2)

lemma segments_append {cs : List Char} (h : '/' ∉ cs) (ds : List Char) :
    segments (cs ++ '/' :: ds) = cs :: segments ds := by
  induction cs with
  | nil => exact segments_slash ds
  | cons c cs ih =>
    simp only [List.mem_cons, not_or] at h
    exact segments_cons (Ne.symm h.1) (ih h.2)

/-- A plain key is read back from its text. -/
theorem parse_text {k : Key} (h : k.Plain) : parse k.text = .ok k := by
  have hname : k.name.toList ≠ [] := by simpa using h.named
  have hsegments : ofSegments? (segments k.text.toList) = some k := by
    unfold text
    split_ifs with hs
    · rw [segments_of_not_mem h.name, ofSegments?, if_neg hname, String.ofList_toList, ← hs]
    · have htext : (k.scope ++ "/" ++ k.name).toList = k.scope.toList ++ '/' :: k.name.toList := by
        simp
      rw [htext, segments_append h.scope, segments_of_not_mem h.name, ofSegments?, if_neg hname,
        String.ofList_toList, String.ofList_toList]
  rw [parse, hsegments]

variable {s : String} {k : Key}

/-! ### Which texts are read -/

/-- What is behind the last slash, or everything where there is none. -/
def lastPart (cs : List Char) : List Char := (cs.reverse.takeWhile (· != '/')).reverse

lemma takeWhile_reverse {cs : List Char} (h : '/' ∉ cs) (ds : List Char) :
    (cs.reverse ++ ds).takeWhile (· != '/') = cs.reverse ++ ds.takeWhile (· != '/') := by
  refine List.takeWhile_append_of_pos fun c hc => ?_
  simpa using fun e : c = '/' => h (e ▸ List.mem_reverse.1 hc)

lemma lastPart_of_not_mem {cs : List Char} (h : '/' ∉ cs) : lastPart cs = cs := by
  rw [lastPart, ← List.append_nil cs.reverse, takeWhile_reverse h]
  simp

lemma lastPart_append {ds : List Char} (h : '/' ∉ ds) (cs : List Char) :
    lastPart (cs ++ '/' :: ds) = ds := by
  simp [lastPart, takeWhile_reverse h]

/-- A text has no slash, or one, or more than that. -/
lemma slash_cases (cs : List Char) :
    '/' ∉ cs ∨ (∃ a b, '/' ∉ a ∧ '/' ∉ b ∧ cs = a ++ '/' :: b) ∨
      ∃ a b c, '/' ∉ a ∧ '/' ∉ b ∧ cs = a ++ '/' :: (b ++ '/' :: c) := by
  by_cases h : '/' ∈ cs
  · obtain ⟨a, b, rfl, ha⟩ := List.eq_append_cons_of_mem h
    by_cases hb : '/' ∈ b
    · obtain ⟨b, c, rfl, hb'⟩ := List.eq_append_cons_of_mem hb
      exact .inr (.inr ⟨a, b, c, ha, hb', rfl⟩)
    · exact .inr (.inl ⟨a, b, ha, hb, rfl⟩)
  · exact .inl h

lemma parse_bare (h : '/' ∉ s.toList) :
    parse s = if s = "" then .error (.invalidKey s) else .ok ⟨"", s⟩ := by
  rw [parse, segments_of_not_mem h, ofSegments?]
  by_cases hs : s = "" <;> simp [hs]

lemma parse_scoped {a b : List Char} (hs : s.toList = a ++ '/' :: b) (ha : '/' ∉ a)
    (hb : '/' ∉ b) :
    parse s = if b = [] then .error (.invalidKey s)
      else .ok ⟨String.ofList a, String.ofList b⟩ := by
  rw [parse, hs, segments_append ha, segments_of_not_mem hb, ofSegments?]
  by_cases hn : b = [] <;> simp [hn]

lemma parse_slashes {a b c : List Char} (hs : s.toList = a ++ '/' :: (b ++ '/' :: c))
    (ha : '/' ∉ a) (hb : '/' ∉ b) : parse s = .error (.invalidKey s) := by
  rw [parse, hs, segments_append ha, segments_append hb]
  cases hc : segments c with
  | nil => exact absurd hc (segments_ne_nil c)
  | cons p ps => rfl

/-- A text is read exactly if it has at most one slash and something behind it. -/
lemma exists_parse_iff :
    (∃ k, parse s = .ok k) ↔ s.toList.count '/' ≤ 1 ∧ lastPart s.toList ≠ [] := by
  rcases slash_cases s.toList with h | ⟨a, b, ha, hb, hs⟩ | ⟨a, b, c, ha, hb, hs⟩
  · rw [parse_bare h, lastPart_of_not_mem h, List.count_eq_zero.2 h]
    by_cases he : s = "" <;> simp [he]
  · rw [parse_scoped hs ha hb, hs, lastPart_append hb]
    by_cases he : b = [] <;> simp [he, List.count_eq_zero.2 ha, List.count_eq_zero.2 hb]
  · have hcount : 1 < s.toList.count '/' := by
      rw [hs]
      simp only [List.count_append, List.count_cons_self]
      omega
    rw [parse_slashes hs ha hb]
    simp [Nat.not_le.2 hcount]

/-- What is not read is reported as it stands. -/
lemma parse_eq_error (h : ¬ ∃ k, parse s = .ok k) : parse s = .error (.invalidKey s) := by
  unfold parse at h ⊢
  split
  · rename_i k hk
    exact absurd ⟨k, by rw [hk]⟩ h
  · rfl

/-- A text that is read is the text of its key, or that of a key without scope behind a slash. -/
lemma parse_eq_ok_iff :
    parse s = .ok k ↔ k.Plain ∧ (s = k.text ∨ k.scope = "" ∧ s = "/" ++ k.name) := by
  constructor
  · intro h
    rcases slash_cases s.toList with hs | ⟨a, b, ha, hb, hs⟩ | ⟨a, b, c, ha, hb, hs⟩
    · rw [parse_bare hs] at h
      split_ifs at h with he
      obtain rfl := Except.ok.inj h
      exact ⟨⟨he, hs, by simp⟩, .inl rfl⟩
    · rw [parse_scoped hs ha hb] at h
      split_ifs at h with he
      obtain rfl := Except.ok.inj h
      have hplain : Plain ⟨String.ofList a, String.ofList b⟩ := ⟨by simpa using he, by simpa, by simpa⟩
      refine ⟨hplain, ?_⟩
      by_cases hn : a = []
      · subst hn
        exact .inr ⟨rfl, String.toList_inj.1 (by simpa using hs)⟩
      · exact .inl (String.toList_inj.1 (by simp [text, hs, hn]))
    · rw [parse_slashes hs ha hb] at h
      cases h
  · rintro ⟨hk, rfl | ⟨hscope, rfl⟩⟩
    · exact parse_text hk
    · have hname : k.name.toList ≠ [] := by simpa using hk.named
      have hs : ("/" ++ k.name).toList = [] ++ '/' :: k.name.toList := by simp
      have hkey : (⟨String.ofList [], String.ofList k.name.toList⟩ : Key) = k := by
        rw [String.ofList_toList, String.ofList_nil, ← hscope]
      rw [parse_scoped hs List.not_mem_nil hk.name, if_neg hname, hkey]

/-- Behind a slash, a name alone is the same key. -/
lemma parse_slash (hs : '/' ∉ s.toList) (h : parse s = .ok k) : parse ("/" ++ s) = .ok k := by
  rw [parse_bare hs] at h
  split_ifs at h with he
  obtain rfl := Except.ok.inj h
  exact parse_eq_ok_iff.2 ⟨⟨he, hs, by simp⟩, .inr ⟨rfl, rfl⟩⟩

/-- **Keys and their texts**: a plain key is read back from its text, so no two plain keys have the
same one. A text is read exactly if it has at most one slash and something behind it, and is reported
as it stands otherwise. Two texts are read as one key only if they are a name without slashes, and
that name behind a slash. -/
theorem text_identifies :
    (∀ k : Key, k.Plain → parse k.text = .ok k) ∧
    (∀ k j : Key, k.Plain → j.Plain → k.text = j.text → k = j) ∧
    (∀ s, (∃ k, parse s = .ok k) ↔ s.toList.count '/' ≤ 1 ∧ lastPart s.toList ≠ []) ∧
    (∀ s, (¬ ∃ k, parse s = .ok k) → parse s = .error (.invalidKey s)) ∧
    ∀ s t k j, parse s = .ok k → parse t = .ok j → s ≠ t →
      (k = j ↔ '/' ∉ s.toList ∧ t = "/" ++ s ∨ '/' ∉ t.toList ∧ s = "/" ++ t) := by
  refine ⟨fun k => parse_text, fun k j hk hj he => ?_, fun s => exists_parse_iff,
    fun s => parse_eq_error, fun s t k j hs ht hne => ⟨?_, ?_⟩⟩
  · exact Except.ok.inj ((parse_text hk).symm.trans (he ▸ parse_text hj))
  · rintro rfl
    -- one of the two is the text of the key, and the other one has the slash in front
    obtain ⟨hk, rfl | ⟨hscope, rfl⟩⟩ := parse_eq_ok_iff.1 hs <;>
      obtain ⟨-, rfl | ⟨hscope', rfl⟩⟩ := parse_eq_ok_iff.1 ht
    · exact absurd rfl hne
    · rw [text, if_pos hscope']
      exact .inl ⟨hk.name, rfl⟩
    · rw [text, if_pos hscope]
      exact .inr ⟨hk.name, rfl⟩
    · exact absurd rfl hne
  · rintro (⟨hslash, rfl⟩ | ⟨hslash, rfl⟩)
    · exact Except.ok.inj ((parse_slash hslash hs).symm.trans ht)
    · exact Except.ok.inj (hs.symm.trans (parse_slash hslash ht))

end Provisioner.Key
