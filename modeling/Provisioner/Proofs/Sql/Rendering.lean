import Provisioner.Proofs.Sql.Token

/-!
What the server reads in the text of a statement.

A statement has a text exactly if all names in it may stand without quotes, and the tokens of the
text are those of the statement: whatever the password is, it is one literal.
-/

namespace Provisioner.Sql

/-- A name that needs no quotes, and of which the server cuts off nothing. -/
def IsName (name : String) : Prop :=
  name.utf8ByteSize ≤ 63 ∧ ∃ c cs, name.toList = c :: cs ∧
    (c.isAlpha = true ∨ c = '_') ∧ ∀ d ∈ cs, d.isAlphanum = true ∨ d = '_'

lemma isLetter_eq (c : Char) : isLetter c = c.isAlpha := by
  have upper : (decide ('A' ≤ c) && decide (c ≤ 'Z')) = c.isUpper := by
    rw [← Bool.decide_and]
    exact decide_eq_decide.2 Iff.rfl
  have lower : (decide ('a' ≤ c) && decide (c ≤ 'z')) = c.isLower :=
    congrArg₂ _ (decide_eq_decide.2 Iff.rfl) (decide_eq_decide.2 Iff.rfl)
  exact congrArg₂ _ upper lower

lemma isDigit_eq (c : Char) : isDigit c = c.isDigit :=
  congrArg₂ _ (decide_eq_decide.2 Iff.rfl) (decide_eq_decide.2 Iff.rfl)

lemma isWordStart_iff {c : Char} : isWordStart c = true ↔ c.isAlpha = true ∨ c = '_' := by
  simp [isWordStart, isLetter_eq]

lemma isWordChar_iff {c : Char} : isWordChar c = true ↔ c.isAlphanum = true ∨ c = '_' := by
  rw [isWordChar, Bool.or_eq_true, isWordStart_iff, isDigit_eq, Char.isAlphanum, Bool.or_eq_true]
  tauto

lemma isIdentifier_iff {name : String} : isIdentifier name = true ↔ IsName name := by
  rw [isIdentifier, Bool.and_eq_true, decide_eq_true_eq]
  refine and_congr_right fun _ => ?_
  cases name.toList with
  | nil => simp [isWord]
  | cons c cs => simp [isWord, isWordStart_iff, isWordChar_iff]

lemma isWord_of_isName {name : String} (h : IsName name) : isWord name.toList = true :=
  (Bool.and_eq_true_iff.1 (isIdentifier_iff.2 h)).2

lemma identifier?_of_isName {name : String} (h : IsName name) : identifier? name = .ok name :=
  if_pos (isIdentifier_iff.2 h)

lemma identifier?_of_not_isName {name : String} (h : ¬ IsName name) :
    identifier? name = .error (.invalidIdentifier name) :=
  if_neg (mt isIdentifier_iff.1 h)

namespace Statement

/-- The names in a statement, in the order in which they stand in its text. -/
def names : Statement → List String
  | .createUser username _ => [username]
  | .createDatabase database owner => [database, owner]
  | .dropDatabase database => [database]
  | .dropRole username => [username]

/-- What the server is to read. -/
def tokens : Statement → List Token
  | .createUser username password =>
    [.word "CREATE", .word "USER", .word username, .word "WITH", .word "PASSWORD",
      .literal password]
  | .createDatabase database owner =>
    [.word "CREATE", .word "DATABASE", .word database, .word "OWNER", .word owner]
  | .dropDatabase database => [.word "DROP", .word "DATABASE", .word database]
  | .dropRole username => [.word "DROP", .word "ROLE", .word username]

variable {s : Statement}

/-- The first name that cannot stand is reported. -/
lemma render?_eq_error {before later : List String} {name : String}
    (hs : s.names = before ++ name :: later) (hb : ∀ n ∈ before, IsName n) (hn : ¬ IsName name) :
    s.render? = .error (.invalidIdentifier name) := by
  have single {n : String} {ns : List String} (h : [n] = ns ++ name :: later) : n = name := by
    cases ns with
    | nil => exact (List.cons.inj h).1
    | cons b ns => simp at h
  cases s with
  | createUser username password =>
    obtain rfl := single hs
    simp only [render?, identifier?_of_not_isName hn]
    rfl
  | createDatabase database owner =>
    cases before with
    | nil =>
      obtain rfl : database = name := (List.cons.inj hs).1
      simp only [render?, identifier?_of_not_isName hn]
      rfl
    | cons b before =>
      obtain ⟨rfl, ho⟩ := List.cons.inj hs
      obtain rfl := single ho
      simp only [render?, identifier?_of_isName (hb database List.mem_cons_self),
        identifier?_of_not_isName hn]
      rfl
  | dropDatabase database =>
    obtain rfl := single hs
    simp only [render?, identifier?_of_not_isName hn]
    rfl
  | dropRole username =>
    obtain rfl := single hs
    simp only [render?, identifier?_of_not_isName hn]
    rfl

/-- If some name cannot stand, there is a first one. -/
lemma exists_first (h : ¬ ∀ n ∈ s.names, IsName n) :
    ∃ before name later, s.names = before ++ name :: later ∧ (∀ n ∈ before, IsName n) ∧
      ¬ IsName name := by
  push Not at h
  obtain ⟨n, hm, hn⟩ := h
  have hf : (s.names.find? fun n => !isIdentifier n).isSome = true :=
    List.find?_isSome.2 ⟨n, hm, by simpa [← isIdentifier_iff] using hn⟩
  obtain ⟨name, hname⟩ := Option.isSome_iff_exists.1 hf
  obtain ⟨hfirst, before, later, hs, hb⟩ := List.find?_eq_some_iff_append.1 hname
  refine ⟨before, name, later, hs, fun n hn => ?_, by simpa [← isIdentifier_iff] using hfirst⟩
  simpa [isIdentifier_iff] using hb n hn

lemma isName_of_render? {text : String} (h : s.render? = .ok text) : ∀ n ∈ s.names, IsName n := by
  by_contra hn
  obtain ⟨before, name, later, hs, hb, hn⟩ := exists_first hn
  rw [render?_eq_error hs hb hn] at h
  cases h

/-! ### Reading the text -/

/-- The words before the last token, each with a blank behind it, and then the last token. -/
lemma tokens?_of_toList {text : String} (ws : List String) (last : List Char) {t : Token}
    (h : text.toList = spaced ws ++ last) (hws : ∀ w ∈ ws, isWord w.toList = true)
    (hlast : Place.between.scan last = some [t]) :
    tokens? text = some (ws.map Token.word ++ [t]) := by
  rw [tokens?, h, scan_spaced hws, hlast]
  rfl

lemma scan_lastWord {name : String} (h : IsName name) :
    Place.between.scan name.toList = some [.word name] := by
  have hs := scan_word (isWord_of_isName h) []
  rw [List.append_nil] at hs
  rw [hs, Place.scan, Place.finish?, String.ofList_toList]

/-- If all names can stand, there is a text, and the server reads the statement in it. -/
lemma exists_tokens (hs : ∀ n ∈ s.names, IsName n) :
    ∃ text, s.render? = .ok text ∧ tokens? text = some s.tokens := by
  cases s with
  | createUser username password =>
    have hu : IsName username := hs username (by simp [names])
    refine ⟨_, by simp only [render?, identifier?_of_isName hu]; rfl, ?_⟩
    refine tokens?_of_toList ["CREATE", "USER", username, "WITH", "PASSWORD"]
      ('\'' :: (escapeChars password.toList ++ ['\''])) ?_ ?_ ?_
    · simp [spaced, escapeLiteral]
    · have hk : ∀ w ∈ ["CREATE", "USER", "WITH", "PASSWORD"], isWord w.toList = true := by decide
      simpa [isWord_of_isName hu] using hk
    · rw [scan_literal, String.ofList_toList]
  | createDatabase database owner =>
    have hd : IsName database := hs database (by simp [names])
    have ho : IsName owner := hs owner (by simp [names])
    refine ⟨_, by simp only [render?, identifier?_of_isName hd, identifier?_of_isName ho]; rfl, ?_⟩
    refine tokens?_of_toList ["CREATE", "DATABASE", database, "OWNER"] owner.toList ?_ ?_
      (scan_lastWord ho)
    · simp [spaced]
    · have hk : ∀ w ∈ ["CREATE", "DATABASE", "OWNER"], isWord w.toList = true := by decide
      simpa [isWord_of_isName hd] using hk
  | dropDatabase database =>
    have hd : IsName database := hs database (by simp [names])
    refine ⟨_, by simp only [render?, identifier?_of_isName hd]; rfl, ?_⟩
    refine tokens?_of_toList ["DROP", "DATABASE"] database.toList ?_ ?_ (scan_lastWord hd)
    · simp [spaced]
    · decide
  | dropRole username =>
    have hu : IsName username := hs username (by simp [names])
    refine ⟨_, by simp only [render?, identifier?_of_isName hu]; rfl, ?_⟩
    refine tokens?_of_toList ["DROP", "ROLE"] username.toList ?_ ?_ (scan_lastWord hu)
    · simp [spaced]
    · decide

lemma tokens_inj {t : Statement} (h : s.tokens = t.tokens) : s = t := by
  cases s <;> cases t <;> simp_all [tokens]

/-- **Rendering is faithful**: a statement has a text exactly if every name in it can stand without
quotes, and otherwise the first one that cannot is reported. The server reads in the text the tokens
of the statement and nothing else, so no two statements have the same text. -/
theorem render_faithful (s : Statement) :
    ((∃ text, s.render? = .ok text) ↔ ∀ n ∈ s.names, IsName n) ∧
    (∀ before name later, s.names = before ++ name :: later → (∀ n ∈ before, IsName n) →
      ¬ IsName name → s.render? = .error (.invalidIdentifier name)) ∧
    (∀ text, s.render? = .ok text → tokens? text = some s.tokens) ∧
    ∀ t text, s.render? = .ok text → t.render? = .ok text → s = t := by
  have read {u : Statement} {text : String} (h : u.render? = .ok text) :
      tokens? text = some u.tokens := by
    obtain ⟨text', ht, hr⟩ := exists_tokens (isName_of_render? h)
    rwa [← Except.ok.inj (h.symm.trans ht)] at hr
  refine ⟨⟨fun ⟨_, h⟩ => isName_of_render? h, fun h => ?_⟩, fun before name later => render?_eq_error,
    fun text => read, fun t text hs ht => ?_⟩
  · obtain ⟨text, ht, -⟩ := exists_tokens h
    exact ⟨text, ht⟩
  · exact tokens_inj (Option.some.inj ((read hs).symm.trans (read ht)))

/-- A password that tries to be more than that. -/
example : tokens? "CREATE USER clerk WITH PASSWORD 'x''; DROP ROLE admin; --'" =
    some (createUser "clerk" "x'; DROP ROLE admin; --").tokens := by decide +kernel

end Statement

end Provisioner.Sql
