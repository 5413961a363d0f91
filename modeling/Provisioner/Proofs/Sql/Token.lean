import Mathlib.Tactic.Common
import Provisioner.Sql.Statement

/-!
The words and literals of a text, as the SQL server tells them apart.

A word goes on as long as it can. A literal stands between quotes, and a quote inside it is written
twice. Any other character that is not blank is a token of its own, so a text whose tokens are all
words and literals has no second statement, no comment and no quoted name in it.
-/

namespace Provisioner.Sql

inductive Token where
  | word (text : String)
  | literal (value : String)
  | mark (c : Char)
  deriving Repr, DecidableEq

def isBlank (c : Char) : Bool := [' ', '\t', '\n', '\r', '\x0b', '\x0c'].contains c

/-- Letters beyond ASCII count as letters. -/
def opensWord (c : Char) : Bool := isWordStart c || 128 ≤ c.toNat

def continuesWord (c : Char) : Bool := isWordChar c || c == '$' || 128 ≤ c.toNat

/-- Where in a text one is, with what has been read of the token. -/
inductive Place where
  | between
  | word (cs : List Char)
  | literal (cs : List Char)
  /-- Behind a quote in a literal: its end, or the first half of a quote inside it. -/
  | quote (cs : List Char)

namespace Place

/-- A character with which a token may begin. -/
def enter (c : Char) : List Token × Place :=
  if isBlank c then ([], .between)
  else if c = '\'' then ([], .literal [])
  else if opensWord c then ([], .word [c])
  else ([.mark c], .between)

/-- The tokens that a character brings to their end, and the place behind it. -/
def step : Place → Char → List Token × Place
  | .between, c => enter c
  | .word cs, c =>
    if continuesWord c then ([], .word (cs ++ [c]))
    else (.word (String.ofList cs) :: (enter c).1, (enter c).2)
  | .literal cs, c => ([], if c = '\'' then .quote cs else .literal (cs ++ [c]))
  | .quote cs, c =>
    if c = '\'' then ([], .literal (cs ++ [c]))
    else (.literal (String.ofList cs) :: (enter c).1, (enter c).2)

/-- The token that ends with the text; a literal must have been closed. -/
def finish? : Place → Option (List Token)
  | .between => some []
  | .word cs => some [.word (String.ofList cs)]
  | .literal _ => none
  | .quote cs => some [.literal (String.ofList cs)]

def scan (p : Place) : List Char → Option (List Token)
  | [] => p.finish?
  | c :: cs => ((p.step c).2.scan cs).map ((p.step c).1 ++ ·)

end Place

def tokens? (text : String) : Option (List Token) := Place.between.scan text.toList

/-! ### Words -/

lemma isWordStart_enter {c : Char} (h : isWordStart c = true) : Place.enter c = ([], .word [c]) := by
  have hb : isBlank c = false := by
    by_contra hb
    simp only [isBlank, List.contains_iff_mem, Bool.not_eq_false, List.mem_cons, List.not_mem_nil,
      or_false] at hb
    rcases hb with rfl | rfl | rfl | rfl | rfl | rfl <;> exact absurd h (by decide)
  have hq : c ≠ '\'' := by
    rintro rfl
    exact absurd h (by decide)
  simp [Place.enter, hb, hq, opensWord, h]

lemma scan_wordChars (w cs rest : List Char) (h : cs.all isWordChar = true) :
    (Place.word w).scan (cs ++ rest) = (Place.word (w ++ cs)).scan rest := by
  induction cs generalizing w with
  | nil => simp
  | cons c cs ih =>
    obtain ⟨hc, hcs⟩ : isWordChar c = true ∧ cs.all isWordChar = true := by simpa using h
    have hs : (Place.word w).step c = ([], .word (w ++ [c])) := by
      simp [Place.step, continuesWord, hc]
    rw [List.cons_append, Place.scan, hs]
    simp [ih _ hcs]

lemma scan_word {w : List Char} (h : isWord w = true) (rest : List Char) :
    Place.between.scan (w ++ rest) = (Place.word w).scan rest := by
  cases w with
  | nil => cases h
  | cons c cs =>
    obtain ⟨hc, hcs⟩ : isWordStart c = true ∧ cs.all isWordChar = true := by simpa [isWord] using h
    have hs : Place.between.step c = ([], .word [c]) := isWordStart_enter hc
    rw [List.cons_append, Place.scan, hs]
    simp [scan_wordChars _ _ _ hcs]

/-- Words with a blank behind each of them. -/
def spaced (ws : List String) : List Char := ws.flatMap fun w => w.toList ++ [' ']

lemma scan_spaced {ws : List String} (h : ∀ w ∈ ws, isWord w.toList = true) (rest : List Char) :
    Place.between.scan (spaced ws ++ rest) =
      (Place.between.scan rest).map (ws.map Token.word ++ ·) := by
  induction ws with
  | nil => simp [spaced]
  | cons w ws ih =>
    have hw : isWord w.toList = true := h w List.mem_cons_self
    have hs : (Place.word w.toList).step ' ' = ([.word w], .between) := by
      simp only [Place.step, String.ofList_toList]
      rfl
    calc Place.between.scan (spaced (w :: ws) ++ rest)
        = Place.between.scan (w.toList ++ (' ' :: (spaced ws ++ rest))) := by simp [spaced]
      _ = (Place.word w.toList).scan (' ' :: (spaced ws ++ rest)) := scan_word hw _
      _ = (Place.between.scan (spaced ws ++ rest)).map ([.word w] ++ ·) := by rw [Place.scan, hs]
      _ = (Place.between.scan rest).map ((w :: ws).map Token.word ++ ·) := by
        rw [ih fun v hv => h v (List.mem_cons_of_mem _ hv), Option.map_map]
        rfl

/-! ### Literals -/

/-- Reading undoes the doubling of quotes, wherever in the literal they stand. -/
lemma scan_escapeChars (l cs rest : List Char) :
    (Place.literal l).scan (escapeChars cs ++ rest) = (Place.literal (l ++ cs)).scan rest := by
  induction cs generalizing l with
  | nil => simp [escapeChars]
  | cons c cs ih =>
    have hs (d : Char) (hd : d ≠ '\'') : (Place.literal l).step d = ([], .literal (l ++ [d])) := by
      simp [Place.step, hd]
    by_cases hc : c = '\''
    · subst hc
      have hq : escapeChars ('\'' :: cs) ++ rest = '\'' :: '\'' :: (escapeChars cs ++ rest) := rfl
      rw [hq, Place.scan, Place.scan]
      simp [Place.step, ih]
    · have hq : escapeChars (c :: cs) ++ rest = c :: (escapeChars cs ++ rest) := by
        simp [escapeChars, hc]
      rw [hq, Place.scan, hs c hc]
      simp [ih]

/-- A text between quotes, its own quotes doubled, is one literal. -/
lemma scan_literal (cs : List Char) :
    Place.between.scan ('\'' :: (escapeChars cs ++ ['\''])) =
      some [.literal (String.ofList cs)] := by
  have hs : Place.between.step '\'' = ([], .literal []) := rfl
  rw [Place.scan, hs]
  simp only [scan_escapeChars]
  rfl

end Provisioner.Sql
