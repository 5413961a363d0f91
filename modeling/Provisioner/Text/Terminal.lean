/-!
Text with terminal controls, and what is left of it where there is no terminal.

An escape character begins a control sequence, and the `Mode` tells in which part of a sequence the
next character stands. A line end or a tab inside a sequence is shown all the same, and with it the
plain characters that follow; the sequence goes on behind them.
-/

namespace Provisioner.Terminal

inductive Mode where
  | ground
  | escape
  /-- After an escape and a character that announces another one. -/
  | announced
  /-- The parameters of a control function. -/
  | control
  /-- The head of a control string: its first character, its parameters, what comes after them. -/
  | head
  | parameters
  | tail
  /-- The body of a control string. -/
  | body
  /-- A command to the system, which a bell ends. -/
  | command
  deriving Repr, DecidableEq

def isBlank (c : Char) : Bool := c == '\t' || c == '\n' || c == '\x0c' || c == '\r'

/-- What a terminal shows: no control character, blanks apart. -/
def isPlain (c : Char) : Bool := isBlank c || (' ' ≤ c && c != '\x7f')

/-- Controls, and what is beyond the printable characters of ASCII. -/
def isForeign (c : Char) : Bool := c < ' ' || '~' < c

/-- The byte that ends a control string, wherever it stands in the code of a character. -/
def holdsTerminator (c : Char) : Bool := (String.utf8EncodeChar c).contains 0x9c

/-- What the character after an escape begins. -/
def Mode.ofInitial (c : Char) : Mode :=
  if c ≤ '/' then .announced
  else if c == '[' then .control
  else if c == ']' then .command
  else if c == 'P' then .head
  else if c == 'X' || c == '^' || c == '_' then .body
  else .ground

/-- Two control characters cancel a sequence, and an escape begins another one. -/
def Mode.next (m : Mode) (c : Char) : Mode :=
  if c == '\x1b' then .escape
  else if c == '\x18' || c == '\x1a' then .ground
  else match m with
    | .ground => .ground
    | .escape => if isForeign c then .escape else .ofInitial c
    | .announced => if isForeign c || c ≤ '/' then .announced else .ground
    | .control => if isForeign c || c ≤ '?' then .control else .ground
    | .head =>
      if isForeign c then .head
      else if c ≤ '/' then .tail
      else if c ≤ '?' then .parameters
      else .body
    | .parameters =>
      if isForeign c then .parameters
      else if c ≤ '/' then .tail
      else if c ≤ ';' then .parameters
      else .body
    | .tail => if isForeign c || c ≤ '/' then .tail else .body
    | .body => if holdsTerminator c then .ground else .body
    | .command => if c == '\x07' then .ground else .command

def Mode.shows (m : Mode) (c : Char) : Bool :=
  match m with
  | .ground => isPlain c
  | .escape | .announced | .control => isBlank c
  | .head | .parameters | .tail | .body | .command => false

structure Screen where
  mode : Mode := .ground
  /-- The last character was shown. -/
  showing : Bool := false

/-- After a character that was shown a plain one is shown in any mode. -/
def Screen.shows (s : Screen) (c : Char) : Bool := (s.showing && isPlain c) || s.mode.shows c

def Screen.next (s : Screen) (c : Char) : Screen :=
  if s.showing && isPlain c then
    { mode := if '~' < c then .ground else s.mode, showing := true }
  else { mode := s.mode.next c, showing := s.mode.shows c }

def visible (s : Screen) : List Char → List Char
  | [] => []
  | c :: cs => if s.shows c then c :: visible (s.next c) cs else visible (s.next c) cs

theorem visible_of_plain {s : Screen} (h : s.mode = .ground) {cs : List Char}
    (hcs : ∀ c ∈ cs, isPlain c) : visible s cs = cs := by
  induction cs generalizing s with
  | nil => rfl
  | cons c cs ih =>
    have hc : isPlain c := hcs c List.mem_cons_self
    have hesc : (c == '\x1b') = false := by
      cases he : c == '\x1b' with
      | false => rfl
      | true =>
        have he : c = '\x1b' := by simpa using he
        subst he
        exact absurd hc (by decide)
    have hnext : (s.next c).mode = .ground := by
      simp only [Screen.next, h, Mode.next, hesc]
      split
      · split <;> rfl
      · simp
    have hshows : s.shows c = true := by simp [Screen.shows, h, Mode.shows, hc]
    simp [visible, hshows, ih hnext fun d hd => hcs d (List.mem_cons_of_mem c hd)]

/-- The text without its controls. -/
def plain (s : String) : String := String.ofList (visible {} s.toList)

/-- How a text stands out. -/
inductive Style where
  | strong
  | heading
  | alarm
  | doubtful
  deriving Repr, DecidableEq

/-- The control sequences that switch a style on. -/
def Style.onset : Style → String
  | .strong => "\x1b[1m"
  | .heading => "\x1b[1m\x1b[4m"
  | .alarm => "\x1b[1m\x1b[31m"
  | .doubtful => "\x1b[33m"

def styled (st : Style) (s : String) : String := st.onset ++ s ++ "\x1b[0m"

example : plain (styled .heading "a\x1b]0;t") = "a" := by decide

end Provisioner.Terminal
