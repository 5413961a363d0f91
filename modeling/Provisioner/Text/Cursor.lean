/-!
A text that is being read, and the place that the reading has reached.

Lines are counted from one. The column is the number of bytes of the line that were read, so a place
may lie in the middle of a character.
-/

namespace Provisioner

structure Place where
  line : Nat := 1
  column : Nat := 0
  deriving Repr, DecidableEq

namespace Place

def nextLine (p : Place) : Place := ⟨p.line + 1, 0⟩

def right (p : Place) (bytes : Nat) : Place := { p with column := p.column + bytes }

/-- The place after a character. -/
def past (p : Place) (c : Char) : Place := if c = '\n' then p.nextLine else p.right c.utf8Size

/-- The place that many bytes further on. -/
def skip (p : Place) (bytes : Nat) : List Char → Place
  | [] => p
  | c :: cs =>
    if bytes = 0 then p
    else if c.utf8Size ≤ bytes then (p.past c).skip (bytes - c.utf8Size) cs
    else p.right bytes

def text (p : Place) : String := "line " ++ toString p.line ++ " column " ++ toString p.column

end Place

structure Cursor where
  rest : List Char
  place : Place := {}
  deriving Repr, DecidableEq

namespace Cursor

def ofString (s : String) : Cursor := { rest := s.toList }

/-- The place one byte further on, if there is one. -/
def ahead (c : Cursor) : Place := c.place.skip 1 c.rest

def advance (c : Cursor) : Cursor :=
  match c.rest with
  | [] => c
  | x :: rest => ⟨rest, c.place.past x⟩

/-- Past all characters at the front that are of a kind. -/
def dropWhile (p : Char → Bool) (c : Cursor) : Cursor :=
  ⟨c.rest.dropWhile p, (c.rest.takeWhile p).foldl Place.past c.place⟩

def toEnd (c : Cursor) : Cursor := ⟨[], c.rest.foldl Place.past c.place⟩

def bytesLeft (c : Cursor) : Nat := c.rest.foldl (fun n x => n + x.utf8Size) 0

end Cursor

end Provisioner
