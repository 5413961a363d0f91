import Provisioner.Decimal.Numeral
import Provisioner.Text.Blank

/-!
Moments written as a date, a time of day and the distance from universal time.

The order of the parts and the marks between them are fixed, but blanks may stand before each part
and before most of the marks, and a part may have fewer digits than usual.
-/

namespace Provisioner

/-- A moment by the calendar and the clock of some place. -/
structure Moment where
  year : Int
  month : Nat
  day : Nat
  hour : Nat
  minute : Nat
  /-- The second with the number sixty is one put in. -/
  second : Nat
  /-- Minutes by which the clock is ahead of universal time. -/
  ahead : Int
  deriving Repr, DecidableEq

namespace Moment

inductive Fault where
  | invalid
  | tooShort
  | tooLong
  | outOfRange
  | impossible
  deriving Repr, DecidableEq

def Fault.message : Fault → String
  | .invalid => "input contains invalid characters"
  | .tooShort => "premature end of input"
  | .tooLong => "trailing input"
  | .outOfRange => "input is out of range"
  | .impossible => "no possible date and time matching input"

/-! ### The calendar -/

def isLeap (year : Int) : Bool := year % 4 == 0 && (year % 100 != 0 || year % 400 == 0)

def daysIn (year : Int) (month : Nat) : Nat :=
  match month with
  | 2 => if isLeap year then 29 else 28
  | 4 | 6 | 9 | 11 => 30
  | _ => 31

theorem daysIn_le (year : Int) (month : Nat) : daysIn year month ≤ 31 := by
  unfold daysIn
  split
  · split <;> decide
  all_goals decide

/-- The calendar covers these years and all between them. -/
def firstYear : Int := -262143

def lastYear : Int := 262142

def minutesPerDay : Nat := 24 * 60

/-- Seconds since midnight in universal time, which may fall on the day before or after. An extra
second counts as the one before it. -/
def universalSecond (m : Moment) : Int :=
  3600 * m.hour + 60 * m.minute + min m.second 59 - 60 * m.ahead

/-- The calendar covers the day in universal time. -/
def isCovered (m : Moment) : Bool :=
  let s := m.universalSecond
  !(s < 0 && m.year == firstYear && m.month == 1 && m.day == 1) &&
    !(60 * minutesPerDay ≤ s && m.year == lastYear && m.month == 12 && m.day == 31)

def check (m : Moment) : Except Fault Unit :=
  if m.year < firstYear ∨ lastYear < m.year ∨ daysIn m.year m.month < m.day ∨
      minutesPerDay ≤ m.ahead.natAbs then .error .outOfRange
  else if m.isCovered then .ok ()
  else .error .impossible

theorem day_le_of_check {m : Moment} (h : m.check = .ok ()) : m.day ≤ daysIn m.year m.month := by
  unfold check at h
  split at h
  · simp at h
  · omega

/-! ### Reading -/

abbrev Scan (α : Type) := StateT (List Char) (Except Fault) α

def blanks : Scan Unit := modify (List.dropWhile Text.isSpace)

def isDigit (c : Char) : Bool := (Decimal.digit? c).isSome

/-- At least one digit, and no more than the width if there is one. -/
def number (width? : Option Nat) : Scan Nat := do
  let cs ← get
  if cs.isEmpty then throw .tooShort
  let ds := cs.takeWhile isDigit
  let ds := (width?.map ds.take).getD ds
  if ds.isEmpty then throw .invalid
  set (cs.drop ds.length)
  return Decimal.valueOf ds

/-- A year without a sign has at most four digits. -/
def scanYear : Scan Int := do
  blanks
  let year : Int ← match ← get with
    | '-' :: cs => do
      set cs
      pure (-(← number none : Int))
    | '+' :: cs => do
      set cs
      number none
    | _ => number (some 4)
  if year < Int32.minValue.toInt ∨ Int32.maxValue.toInt < year then throw .outOfRange
  return year

/-- Another part of the date or of the time of day, between two bounds. -/
def scanPart (least greatest : Nat) : Scan Nat := do
  blanks
  let n ← number (some 2)
  if n < least ∨ greatest < n then throw .outOfRange
  return n

def mark (c : Char) : Scan Unit := do
  blanks
  match ← get with
  | [] => throw .tooShort
  | d :: cs => if d = c then set cs else throw .invalid

/-- Between the date and the time of day. -/
def divider : Scan Unit := do
  match ← get with
  | [] => throw .tooShort
  | c :: cs => if c = 'T' ∨ c = 't' ∨ c = ' ' then set cs else throw .invalid

/-- Digits after a point, which tell a part of the second. -/
def fraction : Scan Unit := do
  if let '.' :: cs ← get then
    set cs
    let _ ← number none

def twoDigits : Scan Nat := do
  match ← get with
  | [] => throw .tooShort
  | [c] => throw (if c.utf8Size = 1 then .tooShort else .invalid)
  | c :: d :: cs =>
    if isDigit c && isDigit d then
      set cs
      return Decimal.valueOf [c, d]
    else throw .invalid

/-- Hours and minutes, with any number of colons and blanks between them. -/
def hoursAndMinutes : Scan Nat := do
  let hours ← twoDigits
  modify (List.dropWhile fun c => c == ':' || Text.isSpace c)
  let minutes ← twoDigits
  if 60 ≤ minutes then throw .outOfRange
  return 60 * hours + minutes

/-- The minutes ahead of universal time, which has a letter and a word of its own. -/
def zone : Scan Int := do
  blanks
  let cs ← get
  if (cs.take 3).map Char.toLower = ['u', 't', 'c'] then
    set (cs.drop 3)
    return 0
  match cs with
  | [] => throw .tooShort
  | c :: cs =>
    set cs
    if c = 'Z' ∨ c = 'z' then return 0
    else if c = '+' then return (← hoursAndMinutes : Nat)
    else if c = '-' ∨ c = '−' then return -(← hoursAndMinutes : Int)
    else throw .invalid

def scan : Scan Moment := do
  let year ← scanYear
  mark '-'
  let month ← scanPart 1 12
  mark '-'
  let day ← scanPart 1 31
  divider
  let hour ← scanPart 0 23
  mark ':'
  let minute ← scanPart 0 59
  mark ':'
  let second ← scanPart 0 60
  fraction
  let ahead ← zone
  blanks
  if !(← get).isEmpty then throw .tooLong
  return { year, month, day, hour, minute, second, ahead }

def read (s : String) : Except Fault Moment := do
  let (m, _) ← scan.run s.toList
  m.check
  return m

end Moment

end Provisioner
