import QueryGate.Power
import QueryGate.Text.Blank
import QueryGate.Text.Integer

/-!
# Dates and times

Dates and times as a server writes them, and as they are shown. What is read is checked against the
calendar; what is shown has all its leading zeros, a `T` between date and time, and a fraction of
three, six or nine digits unless it is zero.
-/

namespace QueryGate.Server

open Text

/-- A day of the calendar that is carried back before its introduction. -/
structure Day where
  year : Int
  month : Nat
  day : Nat
  deriving DecidableEq, Repr

/-- A time of day. Second 60 is a leap second. -/
structure DayTime where
  hour : Nat
  minute : Nat
  second : Nat
  nanos : Nat
  deriving DecidableEq, Repr

/-- The year has a leap day. -/
def isLeapYear (year : Int) : Bool :=
  year % 4 == 0 && (year % 100 != 0 || year % 400 == 0)

/-- The number of days of a month. -/
def daysIn (year : Int) (month : Nat) : Nat :=
  if month = 2 then (if isLeapYear year then 29 else 28)
  else if month = 4 ∨ month = 6 ∨ month = 9 ∨ month = 11 then 30
  else 31

/-- The day stands in the calendar. -/
def Day.isValid (d : Day) : Bool :=
  -262143 ≤ d.year && d.year ≤ 262142 && 1 ≤ d.month && d.month ≤ 12 && 1 ≤ d.day &&
    d.day ≤ daysIn d.year d.month

/-- The time stands on a clock. -/
def DayTime.isValid (t : DayTime) : Bool := t.hour < 24 && t.minute < 60 && t.second ≤ 60

/-! ### Reading -/

/-- Reads a number of at most `width` digits, with blanks before it. -/
def readField? (width : Nat) (cs : List Char) : Option (Nat × List Char) :=
  let cs := trimStart cs
  let digits := (cs.takeWhile isAsciiDigit).take width
  if digits.isEmpty then none else some (digitsValue digits, cs.drop digits.length)

/-- Reads a year: four digits at most, or any number of them behind a sign. -/
def readYear? (cs : List Char) : Option (Int × List Char) :=
  match trimStart cs with
  | '-' :: rest =>
    let digits := rest.takeWhile isAsciiDigit
    if digits.isEmpty then none
    else some (-(digitsValue digits : Int), rest.drop digits.length)
  | '+' :: rest =>
    let digits := rest.takeWhile isAsciiDigit
    if digits.isEmpty then none else some ((digitsValue digits : Int), rest.drop digits.length)
  | rest => (readField? 4 rest).map fun p => ((p.1 : Int), p.2)

/-- Reads one character. -/
def readMark? (c : Char) : List Char → Option (List Char)
  | d :: rest => if d = c then some rest else none
  | [] => none

/-- Reads a day. -/
def readDay? (cs : List Char) : Option (Day × List Char) := do
  let (year, cs) ← readYear? cs
  let cs ← readMark? '-' cs
  let (month, cs) ← readField? 2 cs
  let cs ← readMark? '-' cs
  let (day, cs) ← readField? 2 cs
  let d : Day := ⟨year, month, day⟩
  if d.isValid then some (d, cs) else none

/-- Reads the fraction of a second. Digits behind the ninth are dropped. -/
def readFraction? : List Char → Option (Nat × List Char)
  | '.' :: rest =>
    let digits := rest.takeWhile isAsciiDigit
    let used := digits.take 9
    if digits.isEmpty then none
    else some (digitsValue used * tenTo (9 - used.length), rest.drop digits.length)
  | rest => some (0, rest)

/-- Reads a time of day. -/
def readTime? (cs : List Char) : Option (DayTime × List Char) := do
  let (hour, cs) ← readField? 2 cs
  let cs ← readMark? ':' cs
  let (minute, cs) ← readField? 2 cs
  let cs ← readMark? ':' cs
  let (second, cs) ← readField? 2 cs
  let (nanos, cs) ← readFraction? cs
  let t : DayTime := ⟨hour, minute, second, nanos⟩
  if t.isValid then some (t, cs) else none

/-- What was read, if nothing follows it. -/
def whole? {α : Type} : Option (α × List Char) → Option α
  | some (a, []) => some a
  | _ => none

/-- The day that a text denotes. -/
def dayOf? (cs : List Char) : Option Day := whole? (readDay? cs)

/-- The time that a text denotes. -/
def timeOf? (cs : List Char) : Option DayTime := whole? (readTime? cs)

/-- The day and time that a text denotes. -/
def dayTimeOf? (cs : List Char) : Option (Day × DayTime) := whole? do
  let (day, cs) ← readDay? cs
  let (time, cs) ← readTime? (trimStart cs)
  some ((day, time), cs)

/-! ### Showing -/

/-- A year: four digits, with a sign if it needs more or is before year zero. -/
def yearText (year : Int) : List Char :=
  if 0 ≤ year ∧ year ≤ 9999 then padded 4 year.toNat
  else (if year < 0 then '-' else '+') :: padded 4 year.natAbs

def Day.text (d : Day) : List Char :=
  yearText d.year ++ '-' :: (padded 2 d.month ++ '-' :: padded 2 d.day)

/-- The fraction of a second. -/
def fractionText (nanos : Nat) : List Char :=
  if nanos = 0 then []
  else if nanos % 1000000 = 0 then '.' :: padded 3 (nanos / 1000000)
  else if nanos % 1000 = 0 then '.' :: padded 6 (nanos / 1000)
  else '.' :: padded 9 nanos

def DayTime.text (t : DayTime) : List Char :=
  padded 2 t.hour ++ ':' :: (padded 2 t.minute ++ ':' ::
    (padded 2 t.second ++ fractionText t.nanos))

/-- A day and a time of it. -/
def dayTimeText (p : Day × DayTime) : List Char := p.1.text ++ 'T' :: p.2.text

/-- The offset of universal time. -/
def universalMark : List Char := "+00:00".toList

end QueryGate.Server
