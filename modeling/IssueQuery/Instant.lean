namespace IssueQuery

/-- A day of the Gregorian calendar, which is extended to all years. -/
structure Date where
  year : Int
  month : Nat
  day : Nat
  deriving DecidableEq, Repr

namespace Date

def isLeapYear (year : Int) : Bool := year % 4 == 0 && (year % 100 != 0 || year % 400 == 0)

def daysInMonth (year : Int) (month : Nat) : Nat :=
  if month = 2 then if isLeapYear year then 29 else 28
  else if month = 4 ∨ month = 6 ∨ month = 9 ∨ month = 11 then 30
  else 31

/-- The date of this year, month and day, if the calendar has it and the year lies in the range that
dates are kept for. -/
def ofParts? (year : Int) (month day : Nat) : Option Date :=
  if -262143 ≤ year ∧ year ≤ 262142 ∧ 1 ≤ month ∧ month ≤ 12 ∧ 1 ≤ day ∧ day ≤ daysInMonth year month then
    some ⟨year, month, day⟩
  else none

def next (d : Date) : Date :=
  if d.day < daysInMonth d.year d.month then { d with day := d.day + 1 }
  else if d.month < 12 then ⟨d.year, d.month + 1, 1⟩
  else ⟨d.year + 1, 1, 1⟩

def previous (d : Date) : Date :=
  if 1 < d.day then { d with day := d.day - 1 }
  else if 1 < d.month then ⟨d.year, d.month - 1, daysInMonth d.year (d.month - 1)⟩
  else ⟨d.year - 1, 12, 31⟩

def compare (a b : Date) : Ordering :=
  ((Ord.compare a.year b.year).then (Ord.compare a.month b.month)).then (Ord.compare a.day b.day)

end Date

/-- A moment in universal time: a date, the second of the day and the nanoseconds after it. A leap
second belongs to the second before it, with a thousand million nanoseconds or more. -/
structure Instant where
  date : Date
  second : Nat
  nanos : Nat
  deriving DecidableEq, Repr

namespace Instant

def secondsPerDay : Nat := 86400

def nanosPerSecond : Nat := 1000000000

/-- The moment at which clocks that are `east` seconds ahead of universal time show this date and
second of the day. Offsets are shorter than a day. -/
def ofLocal (date : Date) (second nanos : Nat) (east : Int) : Instant :=
  let s : Int := second - east
  if s < 0 then ⟨date.previous, (s + secondsPerDay).toNat, nanos⟩
  else if secondsPerDay ≤ s then ⟨date.next, (s - secondsPerDay).toNat, nanos⟩
  else ⟨date, s.toNat, nanos⟩

def compare (a b : Instant) : Ordering :=
  ((a.date.compare b.date).then (Ord.compare a.second b.second)).then (Ord.compare a.nanos b.nanos)

end Instant

end IssueQuery
