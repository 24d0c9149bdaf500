import IssueQuery.Instant
import IssueQuery.Text.Basic

namespace IssueQuery

/-- A number filled up with zeros to at least `width` digits. -/
def Text.ofNatPadded (width n : Nat) : Text :=
  let ds := ofNat n
  List.replicate (width - ds.length) '0' ++ ds

namespace Instant

/-- Years of more or fewer than four digits have a sign. -/
def renderYear (year : Int) : Text :=
  let digits := Text.ofNatPadded 4 year.natAbs
  if year < 0 then '-' :: digits else if 9999 < year then '+' :: digits else digits

/-- A fraction has as few digits as show it exactly, in groups of three. -/
def renderFraction (nanos : Nat) : Text :=
  if nanos = 0 then []
  else if nanos % 1000000 = 0 then '.' :: Text.ofNatPadded 3 (nanos / 1000000)
  else if nanos % 1000 = 0 then '.' :: Text.ofNatPadded 6 (nanos / 1000)
  else '.' :: Text.ofNatPadded 9 nanos

/-- Date and time, with `zone` after them. -/
def render (zone : Text) (t : Instant) : Text :=
  let leap := t.nanos / nanosPerSecond
  renderYear t.date.year ++ '-' :: Text.ofNatPadded 2 t.date.month ++ '-' :: Text.ofNatPadded 2 t.date.day ++
    'T' :: Text.ofNatPadded 2 (t.second / 3600) ++ ':' :: Text.ofNatPadded 2 (t.second / 60 % 60) ++
    ':' :: Text.ofNatPadded 2 (t.second % 60 + leap) ++ renderFraction (t.nanos % nanosPerSecond) ++ zone

end Instant

end IssueQuery
