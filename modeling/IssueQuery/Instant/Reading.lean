import IssueQuery.Instant
import IssueQuery.Number.Reading

namespace IssueQuery

namespace Text

/-- Takes off one character. -/
def expect? (c : Char) : Text → Option Text
  | [] => none
  | d :: t => if d = c then some t else none

/-- Reads a number of at least one and at most `most` digits. -/
def takeNumber? (most : Nat) (t : Text) : Option (Nat × Text) :=
  match (t.take most).takeWhile Char.isDigit with
  | [] => none
  | ds => some (digitsValue ds, t.drop ds.length)

/-- Reads a number of exactly `width` digits. -/
def takeDigits? (width : Nat) (t : Text) : Option (Nat × Text) :=
  let ds := (t.take width).takeWhile Char.isDigit
  if ds.length = width then some (digitsValue ds, t.drop width) else none

end Text

namespace Instant

/-- Reads a fraction of a second in nanoseconds; digits after the ninth are cut off. -/
def takeFraction? : Text → Option (Nat × Text)
  | '.' :: t =>
    match t.takeWhile Char.isDigit with
    | [] => none
    | ds => some (Text.digitsValue (ds.take 9) * tenTo (9 - ds.length), t.dropWhile Char.isDigit)
  | t => some (0, t)

/-- Reads an offset to the end of the text, in seconds east: `Z`, or a sign, hours and minutes. -/
def readOffset? : Text → Option Int
  | [] => none
  | c :: t =>
    if c = 'Z' ∨ c = 'z' then if t = [] then some 0 else none
    else do
      let negative ← if c = '+' then some false else if c = '-' ∨ c = '\u2212' then some true else none
      let (hours, t) ← Text.takeDigits? 2 t
      let t ← Text.expect? ':' t
      let (minutes, t) ← Text.takeDigits? 2 t
      let east : Int := hours * 3600 + minutes * 60
      if t = [] ∧ hours < 24 ∧ minutes < 60 then some (if negative then -east else east) else none

/-- Reads a timestamp: a date, a time with an optional fraction, and an offset, with all numbers in
full width. Second 60 is a leap second. -/
def readTimestamp? (t : Text) : Option Instant := do
  let (year, t) ← Text.takeDigits? 4 t
  let t ← Text.expect? '-' t
  let (month, t) ← Text.takeDigits? 2 t
  let t ← Text.expect? '-' t
  let (day, t) ← Text.takeDigits? 2 t
  let date ← Date.ofParts? year month day
  let t ← (Text.expect? 'T' t).or ((Text.expect? 't' t).or (Text.expect? ' ' t))
  let (hour, t) ← Text.takeDigits? 2 t
  let t ← Text.expect? ':' t
  let (minute, t) ← Text.takeDigits? 2 t
  let t ← Text.expect? ':' t
  let (second, t) ← Text.takeDigits? 2 t
  let (nanos, t) ← takeFraction? t
  let east ← readOffset? t
  if 24 ≤ hour ∨ 60 ≤ minute ∨ 60 < second then none
  else if second = 60 then ofLocal date (hour * 3600 + minute * 60 + 59) (nanos + nanosPerSecond) east
  else ofLocal date (hour * 3600 + minute * 60 + second) nanos east

/-- Reads a year: a sign and any number of digits, or up to four digits. -/
def takeYear? : Text → Option (Int × Text)
  | '-' :: t => (Text.takeNumber? t.length t).map fun (n, rest) => (-n, rest)
  | '+' :: t => (Text.takeNumber? t.length t).map fun (n, rest) => (n, rest)
  | t => (Text.takeNumber? 4 t).map fun (n, rest) => (n, rest)

/-- Reads a plain date, which stands for its midnight. Blanks may stand before each number. -/
def readDate? (t : Text) : Option Instant := do
  let (year, t) ← takeYear? (Text.trimStart t)
  let t ← Text.expect? '-' t
  let (month, t) ← Text.takeNumber? 2 (Text.trimStart t)
  let t ← Text.expect? '-' t
  let (day, t) ← Text.takeNumber? 2 (Text.trimStart t)
  let date ← Date.ofParts? year month day
  if t = [] then some ⟨date, 0, 0⟩ else none

/-- Reads a timestamp or a plain date, with blanks around it or without. -/
def ofText? (t : Text) : Option Instant :=
  (readTimestamp? (Text.trim t)).or (readDate? (Text.trim t))

end Instant

end IssueQuery
