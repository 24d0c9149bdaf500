import IssueQuery.Number.Binary64
import IssueQuery.Text.Basic

namespace IssueQuery

namespace Text

/-- The value of a text of ASCII digits. -/
def digitsValue (t : Text) : Nat := t.foldl (fun n c => 10 * n + (c.toNat - '0'.toNat)) 0

/-- Takes off one sign; a minus gives `true`. -/
def splitSign : Text → Bool × Text
  | '-' :: t => (true, t)
  | '+' :: t => (false, t)
  | t => (false, t)

end Text

/-- The integers of 64 bits with a sign. -/
def isInt64 (n : Int) : Bool := -(1 <<< 63 : Nat) ≤ n && n < (1 <<< 63 : Nat)

/-- Reads an integer of 64 bits: an optional sign and digits. -/
def readInt64? (t : Text) : Option Int :=
  let (negative, digits) := Text.splitSign t
  if digits = [] ∨ digits.all Char.isDigit = false then none
  else
    let n : Int := Text.digitsValue digits
    let n := if negative then -n else n
    if isInt64 n then some n else none

/-- Reads a power of ten: nothing, or `e`, an optional sign and digits. -/
def readPower? : Text → Option Int
  | [] => some 0
  | c :: t =>
    let (negative, digits) := Text.splitSign t
    if c.toLower ≠ 'e' ∨ digits = [] ∨ digits.all Char.isDigit = false then none
    else
      let n : Int := Text.digitsValue digits
      some (if negative then -n else n)

/-- Reads a decimal number as the nearest finite floating-point number. The point may stand at either
end of the digits but not alone. -/
def readBinary64? (t : Text) : Option Binary64 :=
  let (negative, t) := Text.splitSign t
  let whole := t.takeWhile Char.isDigit
  let rest := t.dropWhile Char.isDigit
  let (fraction, rest) := match rest with
    | '.' :: r => (r.takeWhile Char.isDigit, r.dropWhile Char.isDigit)
    | r => ([], r)
  let digits := whole ++ fraction
  if digits = [] then none
  else do
    let power ← readPower? rest
    Binary64.ofDecimal? negative (Text.digitsValue digits) (power - fraction.length)

end IssueQuery
