import IssueQuery.Number.Binary64

namespace IssueQuery

/-- The decimal number `significand · 10 ^ exponent`. -/
structure Decimal where
  significand : Nat
  exponent : Int
  deriving DecidableEq, Repr

/-- Which of two equally near decimals is taken. -/
inductive Tie where
  | even | up
  deriving DecidableEq, Repr

namespace Binary64

private def digitCount (n : Nat) : Nat := (Nat.toDigits 10 n).length

/-- The power of ten just above the number of this size, for a size that is not zero. -/
def decimalPoint (magnitude : Nat) : Int :=
  if unitsPerOne ≤ magnitude then digitCount (magnitude / unitsPerOne)
  else 1 - digitCount ((unitsPerOne - 1) / magnitude)

/-- The nearer neighbour of `x` among the multiples of `10 ^ exponent`, if one of its two neighbours
there reads back as `x`. The decimals that read back lie between the midpoints to the adjacent
numbers, and a midpoint itself goes to an even mantissa. -/
def nearestDecimal? (tie : Tie) (x : Binary64) (exponent : Int) : Option Decimal :=
  let grow := if exponent < 0 then tenTo exponent.natAbs else 1
  let shrink := 4 * unitsPerOne * (if exponent < 0 then 1 else tenTo exponent.natAbs)
  let ofQuarters (quarters : Nat) := (quarters <<< x.scale) * grow
  let value := ofQuarters (4 * x.mantissa)
  let low := ofQuarters (4 * x.mantissa - if x.mantissa = 1 <<< 52 ∧ x.scale ≠ 0 then 1 else 2)
  let high := ofQuarters (4 * x.mantissa + 2)
  let readsBack (c : Nat) : Bool :=
    if x.mantissa % 2 = 0 then low ≤ c * shrink && c * shrink ≤ high
    else low < c * shrink && c * shrink < high
  let below := value / shrink
  let above := below + 1
  match readsBack below, readsBack above with
  | false, false => none
  | true, false => some ⟨below, exponent⟩
  | false, true => some ⟨above, exponent⟩
  | true, true =>
    let toBelow := value - below * shrink
    let toAbove := above * shrink - value
    if toBelow < toAbove ∨ toBelow = toAbove ∧ tie = .even ∧ below % 2 = 0 then some ⟨below, exponent⟩
    else some ⟨above, exponent⟩

/-- The decimal with the fewest digits that reads back as `x`, and of those the one nearest to it. The
power of ten just above `x` is tried first, then one digit, two, and so on; seventeen always suffice. -/
def shortest (tie : Tie) (x : Binary64) : Decimal :=
  if x.mantissa = 0 then ⟨0, 0⟩
  else
    let point := decimalPoint x.magnitude
    ((List.range 18).findSome? fun (n : Nat) => nearestDecimal? tie x (point - n)).getD ⟨0, 0⟩

end Binary64

end IssueQuery
