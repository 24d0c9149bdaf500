namespace IssueQuery

/-- A 64-bit floating-point number `± mantissa · 2 ^ scale`, counted in units of the smallest positive
one, `2 ^ -1074`. The mantissa has at most 53 bits, and exactly 53 unless the scale is zero. -/
structure Binary64 where
  negative : Bool
  mantissa : Nat
  scale : Nat
  deriving DecidableEq, Repr

/-- The power of ten with this exponent. -/
def tenTo : Nat → Nat
  | 0 => 1
  | n + 1 => 10 * tenTo n

/-- The integer nearest to `num / den`; a half goes to the even neighbour. -/
def roundQuotient (num den : Nat) : Nat :=
  let q := num / den
  let twice := 2 * (num % den)
  if twice < den ∨ twice = den ∧ q % 2 = 0 then q else q + 1

namespace Binary64

/-- The number of units that make one. -/
def unitsPerOne : Nat := 1 <<< 1074

def zero (negative : Bool) : Binary64 := ⟨negative, 0, 0⟩

/-- The size of the number in units. -/
def magnitude (x : Binary64) : Nat := x.mantissa <<< x.scale

/-- The number in units, with its sign. Both zeros are zero. -/
def units (x : Binary64) : Int := if x.negative then -(x.magnitude : Int) else x.magnitude

/-- The number nearest to `± num / den`, as if no number were too large. -/
def nearest (negative : Bool) (num den : Nat) : Binary64 :=
  let exact := num * unitsPerOne
  let scale := (exact / den).log2 - 52
  let mantissa := roundQuotient exact (den <<< scale)
  if mantissa = 1 <<< 53 then ⟨negative, 1 <<< 52, scale + 1⟩ else ⟨negative, mantissa, scale⟩

/-- Refuses the numbers beyond the largest finite one. -/
def finite? (x : Binary64) : Option Binary64 := if x.scale ≤ 2045 then some x else none

def ofInt (n : Int) : Binary64 := nearest (n < 0) n.natAbs 1

/-- The number nearest to `± significand · 10 ^ exponent`. Exponents that decide by themselves are
not multiplied out. -/
def ofDecimal? (negative : Bool) (significand : Nat) (exponent : Int) : Option Binary64 :=
  let leading := (Nat.toDigits 10 significand).length + exponent
  if significand = 0 ∨ leading < -400 then some (zero negative)
  else if 400 < leading then none
  else if 0 ≤ exponent then (nearest negative (significand * tenTo exponent.toNat) 1).finite?
  else (nearest negative significand (tenTo exponent.natAbs)).finite?

def mul (x y : Binary64) : Binary64 :=
  nearest (x.negative != y.negative) (x.magnitude * y.magnitude) (unitsPerOne * unitsPerOne)

def div (x y : Binary64) : Binary64 := nearest (x.negative != y.negative) x.magnitude y.magnitude

/-- Order by value; the two zeros are equal. -/
def compare (x y : Binary64) : Ordering := Ord.compare x.units y.units

end Binary64

end IssueQuery
