import IssueQuery.Number.Shortest
import IssueQuery.Text.Basic

namespace IssueQuery

/-- How a floating-point number is written: from which leading power of ten to which one without an
exponent, whether a whole number keeps `.0`, and which of two equally near decimals is taken. -/
structure NumberStyle where
  positional : Int → Bool
  keepsFraction : Bool
  tie : Tie

namespace NumberStyle

/-- Numbers inside other text have no exponent, and whole numbers no fraction. -/
def plain : NumberStyle := ⟨fun _ => true, false, .up⟩

/-- Numbers in JSON have an exponent from `1e+16` up and from `1e-6` down, and always show that they
are not integers. -/
def json : NumberStyle := ⟨fun e => -5 ≤ e && e ≤ 15, true, .even⟩

/-- Digits with the point after `point` of them, filled up with zeros on either side. -/
def placePoint (style : NumberStyle) (digits : Text) (point : Int) : Text :=
  let whole := if style.keepsFraction then ['.', '0'] else []
  if point ≤ 0 then ['0', '.'] ++ List.replicate point.natAbs '0' ++ digits
  else if digits.length ≤ point.toNat then
    digits ++ List.replicate (point.toNat - digits.length) '0' ++ whole
  else digits.take point.toNat ++ '.' :: digits.drop point.toNat

/-- One digit, the others after a point, and a signed power of ten. -/
def withExponent (digits : Text) (power : Int) : Text :=
  let fraction := match digits.tail with
    | [] => []
    | ds => '.' :: ds
  let sign := if power < 0 then '-' else '+'
  digits.take 1 ++ fraction ++ 'e' :: sign :: Text.ofNat power.natAbs

def render (style : NumberStyle) (x : Binary64) : Text :=
  let d := x.shortest style.tie
  let digits := Text.ofNat d.significand
  let point := digits.length + d.exponent
  let body := if d.significand = 0 ∨ style.positional (point - 1) then style.placePoint digits point
    else withExponent digits (point - 1)
  if x.negative then '-' :: body else body

end NumberStyle

end IssueQuery
