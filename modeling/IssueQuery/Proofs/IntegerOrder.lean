import IssueQuery.Proofs.Expansion
import IssueQuery.Proofs.Rounding
import Mathlib.Order.Compare

namespace IssueQuery

/-- What keeps the order shows the order of any two values that it does not make one. -/
theorem compare_image_iff {f : Int → Int} (mono : ∀ {a b : Int}, a ≤ b → f a ≤ f b) (n a : Int) :
    Ord.compare (f n) (f a) = Ord.compare n a ↔ n = a ∨ f n ≠ f a := by
  rcases lt_trichotomy n a with less | rfl | more
  · have images := mono less.le
    rw [compare_lt_iff_lt.mpr less, compare_lt_iff_lt]
    omega
  · simp
  · have images := mono more.le
    rw [compare_gt_iff_gt.mpr more, compare_gt_iff_gt]
    omega

theorem Binary64.compare_ofInt (n a : Int) :
    (ofInt n).compare (ofInt a) = Ord.compare (nearestInt n) (nearestInt a) := by
  obtain ⟨k, power⟩ := exists_unitsPerOne_eq
  have pos : 0 < (unitsPerOne : Int) := by
    rw [power]
    exact Int.natCast_pos.mpr (Nat.two_pow_pos k)
  have scaled {a b : Int} (le : a ≤ b) : a * unitsPerOne ≤ b * unitsPerOne := Int.mul_le_mul_of_nonneg_right le pos.le
  rw [Binary64.compare, units_ofInt, units_ofInt]
  refine (compare_image_iff scaled _ _).mpr ?_
  rw [Ne, Int.mul_eq_mul_right_iff pos.ne']
  exact Classical.em _

/-- The relation of an integer to another that an operator is named for. -/
def CompareOp.Relates : CompareOp → Int → Int → Prop
  | .eq, n, a | .isIn, n, a => n = a
  | .ne, n, a | .notIn, n, a => n ≠ a
  | .lt, n, a => n < a
  | .lte, n, a => n ≤ a
  | .gt, n, a => a < n
  | .gte, n, a => a ≤ n
  | .regex _, _, _ => False

/-- Filters with the integers `as` go by the order of the integers in documents that have `n` at a path. -/
structure DecidesIntegers (as : List Int) (n : Int) : Prop where
  order : ∀ a ∈ as, (Value.int a).compareJson (.int n) = some (Ord.compare n a)
  single : ∀ a ∈ as, ∀ path doc, doc.valuesAt path = [.int n] →
    ∀ op : CompareOp, Comparison.holds ⟨path, op, .int a⟩ doc = true ↔ op.Relates n a
  membership : ∀ path doc, doc.valuesAt path = [.int n] →
    (Comparison.holds ⟨path, .isIn, .list (as.map .int)⟩ doc = true ↔ n ∈ as) ∧
      (Comparison.holds ⟨path, .notIn, .list (as.map .int)⟩ doc = true ↔ n ∉ as)

namespace Value

variable {n a : Int}

theorem compareJson_int (n a : Int) :
    (Value.int a).compareJson (.int n) = some (Ord.compare (Binary64.nearestInt n) (Binary64.nearestInt a)) :=
  congrArg some (Binary64.compare_ofInt n a)

theorem compareJson_int_iff : (Value.int a).compareJson (.int n) = some (Ord.compare n a) ↔
    n = a ∨ Binary64.nearestInt n ≠ Binary64.nearestInt a := by
  rw [compareJson_int, Option.some_inj]
  exact compare_image_iff Binary64.nearestInt_mono n a

theorem holds_iff_relates (order : (Value.int a).compareJson (.int n) = some (Ord.compare n a)) {path : List Text}
    {doc : Json} (found : doc.valuesAt path = [.int n]) (op : CompareOp) :
    Comparison.holds ⟨path, op, .int a⟩ doc = true ↔ op.Relates n a := by
  cases op with
  | regex ignoreCase => simp [Comparison.holds, Comparison.anyText, CompareOp.Relates]
  | _ => simp [Comparison.holds, Comparison.anyOrder, Value.equals, Value.includes, found, order, CompareOp.Relates,
      compare_lt_iff_lt, compare_gt_iff_gt]

theorem membership_iff {as : List Int}
    (order : ∀ a ∈ as, (Value.int a).compareJson (.int n) = some (Ord.compare n a)) {path : List Text} {doc : Json}
    (found : doc.valuesAt path = [.int n]) :
    (Comparison.holds ⟨path, .isIn, .list (as.map .int)⟩ doc = true ↔ n ∈ as) ∧
      (Comparison.holds ⟨path, .notIn, .list (as.map .int)⟩ doc = true ↔ n ∉ as) := by
  have equal (a : Int) (member : a ∈ as) : Comparison.holds ⟨path, .eq, .int a⟩ doc = true ↔ n = a :=
    holds_iff_relates (order a member) found .eq
  have differ (a : Int) (member : a ∈ as) : Comparison.holds ⟨path, .ne, .int a⟩ doc = true ↔ n ≠ a :=
    holds_iff_relates (order a member) found .ne
  rw [Comparison.holds_isIn, Comparison.holds_notIn, List.any_map, List.all_map, List.any_eq_true, List.all_eq_true]
  constructor
  · constructor
    · rintro ⟨a, member, holds⟩
      rwa [(equal a member).mp holds]
    · exact fun member => ⟨n, member, (equal n member).mpr rfl⟩
  · constructor
    · exact fun holds member => (differ n member).mp (holds n member) rfl
    · exact fun absent a member => (differ a member).mpr fun same => absent (same ▸ member)

end Value

/-- The operators go by the order of the integers if the order is found right. -/
theorem decidesIntegers_of_order {as : List Int} {n : Int}
    (order : ∀ a ∈ as, (Value.int a).compareJson (.int n) = some (Ord.compare n a)) : DecidesIntegers as n where
  order := order
  single a member _ _ found := Value.holds_iff_relates (order a member) found
  membership _ _ found := Value.membership_iff order found

/-- Integers are compared exactly if, and only if, they are equal or are not rounded to the same floating-point number.
Whatever is below `2 ^ 53` in size is not rounded. -/
theorem decidesIntegers_iff (as : List Int) (n : Int) :
    (DecidesIntegers as n ↔ ∀ a ∈ as, n = a ∨ Binary64.nearestInt n ≠ Binary64.nearestInt a) ∧
      (n.natAbs < 2 ^ 53 ∨ (∀ a ∈ as, a.natAbs < 2 ^ 53) → DecidesIntegers as n) := by
  refine ⟨⟨fun decides a member => ?_, fun apart => ?_⟩, fun small => ?_⟩
  · exact Value.compareJson_int_iff.mp (decides.order a member)
  · exact decidesIntegers_of_order fun a member => Value.compareJson_int_iff.mpr (apart a member)
  · refine decidesIntegers_of_order fun a member => Value.compareJson_int_iff.mpr ?_
    refine or_iff_not_imp_left.mpr fun other => ?_
    rcases small with small | small
    · exact Binary64.nearestInt_ne_of_lt small other
    · exact (Binary64.nearestInt_ne_of_lt (small a member) (Ne.symm other)).symm

/-- Numbers on either side of the first that is rounded, and the ends of the ranges. -/
theorem decidesIntegers_iff_sample :
    let as : List Int := [9007199254740991, 9007199254740994, 9223372036854775807, -9223372036854775808]
    let ns : List Int := [9007199254740992, 9223372036854774784, 18446744073709551615]
    DecidesIntegers as 9007199254740991 ∧ ∀ n ∈ ns, DecidesIntegers as n := by
  intro as ns
  have apart : ∀ n ∈ ns, ∀ a ∈ as, n = a ∨ Binary64.nearestInt n ≠ Binary64.nearestInt a := by decide
  constructor
  · exact (decidesIntegers_iff as 9007199254740991).2 (.inl (by decide))
  · exact fun n member => (decidesIntegers_iff as n).1.mpr (apart n member)

/-- Two integers that are rounded to the same number are taken as equal. -/
theorem compareJson_int_rounded :
    let a : Int := 9007199254740993
    let n : Int := 9007199254740992
    let doc : Json := .object [("votes".toList, .int n)]
    isInt64 a = true ∧ isInt64 n = true ∧ n < a ∧ (Value.int a).compareJson (.int n) = some .eq ∧
      Comparison.holds ⟨["votes".toList], .eq, .int a⟩ doc = true ∧
      Comparison.holds ⟨["votes".toList], .lt, .int a⟩ doc = false := by
  decide +kernel

end IssueQuery
