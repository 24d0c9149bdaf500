import IssueQuery.Number.Binary64
import Mathlib.Data.Nat.Log
import Mathlib.Tactic.Ring

namespace IssueQuery

section Quotient

variable {num num' den : Nat}

theorem roundQuotient_cases (num den : Nat) :
    roundQuotient num den = num / den ∨ roundQuotient num den = num / den + 1 := by
  unfold roundQuotient
  dsimp only
  split
  · exact Or.inl rfl
  · exact Or.inr rfl

/-- With the same whole part, what is rounded up stays so as the remainder grows. -/
theorem roundQuotient_mono (le : num ≤ num') : roundQuotient num den ≤ roundQuotient num' den := by
  have quotients : num / den ≤ num' / den := Nat.div_le_div_right le
  rcases quotients.lt_or_eq with less | same
  · have upper := roundQuotient_cases num den
    have lower := roundQuotient_cases num' den
    omega
  · have whole := Nat.div_add_mod num den
    have whole' := Nat.div_add_mod num' den
    rw [← same] at whole'
    unfold roundQuotient
    dsimp only
    rw [← same]
    split <;> split <;> omega

theorem roundQuotient_mul_right (num den : Nat) {k : Nat} (pos : 0 < k) :
    roundQuotient (num * k) (den * k) = roundQuotient num den := by
  have twice : 2 * (num % den * k) = 2 * (num % den) * k := (Nat.mul_assoc _ _ _).symm
  unfold roundQuotient
  simp only [Nat.mul_div_mul_right _ _ pos, Nat.mul_mod_mul_right, twice, Nat.mul_lt_mul_right pos,
    Nat.mul_left_inj pos.ne']

theorem roundQuotient_mul_self (q : Nat) (pos : 0 < den) : roundQuotient (q * den) den = q := by
  unfold roundQuotient
  simp [Nat.mul_div_cancel _ pos, pos]

end Quotient

theorem log2_mul_two_pow {n : Nat} (nonzero : n ≠ 0) (k : Nat) : (n * 2 ^ k).log2 = n.log2 + k := by
  rw [Nat.log2_eq_iff (Nat.mul_ne_zero nonzero (Nat.two_pow_pos k).ne')]
  constructor
  · rw [Nat.pow_add]
    exact Nat.mul_le_mul_right _ (Nat.log2_self_le nonzero)
  · rw [Nat.add_right_comm, Nat.pow_add]
    exact Nat.mul_lt_mul_of_pos_right Nat.lt_log2_self (Nat.two_pow_pos k)

namespace Binary64

/-- The nearest of the whole numbers that have at most 53 binary digits before any zeros; a half goes to the even
neighbour. -/
def nearestWhole (n : Nat) : Nat := roundQuotient n (2 ^ (n.log2 - 52)) * 2 ^ (n.log2 - 52)

/-- The same for integers: the sign is kept. -/
def nearestInt (n : Int) : Int := n.sign * nearestWhole n.natAbs

theorem nearestWhole_of_lt {n : Nat} (small : n < 2 ^ 53) : nearestWhole n = n := by
  have short : n.log2 - 52 = 0 := by
    rcases Nat.eq_zero_or_pos n with rfl | pos
    · rfl
    · have := (Nat.log2_lt pos.ne').mpr small
      omega
  have exact := roundQuotient_mul_self n Nat.one_pos
  rw [nearestWhole, short, Nat.pow_zero, Nat.mul_one]
  rwa [Nat.mul_one] at exact

theorem nearestWhole_le (n : Nat) : nearestWhole n ≤ 2 ^ (n.log2 - 52 + 53) := by
  have inside : n < 2 ^ 53 * 2 ^ (n.log2 - 52) := by
    rw [← Nat.pow_add]
    exact Nat.lt_log2_self.trans_le (Nat.pow_le_pow_right Nat.two_pos (by omega))
  have quotient : n / 2 ^ (n.log2 - 52) < 2 ^ 53 := (Nat.div_lt_iff_lt_mul (Nat.two_pow_pos _)).mpr inside
  rw [nearestWhole, Nat.add_comm, Nat.pow_add]
  refine Nat.mul_le_mul_right _ ?_
  have near := roundQuotient_cases n (2 ^ (n.log2 - 52))
  omega

theorem le_nearestWhole {n : Nat} (nonzero : n ≠ 0) : 2 ^ n.log2 ≤ nearestWhole n := by
  have split : 2 ^ n.log2 = 2 ^ (n.log2 - (n.log2 - 52)) * 2 ^ (n.log2 - 52) := by
    rw [← Nat.pow_add]
    congr 1
    omega
  have quotient : 2 ^ (n.log2 - (n.log2 - 52)) ≤ n / 2 ^ (n.log2 - 52) := by
    rw [Nat.le_div_iff_mul_le (Nat.two_pow_pos _), ← split]
    exact Nat.log2_self_le nonzero
  rw [split, nearestWhole]
  refine Nat.mul_le_mul_right _ ?_
  have near := roundQuotient_cases n (2 ^ (n.log2 - 52))
  omega

/-- Numbers with the same number of digits are rounded in steps of the same width, and between others there is a power of
two. -/
theorem nearestWhole_mono {m n : Nat} (le : m ≤ n) : nearestWhole m ≤ nearestWhole n := by
  rcases Nat.eq_zero_or_pos m with rfl | pos
  · rw [nearestWhole_of_lt (Nat.two_pow_pos 53)]
    exact Nat.zero_le _
  · have logs : m.log2 ≤ n.log2 := (Nat.le_log2 (by omega)).mpr ((Nat.log2_self_le pos.ne').trans le)
    by_cases same : m.log2 - 52 = n.log2 - 52
    · rw [nearestWhole, nearestWhole, same]
      exact Nat.mul_le_mul_right _ (roundQuotient_mono le)
    · calc
        nearestWhole m ≤ 2 ^ (m.log2 - 52 + 53) := nearestWhole_le m
        _ ≤ 2 ^ n.log2 := Nat.pow_le_pow_right Nat.two_pos (by omega)
        _ ≤ nearestWhole n := le_nearestWhole (by omega)

theorem nearestInt_natCast (n : Nat) : nearestInt n = nearestWhole n := by
  rcases Nat.eq_zero_or_pos n with rfl | pos
  · rfl
  · rw [nearestInt, Int.natAbs_natCast, Int.sign_natCast_of_ne_zero pos.ne', Int.one_mul]

theorem nearestInt_neg (n : Int) : nearestInt (-n) = -nearestInt n := by
  rw [nearestInt, nearestInt, Int.sign_neg, Int.natAbs_neg, Int.neg_mul]

theorem nearestInt_of_lt {n : Int} (small : n.natAbs < 2 ^ 53) : nearestInt n = n := by
  rw [nearestInt, nearestWhole_of_lt small, Int.sign_mul_natAbs]

/-- A small number is no other number rounded. -/
theorem nearestInt_ne_of_lt {m n : Int} (small : m.natAbs < 2 ^ 53) (other : m ≠ n) : nearestInt m ≠ nearestInt n := by
  rw [nearestInt_of_lt small]
  rcases Nat.lt_or_ge n.natAbs (2 ^ 53) with small' | large
  · rwa [nearestInt_of_lt small']
  · intro same
    have nonzero : n.natAbs ≠ 0 := by omega
    have size : m.natAbs = nearestWhole n.natAbs := by
      rw [same, nearestInt, Int.natAbs_mul, Int.natAbs_sign_of_ne_zero (Int.natAbs_ne_zero.mp nonzero), Nat.one_mul,
        Int.natAbs_natCast]
    have power : 2 ^ 53 ≤ 2 ^ n.natAbs.log2 := Nat.pow_le_pow_right Nat.two_pos ((Nat.le_log2 nonzero).mpr large)
    have lower := le_nearestWhole nonzero
    omega

theorem nearestInt_mono {a b : Int} (le : a ≤ b) : nearestInt a ≤ nearestInt b := by
  rcases a.eq_nat_or_neg with ⟨m, rfl | rfl⟩
  · rcases b.eq_nat_or_neg with ⟨n, rfl | rfl⟩
    · rw [nearestInt_natCast, nearestInt_natCast]
      exact Int.ofNat_le.mpr (nearestWhole_mono (Int.ofNat_le.mp le))
    · obtain ⟨rfl, rfl⟩ : m = 0 ∧ n = 0 := by omega
      exact le_rfl
  · rcases b.eq_nat_or_neg with ⟨n, rfl | rfl⟩
    · rw [nearestInt_neg, nearestInt_natCast, nearestInt_natCast]
      omega
    · have reversed : nearestWhole n ≤ nearestWhole m := nearestWhole_mono (by omega)
      rw [nearestInt_neg, nearestInt_neg, nearestInt_natCast, nearestInt_natCast]
      omega

theorem nearestWhole_mul_two_pow (n k : Nat) : nearestWhole (n * 2 ^ k) = nearestWhole n * 2 ^ k := by
  rcases Nat.eq_zero_or_pos n with rfl | pos
  · rw [Nat.zero_mul, nearestWhole_of_lt (Nat.two_pow_pos 53), Nat.zero_mul]
  · have log := log2_mul_two_pow pos.ne' k
    rcases Nat.lt_or_ge n.log2 52 with short | long
    · -- Nothing is rounded, since the step is at most the factor.
      have exact := roundQuotient_mul_self (n * 2 ^ (k - ((n * 2 ^ k).log2 - 52)))
        (Nat.two_pow_pos ((n * 2 ^ k).log2 - 52))
      have whole : n * 2 ^ (k - ((n * 2 ^ k).log2 - 52)) * 2 ^ ((n * 2 ^ k).log2 - 52) = n * 2 ^ k := by
        rw [Nat.mul_assoc, ← Nat.pow_add, Nat.sub_add_cancel (by omega)]
      rw [whole] at exact
      rw [nearestWhole, exact, whole, nearestWhole_of_lt ((Nat.log2_lt pos.ne').mp (by omega))]
    · have step : (n * 2 ^ k).log2 - 52 = n.log2 - 52 + k := by omega
      rw [nearestWhole, step, Nat.pow_add, roundQuotient_mul_right _ _ (Nat.two_pow_pos k), ← Nat.mul_assoc,
        ← nearestWhole]

theorem negative_nearest (negative : Bool) (num den : Nat) : (nearest negative num den).negative = negative := by
  rw [nearest, apply_ite Binary64.negative, ite_self]

/-- A mantissa with a digit too many is a power of two, which is written with another mantissa. -/
theorem magnitude_nearest (negative : Bool) (num : Nat) :
    (nearest negative num 1).magnitude = nearestWhole (num * unitsPerOne) := by
  unfold nearest
  generalize num * unitsPerOne = exact
  dsimp only
  rw [Nat.div_one, Nat.shiftLeft_eq, Nat.one_mul, nearestWhole]
  split
  · rename_i carried
    rw [carried, magnitude, Nat.shiftLeft_eq, Nat.shiftLeft_eq, Nat.shiftLeft_eq, Nat.pow_succ]
    ring
  · rw [magnitude, Nat.shiftLeft_eq]

theorem exists_unitsPerOne_eq : ∃ k, unitsPerOne = 2 ^ k := by
  have power (n : Nat) : ∃ k, 1 <<< n = 2 ^ k := ⟨n, Nat.one_shiftLeft n⟩
  exact power 1074

/-- A whole number and what it becomes as a floating-point number. -/
theorem units_ofInt (n : Int) : (ofInt n).units = nearestInt n * unitsPerOne := by
  have size : (ofInt n).magnitude = nearestWhole n.natAbs * unitsPerOne := by
    obtain ⟨k, power⟩ := exists_unitsPerOne_eq
    rw [ofInt, magnitude_nearest, power, nearestWhole_mul_two_pow]
  rw [units, size, ofInt, negative_nearest]
  generalize unitsPerOne = one
  rcases n.eq_nat_or_neg with ⟨m, rfl | rfl⟩
  · rw [decide_eq_false (by omega), if_neg Bool.false_ne_true, nearestInt_natCast, Int.natAbs_natCast, Int.natCast_mul]
  · rcases Nat.eq_zero_or_pos m with rfl | pos
    · simp [nearestWhole_of_lt, nearestInt]
    · rw [decide_eq_true (by omega), if_pos rfl, nearestInt_neg, nearestInt_natCast, Int.natAbs_neg, Int.natAbs_natCast,
        Int.natCast_mul, Int.neg_mul]

end Binary64

end IssueQuery
