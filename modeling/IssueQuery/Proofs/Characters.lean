import IssueQuery.Filter.Reading
import IssueQuery.Proofs.Blanks
import IssueQuery.Token.Piece

namespace IssueQuery

/-- The blank characters, one by one. -/
def blanks : List Char :=
  [0x9, 0xA, 0xB, 0xC, 0xD, 0x20, 0x85, 0xA0, 0x1680, 0x2000, 0x2001, 0x2002, 0x2003, 0x2004, 0x2005, 0x2006,
    0x2007, 0x2008, 0x2009, 0x200A, 0x2028, 0x2029, 0x202F, 0x205F, 0x3000].map Char.ofNat

theorem mem_blanks_of_isBlank {c : Char} (blank : isBlank c = true) : c ∈ blanks := by
  simp only [isBlank, inRanges, blankRanges, List.any_cons, List.any_nil, Bool.or_false, Bool.or_eq_true,
    Bool.and_eq_true, decide_eq_true_eq] at blank
  rw [blanks, List.mem_map]
  refine ⟨c.toNat, ?_, Char.ofNat_toNat c⟩
  simp only [List.mem_cons, List.not_mem_nil, or_false]
  omega

theorem toLower_cases (c : Char) : c.toLower = c ∨ c ∈ "ABCDEFGHIJKLMNOPQRSTUVWXYZ".toList := by
  unfold Char.toLower
  split
  · rename_i upper
    have alphabet : "ABCDEFGHIJKLMNOPQRSTUVWXYZ".toList = (List.range' 0x41 26).map Char.ofNat := by decide
    refine Or.inr ?_
    rw [alphabet, List.mem_map]
    refine ⟨c.toNat, ?_, Char.ofNat_toNat c⟩
    rw [List.mem_range'_1]
    have lower : 0x41 ≤ c.toNat := upper.1
    have above : c.toNat ≤ 0x5A := upper.2
    omega
  · exact Or.inl rfl

theorem isBareChar_of_isIdentChar {c : Char} (ident : isIdentChar c = true) : isBareChar c = true := by
  simp only [isIdentChar, Bool.or_eq_true, beq_iff_eq] at ident
  rcases ident with rfl | letter
  · decide +kernel
  · simp [isBareChar, isAlphanumeric, letter]

theorem isBareChar_of_isHashtagChar {c : Char} (hashtag : isHashtagChar c = true) : isBareChar c = true := by
  simp only [isHashtagChar, Bool.or_eq_true, beq_iff_eq] at hashtag
  rcases hashtag with ident | rfl
  · exact isBareChar_of_isIdentChar ident
  · decide +kernel

theorem isBlank_of_isBareChar {c : Char} (bare : isBareChar c = true) : isBlank c = false := by
  have table : blanks.all (fun d => !isBareChar d) = true := by decide +kernel
  refine Bool.eq_false_iff.mpr fun blank => ?_
  have other := List.all_eq_true.mp table c (mem_blanks_of_isBlank blank)
  rw [bare] at other
  cases other

/-- Brackets, quotes and separators are no bare characters. -/
theorem ne_of_isBareChar {c d : Char} (bare : isBareChar c = true) (other : isBareChar d = false) : c ≠ d := by
  rintro rfl
  rw [bare] at other
  cases other

namespace Text

/-- Text within one word that leaves quotes as they are. -/
def IsPlain (t : Text) : Prop := ∀ c ∈ t, isBoundary c = false ∧ c ≠ '"'

theorem IsPlain.append {t u : Text} (first : IsPlain t) (second : IsPlain u) : IsPlain (t ++ u) := by
  intro c member
  rcases List.mem_append.mp member with inFirst | inSecond
  · exact first c inFirst
  · exact second c inSecond

theorem isPlain_of_bare {t : Text} (bare : ∀ c ∈ t, isBareChar c = true) : IsPlain t := by
  intro c member
  have letter := bare c member
  have notOpening : c ≠ '(' := ne_of_isBareChar letter (by decide +kernel)
  have notClosing : c ≠ ')' := ne_of_isBareChar letter (by decide +kernel)
  refine ⟨?_, ne_of_isBareChar letter (by decide +kernel)⟩
  simp [isBoundary, isBlank_of_isBareChar letter, notOpening, notClosing]

theorem IsPlain.isBlank {t : Text} (plain : t.IsPlain) : ∀ c ∈ t, isBlank c = false := by
  intro c member
  have inner := (plain c member).1
  simp only [isBoundary, Bool.or_eq_false_iff] at inner
  exact inner.1.1

theorem IsPlain.not_mem {t : Text} (plain : t.IsPlain) : '"' ∉ t := fun member => (plain _ member).2 rfl

end Text

end IssueQuery
