import IssueQuery.Token.Piece
import Mathlib.Data.List.Induction

namespace IssueQuery.Text

/-- A word is a boundary character, or a stretch of other characters. -/
def IsWord (w : Text) : Prop :=
  (∃ c, w = [c] ∧ isBoundary c = true) ∨ (w ≠ [] ∧ ∀ c ∈ w, isBoundary c = false)

theorem isWord_singleton (c : Char) : IsWord [c] := by
  cases boundary : isBoundary c with
  | true => exact Or.inl ⟨c, rfl, boundary⟩
  | false => exact Or.inr ⟨List.cons_ne_nil _ _, by simpa using boundary⟩

theorem isWord_of_mem_words {t w : Text} (member : w ∈ words t) : IsWord w := by
  induction t generalizing w with
  | nil => simp [words] at member
  | cons c t ih =>
    rw [words] at member
    split at member
    · rw [List.mem_singleton.mp member]
      exact isWord_singleton c
    · rename_i ws cut
      rcases List.mem_cons.mp member with rfl | member
      · exact isWord_singleton c
      · exact ih (by simp [cut, member])
    · rename_i d v ws cut
      split at member
      · rcases List.mem_cons.mp member with rfl | member
        · exact isWord_singleton c
        · exact ih (by rwa [cut])
      · rename_i inner
        simp only [Bool.or_eq_true, not_or, Bool.not_eq_true] at inner
        rcases List.mem_cons.mp member with rfl | member
        · refine Or.inr ⟨List.cons_ne_nil _ _, ?_⟩
          have first : IsWord (d :: v) := ih (by simp [cut])
          rcases first with ⟨e, eq, boundary⟩ | ⟨_, letters⟩
          · cases eq
            simp [boundary] at inner
          · intro e at_e
            rcases List.mem_cons.mp at_e with rfl | at_e
            · exact inner.1
            · exact letters e at_e
        · exact ih (by simp [cut, member])

theorem nil_not_mem_words (t : Text) : [] ∉ words t := by
  intro member
  rcases isWord_of_mem_words member with ⟨c, eq, _⟩ | ⟨nonempty, _⟩
  · cases eq
  · exact nonempty rfl

theorem words_cons_boundary {c : Char} (boundary : isBoundary c = true) (t : Text) :
    words (c :: t) = [c] :: words t := by
  rw [words]
  split
  · rename_i empty
    rw [empty]
  · rename_i ws cut
    exact absurd (by simp [cut]) (nil_not_mem_words t)
  · rename_i d w ws cut
    rw [cut, boundary, Bool.true_or, if_pos rfl]

/-- A boundary character cuts a text into two parts whose words are found separately. -/
theorem words_append_boundary {c : Char} (boundary : isBoundary c = true) (t u : Text) :
    words (t ++ c :: u) = words t ++ [c] :: words u := by
  induction t with
  | nil => exact words_cons_boundary boundary u
  | cons a t ih =>
    rw [List.cons_append, words, ih, words]
    cases words t with
    | nil => simp [boundary]
    | cons w ws =>
      cases w with
      | nil => rfl
      | cons d w =>
        simp only [List.cons_append]
        split <;> rfl

/-- Whether a text is empty or starts with a boundary character, so that no word runs into it. -/
def StartsApart (t : Text) : Prop := ∀ c ∈ t.head?, isBoundary c = true

/-- Whether a text is empty or ends with a boundary character. -/
def EndsApart (t : Text) : Prop := ∀ c ∈ t.getLast?, isBoundary c = true

theorem words_append_of_startsApart {t u : Text} (apart : StartsApart u) :
    words (t ++ u) = words t ++ words u := by
  cases u with
  | nil => simp [words]
  | cons c u =>
    have boundary := apart c rfl
    rw [words_append_boundary boundary, words_cons_boundary boundary]

theorem words_append_of_endsApart {t u : Text} (apart : EndsApart t) :
    words (t ++ u) = words t ++ words u := by
  rcases List.eq_nil_or_concat t with rfl | ⟨s, c, rfl⟩
  · simp [words]
  · have boundary : isBoundary c = true := apart c (by simp)
    rw [List.concat_eq_append, List.append_assoc, List.singleton_append, words_append_boundary boundary,
      words_append_boundary boundary]
    simp [words]

/-- A letter in front of a word belongs to it. -/
theorem words_cons_letter {c d : Char} (letter : isBoundary c = false) (inside : isBoundary d = false) {t w : Text}
    {ws : List Text} (cut : words t = (d :: w) :: ws) : words (c :: t) = (c :: d :: w) :: ws := by
  rw [words, cut]
  simp [letter, inside]

/-- A stretch without boundary characters is one word. -/
theorem words_letters {w : Text} (nonempty : w ≠ []) (letters : ∀ c ∈ w, isBoundary c = false) :
    words w = [w] := by
  induction w with
  | nil => exact absurd rfl nonempty
  | cons c w ih =>
    cases w with
    | nil => rfl
    | cons d w =>
      have inside : isBoundary d = false := letters d (List.mem_cons_of_mem c List.mem_cons_self)
      exact words_cons_letter (letters c List.mem_cons_self) inside
        (ih (List.cons_ne_nil _ _) fun e member => letters e (List.mem_cons_of_mem _ member))

theorem flatten_words (t : Text) : (words t).flatten = t := by
  induction t with
  | nil => rfl
  | cons c t ih =>
    rw [words]
    split
    · rename_i empty
      rw [empty] at ih
      rw [← ih]
      rfl
    · rename_i ws cut
      rw [cut] at ih
      rw [← ih]
      rfl
    · rename_i d w ws cut
      rw [cut] at ih
      rw [← ih]
      split <;> rfl

theorem exists_words_cons (c : Char) (t : Text) : ∃ v ws, words (c :: t) = (c :: v) :: ws := by
  rw [words]
  split
  · exact ⟨[], [], rfl⟩
  · rename_i ws _
    exact ⟨[], ws, rfl⟩
  · rename_i d v ws _
    split
    · exact ⟨[], (d :: v) :: ws, rfl⟩
    · exact ⟨d :: v, ws, rfl⟩

/-- Letters behind a text belong to its last word, and so does what they run into. -/
theorem exists_words_append (a : Text) {w : Text} (nonempty : w ≠ []) (letters : ∀ c ∈ w, isBoundary c = false) :
    ∃ us x, us.flatten ++ x = a ∧ ∀ t v ws, words (w ++ t) = (w ++ v) :: ws →
      words (a ++ (w ++ t)) = us ++ (x ++ (w ++ v)) :: ws := by
  induction a using List.reverseRecOn generalizing w with
  | nil => exact ⟨[], [], rfl, fun t v ws cut => cut⟩
  | append_singleton a c ih =>
    cases boundary : isBoundary c with
    | true =>
      have ends : EndsApart (a ++ [c]) := by simp [EndsApart, boundary]
      refine ⟨words (a ++ [c]), [], by rw [flatten_words, List.append_nil], fun t v ws cut => ?_⟩
      rw [words_append_of_endsApart ends, cut]
      rfl
    | false =>
      have longer : ∀ d ∈ c :: w, isBoundary d = false := List.forall_mem_cons.mpr ⟨boundary, letters⟩
      obtain ⟨us, x, rfl, cutAll⟩ := ih (List.cons_ne_nil c w) longer
      refine ⟨us, x ++ [c], by rw [List.append_assoc], fun t v ws cut => ?_⟩
      obtain ⟨d, w, rfl⟩ := List.exists_cons_of_ne_nil nonempty
      have whole := cutAll t v ws (words_cons_letter boundary (letters d List.mem_cons_self) cut)
      simpa using whole

end IssueQuery.Text
