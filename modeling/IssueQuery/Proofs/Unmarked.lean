import IssueQuery.Proofs.FirstMarker

namespace IssueQuery

namespace Piece

/-- A word and the blanks and the text behind it are in one filter, unless what comes next is a keyword
or a bracket. -/
theorem exists_filter_of_word {a w v : Text} {g c : Char} (closed : a.IsClosed) (plain : w.IsPlain)
    (long : 4 ≤ w.length) (blank : Text.IsBlank (g :: v)) (other : ∀ u, ofMark? (c :: u) = none)
    (t : Text) :
    ∃ p u, p.IsClosed ∧ .filter (p ++ (w ++ g :: (v ++ c :: u))) ∈ ofText (a ++ (w ++ g :: (v ++ c :: t))) := by
  have nonempty : w ≠ [] := by
    rintro rfl
    simp at long
  have boundary : isBoundary g = true := by simp [isBoundary, blank g List.mem_cons_self]
  obtain ⟨us, x, rfl, cut⟩ := Text.exists_words_append a nonempty fun d member => (plain d member).1
  obtain ⟨u, ws, first⟩ := Text.exists_words_cons c t
  have cutAll : Text.words (us.flatten ++ x ++ (w ++ g :: (v ++ c :: t))) =
      us ++ (x ++ w) :: Text.words (g :: v ++ c :: t) := by
    have alone : Text.words (w ++ g :: (v ++ c :: t)) = (w ++ []) :: Text.words (g :: v ++ c :: t) := by
      rw [Text.words_append_boundary boundary, List.cons_append, Text.words_cons_boundary boundary, List.append_nil,
        Text.words_letters nonempty fun d member => (plain d member).1]
      rfl
    rw [cut _ _ _ alone, List.append_nil]
  have closedX : Text.quotedAfter (Text.quotedAfter false us.flatten) x = false := by
    rw [← Text.quotedAfter_append]
    exact closed
  have after : Text.quotedAfter (Text.quotedAfter false us.flatten) (x ++ w) = false := by
    rw [Text.quotedAfter_append, closedX, Text.quotedAfter_of_not_mem plain.not_mem]
  have atWord : ofWords (Text.quotedAfter false us.flatten) ((x ++ w) :: Text.words (g :: v ++ c :: t)) =
      consFilter (x ++ w) (ofText (g :: v ++ c :: t)) := by
    rw [ofWords_filter (ofMark?_of_long (by rw [List.length_append]; omega)), after, ofText]
  have atNext : ∃ ps, ofText (c :: t) = consFilter (c :: u) ps :=
    ⟨_, by rw [ofText, first, ofWords_filter (other u)]⟩
  obtain ⟨ps, next⟩ := atNext
  obtain ⟨more, qs, start⟩ := exists_consFilter ps
  rw [ofText_append_blanks blank, next, consFilter_consFilter, start] at atWord
  obtain ⟨p, member, quoted⟩ := exists_filter_of_tail atWord
  refine ⟨p ++ x, u ++ more, ?_, ?_⟩
  · rw [Text.IsClosed, Text.quotedAfter_append, quoted, closedX]
  · rw [ofText, cutAll]
    simpa using member

end Piece

namespace Search

/-- No letter of a keyword is a `b`. -/
theorem ofMark?_of_foldCase {c : Char} (letter : foldCase c = 'b') (t : Text) : Piece.ofMark? (c :: t) = none := by
  refine Piece.ofMark?_eq_none_iff.mpr ⟨?_, ?_, ofKeyword?_eq_none_of_mem List.mem_cons_self fun lower => ?_⟩
  · intro eq
    cases eq
    exact absurd letter (by decide +kernel)
  · intro eq
    cases eq
    exact absurd letter (by decide +kernel)
  · have table : (['a', 'n', 'd', 'o', 'r', 't'] ++ "ABCDEFGHIJKLMNOPQRSTUVWXYZ".toList).all fun d =>
        !(foldCase d == 'b' && ['a', 'n', 'd', 'o', 'r', 't'].contains d.toLower) := by decide +kernel
    have listed : c ∈ ['a', 'n', 'd', 'o', 'r', 't'] ++ "ABCDEFGHIJKLMNOPQRSTUVWXYZ".toList := by
      rcases toLower_cases c with same | upper
      · rw [same] at lower
        exact List.mem_append_left _ lower
      · exact List.mem_append_right _ upper
    have other := List.all_eq_true.mp table c listed
    rw [letter, List.contains_iff_mem.mpr lower] at other
    cases other

theorem isPlain_of_foldCase {w : Text} (letters : w.map foldCase = "sort".toList) : w.IsPlain := by
  intro c member
  have letter := foldCase_mem letters member
  have ne {d : Char} (other : foldCase d ∉ ['s', 'o', 'r', 't']) : c ≠ d := by
    rintro rfl
    exact other letter
  have notOpening : c ≠ '(' := ne (by decide +kernel)
  have notClosing : c ≠ ')' := ne (by decide +kernel)
  refine ⟨?_, ne (by decide +kernel)⟩
  simp [isBoundary, isBlank_of_foldCase (List.mem_append_left ['b'] letter), notOpening, notClosing]

theorem exists_last_of_foldCase {w : Text} (letters : w.map foldCase = "sort".toList) :
    ∃ v d, w = v ++ [d] ∧ foldCase d = 't' := by
  have split : w.map foldCase = "sor".toList ++ ['t'] := letters
  obtain ⟨v, last, eq, _, atLast⟩ := List.map_eq_append_iff.mp split
  obtain ⟨d, rfl, folded⟩ := List.map_eq_singleton_iff.mp atLast
  exact ⟨v, d, eq, folded⟩

theorem not_isSeparator_of_foldCase {c : Char} (letter : foldCase c ∈ ['b', 't']) : ¬ Text.IsSeparator (some c) := by
  intro mark
  rcases mark c rfl with rfl | rfl
  · exact absurd letter (by decide +kernel)
  · exact absurd letter (by decide +kernel)

/-- Outside quotes, nothing that starts with `b` follows the word `sort` and a blank. -/
def Unmarked (t : Text) : Prop :=
  ∀ (a w : Text) b rest, t = a ++ (w ++ b :: rest) → a.IsClosed → w.map foldCase = "sort".toList → isBlank b = true →
    ∀ c ∈ Text.firstVisible? rest, foldCase c ≠ 'b'

theorem Unmarked.not_isMarker {t a m b : Text} (unmarked : Unmarked t) (eq : t = a ++ (m ++ b)) (closed : a.IsClosed) :
    ¬ IsMarker m := by
  intro marker
  obtain ⟨w, g, rest, split, letters, blank, c, first, folded⟩ := marker.exists_by b
  rw [split] at eq
  exact unmarked a w g rest eq closed letters blank c first folded

/-- Text that may stand behind filters: it starts with a blank, and `by` is not what comes next. -/
structure Follows (u : Text) : Prop where
  apart : ∀ c ∈ u.head?, isBlank c = true
  other : ∀ c ∈ Text.firstVisible? u, foldCase c ≠ 'b'

/-- No marker starts in an unmarked text, not even one that ends in what follows. -/
theorem Unmarked.afterMarker? {a t u : Text} (unmarked : Unmarked (a ++ t)) (closed : a.IsClosed)
    (follows : Follows u) : afterMarker? (t ++ u) = none := by
  cases found : Search.afterMarker? (t ++ u) with
  | none => rfl
  | some clause =>
    obtain ⟨m, whole, marker⟩ := afterMarker?_eq_some_iff.mp found
    obtain ⟨w, b, rest, eq, letters, blank, c, first, folded⟩ := marker.exists_by clause
    rw [eq] at whole
    have atEnd : u ≠ b :: rest := by
      rintro rfl
      refine absurd folded (follows.other c ?_)
      rwa [Text.firstVisible?_cons_of_blank blank]
    rcases List.append_eq_append_iff.mp whole with ⟨v, atW, atU⟩ | ⟨v, atT, atRest⟩
    · cases v with
      | nil => exact absurd atU atEnd
      | cons d v =>
        have letter : foldCase d ∈ ['s', 'o', 'r', 't'] := foldCase_mem letters (by simp [atW])
        have visible := isBlank_of_foldCase (List.mem_append_left ['b'] letter)
        rw [follows.apart d (by rw [atU]; rfl)] at visible
        cases visible
    · cases v with
      | nil => exact absurd atRest.symm atEnd
      | cons d v =>
        obtain ⟨rfl, inRest⟩ := List.cons.inj atRest
        rw [inRest, List.append_eq, Text.firstVisible?_append, Option.mem_def, Option.or_eq_some_iff] at first
        rcases first with inside | ⟨_, behind⟩
        · exact absurd folded (unmarked a w b v (by rw [atT]) closed letters blank c inside)
        · exact absurd folded (follows.other c behind)

/-- An unmarked text is all filters. -/
theorem Unmarked.split {t : Text} (unmarked : Unmarked t) : Search.split t = (t, none) :=
  (cutAtMarker_split t).unique (.absent fun _ _ _ marked even =>
    unmarked.not_isMarker marked.split (Text.isClosed_iff_even.mpr even) marked.marker)

/-- A sort clause is found behind an unmarked text. -/
theorem Unmarked.split_sort {t : Text} (unmarked : Unmarked t) (closed : t.IsClosed) (clause : Text) :
    Search.split (t ++ ' ' :: ("sort by: ".toList ++ clause)) = (t ++ [' '], some (' ' :: clause)) := by
  have follows : Follows (' ' :: ("sort by: ".toList ++ clause)) := by
    constructor
    · intro c first
      cases first
      decide
    · intro c first
      cases first
      decide +kernel
  have whole : t ++ ' ' :: ("sort by: ".toList ++ clause) = t ++ [' '] ++ ("sort by: ".toList ++ clause) := by simp
  have boundary : isWordChar ' ' = false := by decide +kernel
  have apart : (t ++ [' ']).endsWord = false := by simpa [Text.endsWord] using boundary
  obtain ⟨m, marked⟩ := exists_markedAt_sort (t ++ [' ']) clause apart
  rw [← whole] at marked
  have even : Even ((t ++ [' ']).count '"') := Text.isClosed_iff_even.mp (closed.append rfl)
  refine (cutAtMarker_split _).unique (.found marked even fun a m' b marked' even' => ?_)
  by_contra short
  have within : a.length ≤ t.length := by
    rw [List.length_append, List.length_singleton] at short
    omega
  obtain ⟨u, rfl⟩ : a <+: t :=
    List.prefix_of_prefix_length_le marked'.starts (List.prefix_append t _) within
  rw [List.append_assoc] at marked'
  have found := (exists_markedAt_iff.mp ⟨m', marked'⟩).2
  rw [unmarked.afterMarker? (Text.isClosed_iff_even.mpr even') follows] at found
  cases found

end Search

/-- Filters that are read as conditions have no marker outside quotes: blanks between two words are next to
a colon, a comma or a keyword, and `by` is none. -/
theorem Text.Readable.unmarked {t : Text} (readable : t.Readable) : Search.Unmarked t := by
  intro a w g rest eq closed letters blank c first folded
  obtain ⟨v, u, rfl, visible, blanks⟩ := exists_of_firstVisible? first
  have plain := Search.isPlain_of_foldCase letters
  have long : 4 ≤ w.length := by
    have length := congrArg List.length letters
    rw [List.length_map] at length
    rw [length]
    decide
  obtain ⟨p, x, closedP, member⟩ := Piece.exists_filter_of_word closed plain long
    (List.forall_mem_cons.mpr ⟨blank, blanks⟩) (Search.ofMark?_of_foldCase folded) u
  rw [← eq] at member
  have inside : IsClosed ([] ++ (p ++ w)) := closedP.append (isClosed_of_not_mem plain.not_mem)
  have beside := (readable.spaced member).beside (p ++ w) g (v ++ c :: x) (by simp) blank inside
  obtain ⟨w, d, rfl, last⟩ := Search.exists_last_of_foldCase letters
  have visibleLast : isBlank d = false := plain.isBlank d (by simp)
  have before : lastVisible? ([] ++ (p ++ (w ++ [d]))) = some d := by
    rw [List.nil_append, ← List.append_assoc, lastVisible?_concat visibleLast]
  have after : firstVisible? (v ++ c :: x) = some c := by
    rw [firstVisible?_append, firstVisible?_of_blank blanks, firstVisible?_cons visible]
    rfl
  rw [before, after] at beside
  rcases beside with mark | mark
  · exact Search.not_isSeparator_of_foldCase (by simp [last]) mark
  · exact Search.not_isSeparator_of_foldCase (by simp [folded]) mark

end IssueQuery
