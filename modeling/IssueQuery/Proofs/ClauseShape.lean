import IssueQuery.Proofs.Pieces
import IssueQuery.Proofs.QueryText
import IssueQuery.Proofs.ValueText

namespace IssueQuery

/-- A stretch of a clause between two blanks: a word, or a quoted text with letters right after it. -/
inductive Chunk : Text → Prop
  | word {w : Text} : w ≠ [] → w.IsPlain → Token.Kind.ofKeyword? w = none → Chunk w
  | quoted {name suffix : Text} : '"' ∉ name → suffix.IsPlain → Chunk (Filter.quote name ++ suffix)

/-- The shape of a clause as reports write it: chunks with a blank between them, all but the last of
which end with a colon or a comma. -/
inductive ClauseShape : Text → Prop
  | chunk {t : Text} : Chunk t → ClauseShape t
  | cons {t u : Text} : Chunk t → (∀ c ∈ t.getLast?, c = ':' ∨ c = ',') → ClauseShape u →
      ClauseShape (t ++ ' ' :: u)

namespace Piece

theorem ofText_quote (t : Text) : ofText ('"' :: t) = consFilter ['"'] (ofWords true (Text.words t)) := by
  rw [ofText, Text.words]
  cases cut : Text.words t with
  | nil => rfl
  | cons w ws =>
    cases w with
    | nil => exact absurd (by simp [cut]) (Text.nil_not_mem_words t)
    | cons d w =>
      dsimp only
      split
      · rw [ofWords_filter (ofMark?_of_mem_quote List.mem_cons_self)]
        rfl
      · rw [ofWords_filter (ofMark?_of_mem_quote List.mem_cons_self), ofWords_quoted, consFilter_consFilter]
        rfl

theorem ofWords_quoted_cons {c : Char} (other : c ≠ '"') (t : Text) :
    ofWords true (Text.words (c :: t)) = consFilter [c] (ofWords true (Text.words t)) := by
  rw [Text.words]
  cases cut : Text.words t with
  | nil => rfl
  | cons w ws =>
    cases w with
    | nil => exact absurd (by simp [cut]) (Text.nil_not_mem_words t)
    | cons d w =>
      dsimp only
      split
      · rw [ofWords_quoted, Text.quotedAfter_cons, Text.quoteStep_of_ne other]
        rfl
      · rw [ofWords_quoted, ofWords_quoted, consFilter_consFilter, Text.quotedAfter_cons,
          Text.quoteStep_of_ne other]
        rfl

/-- Text without a quote goes on as it is inside quotes. -/
theorem ofWords_quoted_append {name : Text} (free : '"' ∉ name) (v t : Text) :
    consFilter v (ofWords true (Text.words (name ++ t))) =
      consFilter (v ++ name) (ofWords true (Text.words t)) := by
  induction name generalizing v with
  | nil => rw [List.nil_append, List.append_nil]
  | cons c name ih =>
    rw [List.mem_cons, not_or] at free
    rw [List.cons_append, ofWords_quoted_cons (Ne.symm free.1), consFilter_consFilter, ih free.2,
      List.append_assoc, List.singleton_append]

end Piece

theorem Text.isBoundary_of_mem_quote {suffix : Text} (plain : suffix.IsPlain) :
    ∀ c ∈ '"' :: suffix, isBoundary c = false := by
  intro c member
  rcases List.mem_cons.mp member with rfl | member
  · decide
  · exact (plain c member).1

namespace Chunk

variable {t u : Text}

/-- A chunk is filter text, whatever stands behind it. -/
theorem ofText_append (chunk : Chunk t) (apart : u.StartsApart) :
    Piece.ofText (t ++ u) = Piece.consFilter t (Piece.ofText u) := by
  cases chunk with
  | word nonempty plain other =>
    have letters : ∀ c ∈ t, isBoundary c = false := fun c member => (plain c member).1
    have notOpening : t ≠ ['('] := by
      rintro rfl
      exact absurd (letters '(' List.mem_cons_self) (by decide)
    have notClosing : t ≠ [')'] := by
      rintro rfl
      exact absurd (letters ')' List.mem_cons_self) (by decide)
    rw [Piece.ofText, Text.words_append_of_startsApart apart, Text.words_letters nonempty letters,
      List.singleton_append, Piece.ofWords_filter (Piece.ofMark?_eq_none_iff.mpr ⟨notOpening, notClosing, other⟩),
      Text.quotedAfter_of_not_mem plain.not_mem]
    rfl
  | @quoted name suffix free plain =>
    have cut : Text.words ('"' :: suffix ++ u) = ('"' :: suffix) :: Text.words u := by
      rw [Text.words_append_of_startsApart apart,
        Text.words_letters (List.cons_ne_nil _ _) (Text.isBoundary_of_mem_quote plain)]
      rfl
    have closed : Text.quotedAfter true ('"' :: suffix) = false := Text.quotedAfter_of_not_mem plain.not_mem false
    have split : Filter.quote name ++ suffix ++ u = '"' :: (name ++ ('"' :: suffix ++ u)) := by
      simp [Filter.quote]
    rw [split, Piece.ofText_quote, Piece.ofWords_quoted_append free, cut, Piece.ofWords_quoted, closed,
      Piece.consFilter_consFilter]
    simp [Filter.quote, Piece.ofText]

theorem isTrimmed (chunk : Chunk t) : t.IsTrimmed := by
  cases chunk with
  | word nonempty plain => exact Text.isTrimmed_of_visible nonempty plain.isBlank
  | @quoted name suffix _ plain =>
    have quoted := Filter.isTrimmed_quote name
    by_cases empty : suffix = []
    · rwa [empty, List.append_nil]
    · exact quoted.append (Text.isTrimmed_of_visible empty plain.isBlank) []

end Chunk

namespace ClauseShape

variable {t u : Text}

/-- A clause is filter text, whatever stands behind it. -/
theorem ofText_append (shape : ClauseShape t) (apart : u.StartsApart) :
    Piece.ofText (t ++ u) = Piece.consFilter t (Piece.ofText u) := by
  induction shape with
  | chunk chunk => exact chunk.ofText_append apart
  | @cons t rest chunk _ _ ih =>
    have blank : Text.StartsApart (' ' :: (rest ++ u)) := by
      intro c first
      cases first
      decide
    rw [List.append_assoc, List.cons_append, chunk.ofText_append blank, Piece.ofText_cons_blank (by decide), ih,
      Piece.consFilter_consFilter, Piece.consFilter_consFilter, List.append_assoc, List.singleton_append]

theorem isTrimmed (shape : ClauseShape t) : t.IsTrimmed := by
  induction shape with
  | chunk chunk => exact chunk.isTrimmed
  | cons chunk _ _ ih => exact chunk.isTrimmed.append ih [' ']

end ClauseShape

end IssueQuery
