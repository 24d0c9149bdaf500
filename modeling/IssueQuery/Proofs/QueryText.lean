import IssueQuery.Formula.OfText
import IssueQuery.Proofs.Blanks
import IssueQuery.Proofs.Parsing
import IssueQuery.Proofs.Placement

namespace IssueQuery

namespace Piece

theorem mem_consFilter {w : Text} {ps : List Piece} {p : Piece} (member : p ∈ consFilter w ps) :
    p ∈ ps ∨ ∃ t, p = .filter (w ++ t) := by
  cases ps with
  | nil => exact Or.inr ⟨[], by rw [List.append_nil]; exact List.mem_singleton.mp member⟩
  | cons r ps =>
    cases r with
    | filter t =>
      rcases List.mem_cons.mp member with rfl | member
      · exact Or.inr ⟨t, rfl⟩
      · exact Or.inl (List.mem_cons_of_mem _ member)
    | keyword | openBracket | closeBracket =>
      rcases List.mem_cons.mp member with rfl | member
      · exact Or.inr ⟨[], by rw [List.append_nil]⟩
      · exact Or.inl member

/-- Every piece but filter text is the mark of a word. -/
theorem exists_mark_of_mem {q : Bool} {ws : List Text} {p : Piece} (member : p ∈ ofWords q ws)
    (other : ∀ t, p ≠ .filter t) : ∃ w ∈ ws, ofMark? w = some p := by
  induction ws generalizing q with
  | nil => cases member
  | cons w ws ih =>
    have behind {q' : Bool} (member : p ∈ ofWords q' ws) : ∃ v ∈ w :: ws, ofMark? v = some p := by
      obtain ⟨v, inRest, mark⟩ := ih member
      exact ⟨v, List.mem_cons_of_mem w inRest, mark⟩
    have joined {q' : Bool} (member : p ∈ consFilter w (ofWords q' ws)) : ∃ v ∈ w :: ws, ofMark? v = some p := by
      rcases mem_consFilter member with member | ⟨t, rfl⟩
      · exact behind member
      · exact absurd rfl (other _)
    cases q with
    | true => exact joined member
    | false =>
      cases mark : ofMark? w with
      | none =>
        rw [ofWords_filter mark] at member
        exact joined member
      | some r =>
        rw [ofWords_mark mark] at member
        rcases List.mem_cons.mp member with rfl | member
        · exact ⟨w, List.mem_cons_self, mark⟩
        · exact behind member

/-- A keyword is `and`, `or` or `not`. -/
theorem kind_of_mem_ofWords {q : Bool} {ws : List Text} {k : Token.Kind} {w : Text}
    (member : .keyword k w ∈ ofWords q ws) : k = .and ∨ k = .or ∨ k = .not := by
  obtain ⟨v, _, mark⟩ := exists_mark_of_mem member nofun
  rcases mark_cases mark with ⟨_, eq⟩ | ⟨_, eq⟩ | ⟨_, _, k', keyword, eq⟩
  · cases eq
  · cases eq
  · cases eq
    exact kind_of_ofKeyword? keyword

/-- Only filter text has quotes. -/
theorem not_mem_quote_of_mem_ofWords {q : Bool} {ws : List Text} {p : Piece} (member : p ∈ ofWords q ws)
    (other : ∀ t, p ≠ .filter t) : '"' ∉ p.text := by
  obtain ⟨w, _, mark⟩ := exists_mark_of_mem member other
  rw [text_mark mark]
  exact not_mem_quote_of_mark mark

/-- A query leaves no quotes open if none of its filters does. -/
theorem isClosed_of_filters {query : Text}
    (filters : ∀ t, .filter t ∈ ofText query → Text.IsClosed t) : Text.IsClosed query := by
  have pieces : ∀ p ∈ ofText query, Text.IsClosed p.text := by
    intro p member
    by_cases isFilter : ∃ t, p = .filter t
    · obtain ⟨t, rfl⟩ := isFilter
      exact filters t member
    · exact Text.isClosed_of_not_mem
        (not_mem_quote_of_mem_ofWords member fun t eq => isFilter ⟨t, eq⟩)
  rw [← text_ofText query]
  generalize ofText query = ps at pieces
  induction ps with
  | nil => rfl
  | cons p ps ih =>
    rw [List.flatMap_cons]
    exact (pieces p List.mem_cons_self).append (ih fun r member => pieces r (List.mem_cons_of_mem _ member))

/-- Puts a word behind, as part of the filter text before it. -/
def snocFilter (w : Text) : List Piece → List Piece
  | [] => [.filter w]
  | [.filter t] => [.filter (t ++ w)]
  | p :: ps => p :: snocFilter w ps

theorem snocFilter_cons {p : Piece} {ps : List Piece} (inner : ps ≠ [] ∨ ∀ t, p ≠ .filter t) (w : Text) :
    snocFilter w (p :: ps) = p :: snocFilter w ps := by
  cases ps with
  | nil =>
    cases p with
    | filter t => simp at inner
    | keyword | openBracket | closeBracket => rfl
  | cons => cases p <;> rfl

theorem snocFilter_consFilter (v w : Text) (ps : List Piece) :
    snocFilter w (consFilter v ps) = consFilter v (snocFilter w ps) := by
  cases ps with
  | nil => rfl
  | cons p ps =>
    cases p with
    | filter t =>
      cases ps with
      | nil => simp [consFilter, snocFilter]
      | cons => rfl
    | keyword | openBracket | closeBracket =>
      rw [consFilter, snocFilter_cons (Or.inl (List.cons_ne_nil _ _)), snocFilter_cons (Or.inr (by simp))]
      · rfl
      all_goals simp

theorem ofWords_append_blank (q : Bool) (ws : List Text) :
    ofWords q (ws ++ [[' ']]) = snocFilter [' '] (ofWords q ws) := by
  induction ws generalizing q with
  | nil => cases q <;> rfl
  | cons w ws ih =>
    cases q with
    | true => rw [List.cons_append, ofWords_quoted, ih, ofWords_quoted, snocFilter_consFilter]
    | false =>
      cases mark : ofMark? w with
      | none => rw [List.cons_append, ofWords_filter mark, ih, ofWords_filter mark, snocFilter_consFilter]
      | some p =>
        rw [List.cons_append, ofWords_mark mark, ih, ofWords_mark mark,
          snocFilter_cons (Or.inr (ne_filter_of_mark mark))]

theorem ofText_append_blank (t : Text) : ofText (t ++ [' ']) = snocFilter [' '] (ofText t) := by
  rw [ofText, Text.words_append_boundary (by decide)]
  exact ofWords_append_blank false _

theorem depthAfter_snocFilter (depth : Nat) (w : Text) (ps : List Piece) :
    depthAfter depth (snocFilter w ps) = depthAfter depth ps := by
  fun_induction snocFilter w ps generalizing depth with
  | case1 | case2 => rfl
  | case3 p ps _ ih =>
    cases p with
    | filter | keyword | openBracket => exact ih _
    | closeBracket =>
      cases depth with
      | zero => rfl
      | succ d => exact ih d

end Piece

namespace Layout

theorem pushFilter_append_blank (l : Layout) (start : Nat) (t : Text) :
    l.pushFilter start (t ++ [' ']) = l.pushFilter start t := by
  unfold pushFilter
  rw [Text.trim_append_blank]
  split
  · rfl
  · rename_i visible
    rw [List.takeWhile_append]
    split
    · rename_i whole
      have blank : t.dropWhile isBlank = [] := by
        have parts := congrArg List.length (List.takeWhile_append_dropWhile (p := isBlank) (l := t))
        rw [List.length_append, whole] at parts
        exact List.eq_nil_of_length_eq_zero (by omega)
      rw [Text.trim, Text.trimStart, blank] at visible
      cases visible
    · rfl

/-- A blank behind the query changes nothing. -/
theorem placeAll_append_blank (l : Layout) (start : Nat) (ps : List Piece) :
    l.placeAll start (Piece.snocFilter [' '] ps) = l.placeAll start ps := by
  fun_induction Piece.snocFilter [' '] ps generalizing l start with
  | case1 => rfl
  | case2 t =>
    rw [placeAll, placeAll, place, place, pushFilter_append_blank]
    rfl
  | case3 p ps _ ih => simp only [placeAll, ih]

end Layout

namespace Formula

/-- How a text is read as a formula: its brackets match, its pieces are laid out as tokens, and the
tokens spell the formula. -/
structure Reads (query : Text) (l : Layout) (f : Formula Clause) (depth : Nat) : Prop where
  brackets : Piece.depthAfter 0 (Piece.ofText query) = some 0
  placed : Layout.empty.placeAll 0 (Piece.ofText query) = .ok l
  spells : Spells .disjunction l.tokens.reverse f depth

theorem tokenize_of_placeAll {query : Text} {l : Layout}
    (brackets : Piece.depthAfter 0 (Piece.ofText query) = some 0)
    (placed : Layout.empty.placeAll 0 (Piece.ofText query) = .ok l) :
    tokenize query = .ok l.tokens.reverse := by
  have closed : l.openBrackets = 0 := Layout.placeAll_openBrackets placed brackets
  rw [tokenize, placed]
  simp [bind, Except.bind, pure, Except.pure, Layout.close, closed]

theorem ofText?_eq_ok_iff {mode : Mode} {maxDepth : Nat} {query : Text} {f : Option (Formula Clause)} :
    ofText? mode maxDepth query = .ok f ↔ Piece.depthAfter 0 (Piece.ofText query) = some 0 ∧
      ∃ l, Layout.empty.placeAll 0 (Piece.ofText query) = .ok l ∧
        ofTokens? maxDepth l.tokens.reverse = .ok f ∧ checkMode mode f = .ok f := by
  constructor
  · intro read
    obtain ⟨_, balanced, read⟩ := bind_eq_ok_iff.mp read
    obtain ⟨tokens, tokenized, read⟩ := bind_eq_ok_iff.mp read
    obtain ⟨g, spelled, allowed⟩ := bind_eq_ok_iff.mp read
    have brackets := (Piece.checkBrackets_ok_iff query).mp balanced
    obtain ⟨l, placed, _⟩ := bind_eq_ok_iff.mp tokenized
    rw [tokenize_of_placeAll brackets placed] at tokenized
    cases tokenized
    have same : g = f := by
      unfold checkMode at allowed
      split at allowed
      · cases allowed
      · exact Except.ok.inj allowed
    rw [same] at spelled allowed
    exact ⟨brackets, l, placed, spelled, allowed⟩
  · rintro ⟨brackets, l, placed, spelled, allowed⟩
    rw [ofText?, (Piece.checkBrackets_ok_iff query).mpr brackets, ok_bind, tokenize_of_placeAll brackets placed,
      ok_bind, spelled, ok_bind, allowed]

theorem checkMode_some_iff {mode : Mode} {f : Formula Clause} :
    checkMode mode (some f) = .ok (some f) ↔ (mode = .search → f.containsOr = false) := by
  unfold checkMode
  split <;> simp_all

theorem ofText?_eq_some_iff {mode : Mode} {maxDepth : Nat} {query : Text} {f : Formula Clause} :
    ofText? mode maxDepth query = .ok (some f) ↔
      (mode = .search → f.containsOr = false) ∧ ∃ l, ∃ depth ≤ maxDepth, Reads query l f depth := by
  rw [ofText?_eq_ok_iff, checkMode_some_iff]
  constructor
  · rintro ⟨brackets, l, placed, spelled, allowed⟩
    obtain ⟨depth, within, spells⟩ := spells_of_ofTokens? spelled
    exact ⟨allowed, l, depth, within, brackets, placed, spells⟩
  · rintro ⟨allowed, l, depth, within, reads⟩
    exact ⟨reads.brackets, l, reads.placed, ofTokens?_of_spells reads.spells within, allowed⟩

/-- Tokens that are read, if there are any, are read as a formula whose leaves are the filters among them. -/
theorem exists_of_ofTokens? {maxDepth : Nat} {ts : List Token} {f : Option (Formula Clause)}
    (read : ofTokens? maxDepth ts = .ok f) (nonempty : ts ≠ []) :
    ∃ g, f = some g ∧ g.leaves = ts.filterMap Token.clause? := by
  obtain ⟨t, ts, rfl⟩ := List.exists_cons_of_ne_nil nonempty
  obtain ⟨g, _, rfl⟩ := map_eq_ok_iff.mp read
  obtain ⟨depth, _, spells⟩ := spells_of_ofTokens? read
  exact ⟨g, rfl, spells.leaves_eq⟩

/-- Filter text that is not blank is a leaf of what the query is read as. -/
theorem exists_leaf_of_filter {mode : Mode} {maxDepth : Nat} {query t : Text} {f : Option (Formula Clause)}
    (read : ofText? mode maxDepth query = .ok f) (member : .filter t ∈ Piece.ofText query)
    (visible : Text.trim t ≠ []) : ∃ g, f = some g ∧ ∃ c ∈ g.leaves, c.text = Text.trim t := by
  obtain ⟨_, l, placed, spelled, _⟩ := ofText?_eq_ok_iff.mp read
  obtain ⟨token, inTokens, kind, text⟩ := Layout.exists_filter_of_placeAll placed member visible
  have inOrder : token ∈ l.tokens.reverse := List.mem_reverse.mpr inTokens
  obtain ⟨g, rfl, leaves⟩ := exists_of_ofTokens? spelled (List.ne_nil_of_mem inOrder)
  refine ⟨g, rfl, token.clause, ?_, text⟩
  rw [leaves]
  exact List.mem_filterMap.mpr ⟨token, inOrder, if_pos kind⟩

/-- A blank behind a query is read over. -/
theorem ofText?_append_blank {mode : Mode} {maxDepth : Nat} {query : Text} {f : Option (Formula Clause)}
    (read : ofText? mode maxDepth query = .ok f) : ofText? mode maxDepth (query ++ [' ']) = .ok f := by
  rw [ofText?_eq_ok_iff] at read ⊢
  rwa [Piece.ofText_append_blank, Piece.depthAfter_snocFilter, Layout.placeAll_append_blank]

end Formula

end IssueQuery
