import IssueQuery.Proofs.Phrases
import Mathlib.Algebra.Group.Nat.Even

namespace IssueQuery

theorem Text.quotedAfter_eq_self_iff (q : Bool) (t : Text) : quotedAfter q t = q ↔ Even (t.count '"') := by
  induction t generalizing q with
  | nil => simp [quotedAfter]
  | cons c t ih =>
    rw [quotedAfter_cons]
    by_cases quote : c = '"'
    · rw [quote, quoteStep, if_pos rfl, List.count_cons_self, Nat.even_add_one, ← ih (!q)]
      simp
    · rw [quoteStep_of_ne quote, List.count_cons_of_ne quote, ih]

/-- A text leaves no quotes open if it has an even number of them. -/
theorem Text.isClosed_iff_even {t : Text} : t.IsClosed ↔ Even (t.count '"') := quotedAfter_eq_self_iff false t

/-- Text that is one filter: it leaves no quotes open, and its only token is the whole text. -/
structure Text.IsFilter (t : Text) : Prop where
  quotes : Even (t.count '"')
  alone : ∃ start stop, tokenize t = .ok [⟨.expression, t, start, stop⟩]

namespace Piece

theorem ne_expression_of_mem {q : Bool} {ws : List Text} {k : Token.Kind} {w : Text}
    (member : .keyword k w ∈ ofWords q ws) : k ≠ .expression := by
  rcases kind_of_mem_ofWords member with rfl | rfl | rfl <;> exact Token.Kind.noConfusion

theorem text_ne_nil_of_mem_ofWords {q : Bool} {ws : List Text} (words : [] ∉ ws) {p : Piece}
    (member : p ∈ ofWords q ws) : p.text ≠ [] := by
  induction ws generalizing q with
  | nil => cases member
  | cons w ws ih =>
    rw [List.mem_cons, not_or] at words
    have joined {q' : Bool} (member : p ∈ consFilter w (ofWords q' ws)) : p.text ≠ [] := by
      rcases mem_consFilter member with member | ⟨t, rfl⟩
      · exact ih words.2 member
      · exact List.append_ne_nil_of_left_ne_nil (Ne.symm words.1) t
    cases q with
    | true => exact joined member
    | false =>
      cases mark : ofMark? w with
      | none =>
        rw [ofWords_filter mark] at member
        exact joined member
      | some r =>
        rw [ofWords_mark mark] at member
        rcases List.mem_cons.mp member with rfl | member
        · rw [text_mark mark]
          exact Ne.symm words.1
        · exact ih words.2 member

/-- Among the pieces of a text, one that is as long as the whole text is alone. -/
theorem ofText_eq_singleton {query : Text} {p : Piece} (member : p ∈ ofText query)
    (long : query.length ≤ p.text.length) : ofText query = [p] := by
  obtain ⟨before, after, split⟩ := List.append_of_mem member
  have whole := congrArg List.length (text_ofText query)
  rw [split] at whole
  simp only [List.flatMap_append, List.flatMap_cons, List.length_append] at whole
  have none (ps : List Piece) (part : ∀ r ∈ ps, r ∈ ofText query) (short : (ps.flatMap text).length = 0) : ps = [] := by
    refine List.eq_nil_iff_forall_not_mem.mpr fun r inside => ?_
    have filled := text_ne_nil_of_mem_ofWords (Text.nil_not_mem_words query) (part r inside)
    exact filled (List.flatMap_eq_nil_iff.mp (List.eq_nil_of_length_eq_zero short) r inside)
  have first := none before (fun r inside => split ▸ List.mem_append_left _ inside) (by omega)
  have last := none after (fun r inside => split ▸ List.mem_append_right _ (List.mem_cons_of_mem p inside)) (by omega)
  rw [split, first, last]
  rfl

end Piece

namespace Formula

/-- A text that is one filter token is one piece. -/
theorem ofText_of_tokenize {query : Text} {start stop : Nat}
    (run : tokenize query = .ok [⟨.expression, query, start, stop⟩]) : Piece.ofText query = [.filter query] := by
  obtain ⟨l, placed, closed⟩ := bind_eq_ok_iff.mp run
  have tokens : l.close query.length = [⟨.expression, query, start, stop⟩] := Except.ok.inj closed
  have member : ⟨.expression, query, start, stop⟩ ∈ l.tokens := by
    have inClosed := List.mem_singleton_self (⟨.expression, query, start, stop⟩ : Token)
    rw [← tokens, Layout.close, List.mem_append] at inClosed
    rcases inClosed with inTokens | added
    · exact List.mem_reverse.mp inTokens
    · cases (List.mem_replicate.mp added).2
  rcases Layout.exists_piece_of_placeAll placed member with none | ⟨before, p, after, split, leaves⟩
  · cases none
  · have inPieces : p ∈ Piece.ofText query := split ▸ List.mem_append_right before List.mem_cons_self
    have keywords : ∀ k w, p = .keyword k w → k ≠ .expression := fun _ _ eq => Piece.ne_expression_of_mem (eq ▸ inPieces)
    obtain ⟨t, rfl, trimmed⟩ := Piece.exists_filter_of_token? leaves keywords rfl
    have whole : query = Text.trim t := trimmed
    obtain ⟨a, b, atT, _⟩ := Text.exists_trim t
    have length := congrArg List.length atT
    rw [← whole, List.length_append, List.length_append] at length
    have single := Piece.ofText_eq_singleton inPieces (show query.length ≤ t.length by omega)
    have text := Piece.text_ofText query
    rw [single, List.flatMap_singleton, Piece.text] at text
    rw [single, text]

theorem writes_leaf {c : Clause} (filter : c.text.IsFilter) : Writes .primary c.text (.leaf c) 0 := by
  obtain ⟨start, stop, run⟩ := filter.alone
  obtain ⟨l, placed, _⟩ := bind_eq_ok_iff.mp run
  have brackets : Piece.depthAfter 0 (Piece.ofText c.text) = some 0 := by
    rw [ofText_of_tokenize run]
    rfl
  rw [tokenize_of_placeAll brackets placed] at run
  refine ⟨Text.isClosed_iff_even.mpr filter.quotes, brackets, l, .leaf ⟨c.text, start, stop⟩, placed, ?_, rfl⟩
  rw [Except.ok.inj run]
  exact .filter rfl

/-- A formula of filters is written as an operand, nested no deeper than it has leaves and connectives. -/
theorem writes_render {f : Formula Clause} (leaves : ∀ c ∈ f.leaves, c.text.IsFilter) :
    ∃ depth ≤ f.size, Writes .operand (f.render Clause.text) f depth := by
  induction f with
  | leaf c => exact ⟨0, Nat.zero_le _, (writes_leaf (leaves c (List.mem_singleton_self c))).imp .primary⟩
  | and p q first second =>
    obtain ⟨d, within, writes⟩ := first fun c member => leaves c (List.mem_append_left _ member)
    obtain ⟨e, within', writes'⟩ := second fun c member => leaves c (List.mem_append_right _ member)
    have group := (((writes.imp .operand).and writes').imp .conjunction).group.imp .primary
    refine ⟨max d e + 1, by rw [size]; omega, ?_⟩
    simpa [render] using group
  | or p q first second =>
    obtain ⟨d, within, writes⟩ := first fun c member => leaves c (List.mem_append_left _ member)
    obtain ⟨e, within', writes'⟩ := second fun c member => leaves c (List.mem_append_right _ member)
    have group := (writes.disjunction.or (writes'.imp .operand)).group.imp .primary
    refine ⟨max d e + 1, by rw [size]; omega, ?_⟩
    simpa [render] using group
  | not p ih =>
    obtain ⟨d, within, writes⟩ := ih leaves
    exact ⟨d + 1, Nat.succ_le_succ within, writes.not⟩

/-- A formula of filters that is rendered is read back, up to the places of its leaves. -/
theorem ofText?_render {f : Formula Clause} {maxDepth : Nat} (leaves : ∀ c ∈ f.leaves, c.text.IsFilter)
    (room : f.size ≤ maxDepth) :
    ∃ g, ofText? .filter maxDepth (f.render Clause.text) = .ok (some g) ∧
      g.map Clause.text = f.map Clause.text := by
  obtain ⟨depth, within, writes⟩ := writes_render leaves
  obtain ⟨l, g, reads, texts⟩ := writes.disjunction.reads
  exact ⟨g, ofText?_eq_some_iff.mpr ⟨nofun, l, depth, Nat.le_trans within room, reads⟩, texts⟩

/-- A formula with each connective and with a leaf that quotes a bracket and a keyword. -/
def sample : Formula Clause :=
  .or (.and (.leaf ⟨"title: \") and (\"".toList, 0, 0⟩) (.leaf ⟨"#popular".toList, 0, 0⟩))
    (.not (.leaf ⟨"votes: 1".toList, 0, 0⟩))

example : sample.render Clause.text = "((title: \") and (\" and #popular) or not votes: 1)".toList := by decide

set_option maxRecDepth 4000 in
theorem ofText?_render_sample :
    (∀ c ∈ sample.leaves, c.text.IsFilter) ∧ sample.size ≤ 6 ∧
      ∃ g, ofText? .filter 6 (sample.render Clause.text) = .ok (some g) ∧
        g.map Clause.text = sample.map Clause.text := by
  have leaves : ∀ c ∈ sample.leaves, c.text.IsFilter := by
    have first : Text.IsFilter "title: \") and (\"".toList := ⟨by decide, 0, 15, rfl⟩
    have second : Text.IsFilter "#popular".toList := ⟨by decide, 0, 7, rfl⟩
    have third : Text.IsFilter "votes: 1".toList := ⟨by decide, 0, 7, rfl⟩
    intro c member
    simp only [sample, Formula.leaves, List.cons_append, List.nil_append, List.mem_cons, List.not_mem_nil, or_false] at member
    rcases member with rfl | rfl | rfl
    · exact first
    · exact second
    · exact third
  have room : sample.size ≤ 6 := by decide
  exact ⟨leaves, room, ofText?_render leaves room⟩

end Formula

end IssueQuery
