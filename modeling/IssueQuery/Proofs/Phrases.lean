import IssueQuery.Proofs.QueryText

namespace IssueQuery

theorem Text.startsApart_blank (t : Text) : StartsApart (' ' :: t) := by
  intro c first
  cases first
  decide

theorem Text.endsApart_blank (t : Text) : EndsApart (t ++ [' ']) := by
  intro c last
  rw [List.getLast?_concat] at last
  cases last
  decide

namespace Layout

theorem afterOperand_of_spells {l base : Layout} {phrase : Formula.Phrase} {ts : List Token}
    {f : Formula Clause} {depth : Nat} (tokens : l.tokens.reverse = base.tokens.reverse ++ ts)
    (spells : Formula.Spells phrase ts f depth) : l.afterOperand = true := by
  obtain ⟨us, t, rfl, ends⟩ := spells.endsOperand_getLast
  have first : l.tokens = t :: (us.reverse ++ base.tokens) := by
    rw [← List.reverse_reverse l.tokens, tokens]
    simp
  rw [afterOperand, preceding, first]
  exact ends

theorem pushFilter_cons_blank (l : Layout) (start : Nat) (t : Text) :
    l.pushFilter start (' ' :: t) = l.pushFilter (start + 1) t := by
  have width : ((' ' :: t).takeWhile isBlank).length = (t.takeWhile isBlank).length + 1 := by
    rw [List.takeWhile_cons_of_pos (by decide), List.length_cons]
  unfold pushFilter
  rw [Text.trim_cons_blank, width, Nat.add_assoc start 1, Nat.add_comm 1]

/-- A blank in front of the pieces moves them by one place. -/
theorem placeAll_cons_blank (l : Layout) (start : Nat) (ps : List Piece) :
    l.placeAll start (Piece.consFilter [' '] ps) = l.placeAll (start + 1) ps := by
  cases ps with
  | nil => rfl
  | cons p ps =>
    cases p with
    | filter t =>
      have width : start + (t.length + 1) = start + 1 + t.length := by omega
      simp only [Piece.consFilter, List.singleton_append, placeAll, place, pushFilter_cons_blank, Piece.text,
        List.length_cons, width]
    | keyword | openBracket | closeBracket => rfl

end Layout

namespace Formula

/-- How a text is written as a phrase: it leaves no quotes open, its brackets match, and its tokens spell
the formula up to the places of the leaves. -/
structure Writes (phrase : Phrase) (query : Text) (f : Formula Clause) (depth : Nat) : Prop where
  closed : query.IsClosed
  brackets : Piece.depthAfter 0 (Piece.ofText query) = some 0
  placed : ∃ l g, Layout.empty.placeAll 0 (Piece.ofText query) = .ok l ∧ Spells phrase l.tokens.reverse g depth ∧
    g.map Clause.text = f.map Clause.text

namespace Writes

variable {phrase : Phrase} {query : Text} {f : Formula Clause} {depth : Nat}

theorem imp {phrase' : Phrase} (writes : Writes phrase query f depth)
    (looser : ∀ {ts g}, Spells phrase ts g depth → Spells phrase' ts g depth) : Writes phrase' query f depth := by
  obtain ⟨l, g, placed, spells, texts⟩ := writes.placed
  exact ⟨writes.closed, writes.brackets, l, g, placed, looser spells, texts⟩

/-- An operand is a whole formula. -/
theorem disjunction (writes : Writes .operand query f depth) : Writes .disjunction query f depth :=
  (writes.imp .operand).imp .conjunction

/-- A phrase is laid out on top of whatever waits for an operand. -/
theorem placeAll (writes : Writes phrase query f depth) {base : Layout} (ready : base.afterOperand = false)
    (start : Nat) :
    ∃ final ts g, base.placeAll start (Piece.ofText query) = .ok final ∧ final.openBrackets = base.openBrackets ∧
      final.tokens.reverse = base.tokens.reverse ++ ts ∧ Spells phrase ts g depth ∧
      g.map Clause.text = f.map Clause.text := by
  obtain ⟨l, g, placed, spells, texts⟩ := writes.placed
  obtain ⟨final, run, above⟩ := (Layout.above_empty base).placeAll ready placed writes.brackets start
  obtain ⟨⟨ts, tokens, same⟩, brackets⟩ := above
  have respelled : ts.reverse.map Token.spelling = l.tokens.reverse.map Token.spelling := by
    rw [List.map_reverse, same, List.map_reverse]
  obtain ⟨h, spells', texts'⟩ := spells.respell respelled
  have none : l.openBrackets = 0 := Layout.placeAll_openBrackets placed writes.brackets
  refine ⟨final, ts.reverse, h, run, ?_, by rw [tokens, List.reverse_append], spells', texts'.trans texts⟩
  rw [brackets, none, Nat.zero_add]

/-- Brackets around a text make it an operand. -/
theorem group (writes : Writes .disjunction query f depth) :
    Writes .primary ('(' :: (query ++ [')'])) f (depth + 1) := by
  have pieces : Piece.ofText ('(' :: (query ++ [')'])) = .openBracket :: (Piece.ofText query ++ [.closeBracket]) := by
    have opening := Piece.ofText_append_open (t := []) rfl (query ++ [')'])
    rwa [Piece.ofText_append_close writes.closed] at opening
  let below : Layout := { Layout.empty.push .openBracket ['('] 0 0 with openBrackets := 1 }
  have ready : below.afterOperand = false := rfl
  obtain ⟨inner, ts, g, run, _, tokens, spells, texts⟩ := writes.placeAll ready 1
  obtain ⟨stop, rest⟩ := Layout.exists_placeAll_append run [.closeBracket]
  let final : Layout := { inner.push .closeBracket [')'] stop stop with openBrackets := inner.openBrackets - 1 }
  have close : inner.place stop .closeBracket = .ok final :=
    Layout.pushClose_ok_iff.mpr (Or.inl ⟨Layout.afterOperand_of_spells tokens spells, rfl⟩)
  refine ⟨(show Text.IsClosed ['('] from rfl).append (writes.closed.append rfl), ?_, final, g, ?_, ?_, texts⟩
  · rw [pieces]
    exact Piece.depthAfter_group writes.brackets 0 []
  · rw [pieces]
    exact rest.trans (Layout.placeAll_cons close [])
  · have whole : final.tokens.reverse = ⟨.openBracket, ['('], 0, 0⟩ :: (ts ++ [⟨.closeBracket, [')'], stop, stop⟩]) := by
      simp [final, Layout.push, tokens, below, Layout.empty]
    rw [whole]
    exact .group rfl rfl spells

/-- A word between blanks, where it is a keyword. -/
theorem ofText_connect {word query₁ query₂ : Text} {k : Token.Kind} (closed : query₁.IsClosed)
    (alone : Text.words word = [word]) (keyword : Piece.ofMark? word = some (.keyword k word)) :
    Piece.ofText (query₁ ++ ' ' :: (word ++ ' ' :: query₂)) =
      Piece.snocFilter [' '] (Piece.ofText query₁) ++
        .keyword k word :: Piece.consFilter [' '] (Piece.ofText query₂) := by
  have closedBlank : Text.IsClosed (query₁ ++ [' ']) := closed.append rfl
  have pieces := Piece.ofText_append_keyword closedBlank (Text.endsApart_blank query₁) (Text.startsApart_blank query₂)
    alone keyword
  rw [Piece.ofText_append_blank, Piece.ofText_cons_blank (by decide)] at pieces
  rw [← pieces]
  simp

/-- A connective between two texts. -/
theorem connect {word query₁ query₂ : Text} {k : Token.Kind} {phrase₁ phrase₂ : Phrase} {f₁ f₂ : Formula Clause}
    {depth₁ depth₂ : Nat} {join : Formula Clause → Formula Clause → Formula Clause}
    (first : Writes phrase₁ query₁ f₁ depth₁) (second : Writes phrase₂ query₂ f₂ depth₂) (binary : k = .and ∨ k = .or)
    (alone : Text.words word = [word]) (keyword : Piece.ofMark? word = some (.keyword k word))
    (spells : ∀ {ts us : List Token} {t : Token} {g₁ g₂}, Spells phrase₁ ts g₁ depth₁ → t.kind = k →
      Spells phrase₂ us g₂ depth₂ → Spells phrase (ts ++ t :: us) (join g₁ g₂) depth)
    (texts : ∀ {g₁ g₂}, g₁.map Clause.text = f₁.map Clause.text → g₂.map Clause.text = f₂.map Clause.text →
      (join g₁ g₂).map Clause.text = (join f₁ f₂).map Clause.text) :
    Writes phrase (query₁ ++ ' ' :: (word ++ ' ' :: query₂)) (join f₁ f₂) depth := by
  obtain ⟨m, g₁, run₁, spells₁, texts₁⟩ := first.placed
  rw [← Layout.placeAll_append_blank] at run₁
  obtain ⟨start, rest⟩ := Layout.exists_placeAll_append run₁
    (.keyword k word :: Piece.consFilter [' '] (Piece.ofText query₂))
  have tokens₁ : m.tokens.reverse = Layout.empty.tokens.reverse ++ m.tokens.reverse := rfl
  have operand := Layout.afterOperand_of_spells tokens₁ spells₁
  let below : Layout := m.push k word start (start + word.length - 1)
  have step : m.place start (.keyword k word) = .ok below := by
    refine Layout.pushKeyword_ok_iff.mpr ⟨?_, rfl⟩
    rcases binary with rfl | rfl <;> exact operand
  have ready : below.afterOperand = false := by rcases binary with rfl | rfl <;> rfl
  obtain ⟨l, us, g₂, run₂, _, tokens, spells₂, texts₂⟩ := second.placeAll ready (start + word.length + 1)
  have free := Piece.not_mem_quote_of_mark keyword
  refine ⟨?_, ?_, l, join g₁ g₂, ?_, ?_, texts texts₁ texts₂⟩
  · have blank : Text.IsClosed [' '] := rfl
    exact first.closed.append (blank.append ((Text.isClosed_of_not_mem free).append (blank.append second.closed)))
  · rw [ofText_connect first.closed alone keyword, Piece.depthAfter_append, Piece.depthAfter_snocFilter, first.brackets]
    exact (Piece.depthAfter_consFilter 0 [' '] _).trans second.brackets
  · rw [ofText_connect first.closed alone keyword, rest, Layout.placeAll_cons step, Layout.placeAll_cons_blank]
    exact run₂
  · rw [tokens, show below.tokens.reverse = m.tokens.reverse ++ [⟨k, word, start, start + word.length - 1⟩] from
      List.reverse_cons, List.append_assoc]
    exact spells spells₁ rfl spells₂

theorem and {query₁ query₂ : Text} {f₁ f₂ : Formula Clause} {depth₁ depth₂ : Nat}
    (first : Writes .conjunction query₁ f₁ depth₁) (second : Writes .operand query₂ f₂ depth₂) :
    Writes .conjunction (query₁ ++ ' ' :: ("and".toList ++ ' ' :: query₂)) (.and f₁ f₂) (max depth₁ depth₂) :=
  first.connect second (Or.inl rfl) (by decide) (by decide) Spells.and fun first second => by
    simp only [map, first, second]

theorem or {query₁ query₂ : Text} {f₁ f₂ : Formula Clause} {depth₁ depth₂ : Nat}
    (first : Writes .disjunction query₁ f₁ depth₁) (second : Writes .conjunction query₂ f₂ depth₂) :
    Writes .disjunction (query₁ ++ ' ' :: ("or".toList ++ ' ' :: query₂)) (.or f₁ f₂) (max depth₁ depth₂) :=
  first.connect second (Or.inr rfl) (by decide) (by decide) Spells.or fun first second => by
    simp only [map, first, second]

theorem not (writes : Writes .operand query f depth) :
    Writes .operand ("not".toList ++ ' ' :: query) (.not f) (depth + 1) := by
  have pieces : Piece.ofText ("not".toList ++ ' ' :: query) =
      .keyword .not "not".toList :: Piece.consFilter [' '] (Piece.ofText query) := by
    have split := Piece.ofText_append_keyword (k := .not) (w := "not".toList) (t := []) rfl (by simp [Text.EndsApart])
      (Text.startsApart_blank query) (by decide) (by decide)
    rwa [Piece.ofText_cons_blank (by decide)] at split
  let below : Layout := Layout.empty.push .not "not".toList 0 2
  have ready : below.afterOperand = false := rfl
  obtain ⟨l, ts, g, run, _, tokens, spells, texts⟩ := writes.placeAll ready 4
  refine ⟨?_, ?_, l, .not g, ?_, ?_, by simp only [map, texts]⟩
  · exact (Text.isClosed_of_not_mem (by decide : '"' ∉ "not".toList ++ [' '])).append writes.closed
  · rw [pieces]
    exact (Piece.depthAfter_consFilter 0 [' '] _).trans writes.brackets
  · rw [pieces]
    exact (Layout.placeAll_cons_blank below 3 _).trans run
  · rw [tokens]
    exact .not rfl spells

theorem reads (writes : Writes .disjunction query f depth) :
    ∃ l g, Reads query l g depth ∧ g.map Clause.text = f.map Clause.text := by
  obtain ⟨l, g, placed, spells, texts⟩ := writes.placed
  exact ⟨l, g, ⟨writes.brackets, placed, spells⟩, texts⟩

end Writes

theorem Reads.writes {query : Text} {l : Layout} {f : Formula Clause} {depth : Nat} (reads : Reads query l f depth)
    (closed : query.IsClosed) : Writes .disjunction query f depth :=
  ⟨closed, reads.brackets, l, f, reads.placed, reads.spells, rfl⟩

end Formula

end IssueQuery
