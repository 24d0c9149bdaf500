import IssueQuery.Proofs.Rendering

namespace IssueQuery

namespace Text

/-- Blanks and pairs of brackets, with nothing else in a pair either. -/
inductive IsVacant : Text → Prop
  | nil : IsVacant []
  | blank {t : Text} {c : Char} : IsVacant t → isBlank c = true → IsVacant (t ++ [c])
  | pair {t inner : Text} : IsVacant t → IsVacant inner → IsVacant (t ++ '(' :: (inner ++ [')']))

theorem IsVacant.append {t u : Text} (first : t.IsVacant) (second : u.IsVacant) : IsVacant (t ++ u) := by
  induction second with
  | nil => rwa [List.append_nil]
  | blank _ blank ih =>
    rw [← List.append_assoc]
    exact .blank ih blank
  | pair _ inner ih _ =>
    rw [← List.append_assoc]
    exact .pair ih inner

theorem IsVacant.isClosed {t : Text} (vacant : t.IsVacant) : t.IsClosed := by
  induction vacant with
  | nil => rfl
  | blank _ blank ih => exact ih.append (IsBlank.isClosed (List.forall_mem_singleton.mpr blank))
  | pair _ _ first second =>
    have opening : IsClosed ['('] := rfl
    exact first.append (opening.append (second.append rfl))

/-- The characters at `first` and `last` are brackets outside quotes, with nothing but blanks and pairs of
brackets between them. -/
def EmptyPair (query : Text) (first last : Nat) : Prop :=
  ∃ before inner after : Text, query = before ++ '(' :: (inner ++ ')' :: after) ∧ before.IsClosed ∧
    inner.IsVacant ∧ first = before.length ∧ last = first + inner.length + 1

theorem EmptyPair.append {t : Text} {first last : Nat} (pair : EmptyPair t first last) (u : Text) :
    EmptyPair (t ++ u) first last := by
  obtain ⟨before, inner, after, rfl, closed, vacant, atFirst, atLast⟩ := pair
  exact ⟨before, inner, after ++ u, by simp, closed, vacant, atFirst, atLast⟩

theorem EmptyPair.last_lt {t : Text} {first last : Nat} (pair : EmptyPair t first last) : last < t.length := by
  obtain ⟨before, inner, after, rfl, _, _, rfl, rfl⟩ := pair
  simp only [List.length_append, List.length_cons]
  omega

/-- The character at `i` is a blank or belongs to an empty pair of brackets that stands behind `start`. -/
def SpareFrom (start : Nat) (query : Text) (i : Nat) : Prop :=
  (∃ c ∈ query[i]?, isBlank c = true) ∨
    ∃ first last, EmptyPair query first last ∧ start ≤ first ∧ (i = first ∨ i = last)

theorem SpareFrom.append {start i : Nat} {t : Text} (spare : SpareFrom start t i) (u : Text) :
    SpareFrom start (t ++ u) i := by
  rcases spare with ⟨c, place, blank⟩ | ⟨first, last, pair, behind, bracket⟩
  · have within : i < t.length := (List.getElem?_eq_some_iff.mp place).1
    exact Or.inl ⟨c, (List.getElem?_append_left within).trans place, blank⟩
  · exact Or.inr ⟨first, last, pair.append u, behind, bracket⟩

theorem SpareFrom.mono {start start' i : Nat} {t : Text} (spare : SpareFrom start t i) (later : start' ≤ start) :
    SpareFrom start' t i := by
  rcases spare with blank | ⟨first, last, pair, behind, bracket⟩
  · exact Or.inl blank
  · exact Or.inr ⟨first, last, pair, later.trans behind, bracket⟩

/-- Every character of a vacant text outside quotes is spare. -/
theorem IsVacant.spareFrom {before gap : Text} (vacant : gap.IsVacant) (closed : before.IsClosed) {i : Nat}
    (behind : before.length ≤ i) (within : i < (before ++ gap).length) : SpareFrom before.length (before ++ gap) i := by
  induction vacant generalizing before i with
  | nil =>
    rw [List.append_nil] at within
    omega
  | @blank t c _ blank ih =>
    rw [← List.append_assoc] at within ⊢
    by_cases earlier : i < (before ++ t).length
    · exact (ih closed behind earlier).append [c]
    · rw [List.length_append, List.length_singleton] at within
      have last : i = (before ++ t).length := by omega
      refine Or.inl ⟨c, ?_, blank⟩
      rw [last]
      exact List.getElem?_concat_length
  | @pair t inner outer vacant ihOuter ihInner =>
    have closedT := closed.append outer.isClosed
    have opened : IsClosed (before ++ t ++ ['(']) := closedT.append rfl
    have pair : EmptyPair (before ++ t ++ '(' :: (inner ++ [')'])) (before ++ t).length
        ((before ++ t).length + inner.length + 1) := ⟨before ++ t, inner, [], rfl, closedT, vacant, rfl, rfl⟩
    have atStart : before.length ≤ (before ++ t).length := by simp
    rw [← List.append_assoc] at within ⊢
    by_cases earlier : i < (before ++ t).length
    · exact (ihOuter closed behind earlier).append _
    by_cases first : i = (before ++ t).length
    · exact Or.inr ⟨_, _, pair, atStart, Or.inl first⟩
    by_cases last : i = (before ++ t).length + inner.length + 1
    · exact Or.inr ⟨_, _, pair, atStart, Or.inr last⟩
    · have opening : (before ++ t ++ ['(']).length = (before ++ t).length + 1 := List.length_append
      have inside : i < (before ++ t ++ ['('] ++ inner).length := by
        simp only [List.length_append, List.length_cons, List.length_nil] at within earlier first last ⊢
        omega
      have spare := (ihInner opened (by omega) inside).append [')']
      simp only [List.append_assoc, List.singleton_append] at spare ⊢
      refine spare.mono ?_
      simp

end Text

namespace Piece

/-- Keywords and brackets stand outside quotes, if the pieces start quoted or not. -/
def Unquoted : Bool → List Piece → Prop
  | _, [] => True
  | q, p :: ps => ((∀ t, p ≠ .filter t) → q = false) ∧ Unquoted (Text.quotedAfter q p.text) ps

theorem Unquoted.consFilter {q : Bool} {w : Text} {ps : List Piece} (unquoted : Unquoted (Text.quotedAfter q w) ps) :
    Unquoted q (consFilter w ps) := by
  cases ps with
  | nil => exact ⟨fun other => absurd rfl (other w), trivial⟩
  | cons p ps =>
    cases p with
    | filter t =>
      refine ⟨fun other => absurd rfl (other (w ++ t)), ?_⟩
      rw [text, Text.quotedAfter_append]
      exact unquoted.2
    | keyword | openBracket | closeBracket => exact ⟨fun other => absurd rfl (other w), unquoted⟩

theorem unquoted_ofWords (q : Bool) (ws : List Text) : Unquoted q (ofWords q ws) := by
  induction ws generalizing q with
  | nil => trivial
  | cons w ws ih =>
    cases q with
    | true => exact (ih _).consFilter
    | false =>
      cases mark : ofMark? w with
      | none =>
        rw [ofWords_filter mark]
        exact (ih _).consFilter
      | some p =>
        rw [ofWords_mark mark]
        refine ⟨fun _ => rfl, ?_⟩
        rw [text_mark mark, Text.quotedAfter_of_not_mem (not_mem_quote_of_mark mark)]
        exact ih false

end Piece

namespace Token

/-- A token that spans its own text, which stands at `start`. -/
structure Spans (start : Nat) (t : Token) : Prop where
  filled : t.text ≠ []
  start_eq : t.start = start
  stop_eq : t.stop + 1 = start + t.text.length

/-- How a text is left as its tokens, the newest first: blanks and empty pairs of brackets leave none, and
whatever else stands in the text is the text of a token. -/
inductive Laid : Text → List Token → Prop
  | nil : Laid [] []
  | blank {t : Text} {ts : List Token} {c : Char} : Laid t ts → isBlank c = true → Laid (t ++ [c]) ts
  | vacant {t gap : Text} {ts : List Token} : Laid t ts → t.IsClosed → gap.IsVacant → Laid (t ++ gap) ts
  | token {t : Text} {ts : List Token} {u : Token} : Laid t ts → u.Spans t.length →
      (u.kind = .openBracket → u.text = ['('] ∧ t.IsClosed) → (u.kind = .expression → u.text.IsTrimmed) →
      Laid (t ++ u.text) (u :: ts)

namespace Laid

variable {query : Text} {ts : List Token}

theorem blanks (laid : Laid query ts) {t : Text} (blank : t.IsBlank) : Laid (query ++ t) ts := by
  induction t generalizing query with
  | nil => rwa [List.append_nil]
  | cons c t ih =>
    obtain ⟨first, rest⟩ := List.forall_mem_cons.mp blank
    rw [← List.singleton_append, ← List.append_assoc]
    exact ih (laid.blank first) rest

/-- Behind an opening bracket that is the newest token, the text is vacant. -/
theorem exists_open {bracket : Token} (laid : Laid query (bracket :: ts)) (kind : bracket.kind = .openBracket) :
    ∃ before inner : Text, query = before ++ '(' :: inner ∧ Laid before ts ∧ before.IsClosed ∧ inner.IsVacant := by
  -- What comes behind the bracket without leaving a token is vacant, so the bracket is the last token to be put down.
  generalize eq : bracket :: ts = us at laid
  induction laid with
  | nil => cases eq
  | @blank _ _ c _ blank ih =>
    obtain ⟨before, inner, rfl, laid, closed, vacant⟩ := ih eq
    exact ⟨before, inner ++ [c], by simp, laid, closed, vacant.blank blank⟩
  | @vacant _ gap _ _ _ vacant' ih =>
    obtain ⟨before, inner, rfl, laid, closed, vacant⟩ := ih eq
    exact ⟨before, inner ++ gap, by simp, laid, closed, vacant.append vacant'⟩
  | @token t _ _ laid _ opening _ _ =>
    cases eq
    obtain ⟨text, closed⟩ := opening kind
    exact ⟨t, [], by rw [text], laid, closed, .nil⟩

/-- A token stands in the text and spans its own text there. -/
theorem exists_of_mem (laid : Laid query ts) {u : Token} (member : u ∈ ts) :
    ∃ before after, query = before ++ (u.text ++ after) ∧ u.Spans before.length := by
  induction laid with
  | nil => cases member
  | @blank _ _ c _ _ ih =>
    obtain ⟨before, after, rfl, spans⟩ := ih member
    exact ⟨before, after ++ [c], by simp, spans⟩
  | @vacant _ gap _ _ _ _ ih =>
    obtain ⟨before, after, rfl, spans⟩ := ih member
    exact ⟨before, after ++ gap, by simp, spans⟩
  | @token t _ v _ spans _ _ ih =>
    rcases List.mem_cons.mp member with rfl | member
    · exact ⟨t, [], by rw [List.append_nil], spans⟩
    · obtain ⟨before, after, rfl, stands⟩ := ih member
      exact ⟨before, after ++ v.text, by simp, stands⟩

theorem stop_lt (laid : Laid query ts) {u : Token} (member : u ∈ ts) : u.stop < query.length := by
  obtain ⟨before, after, rfl, spans⟩ := laid.exists_of_mem member
  have stop := spans.stop_eq
  simp only [List.length_append]
  omega

theorem separated (laid : Laid query ts) : ts.Pairwise fun newer older => older.stop < newer.start := by
  induction laid with
  | nil => exact .nil
  | blank _ _ ih | vacant _ _ _ ih => exact ih
  | token laid spans _ _ ih =>
    refine .cons (fun older member => ?_) ih
    rw [spans.start_eq]
    exact laid.stop_lt member

theorem isTrimmed (laid : Laid query ts) {u : Token} (member : u ∈ ts) (kind : u.kind = .expression) :
    u.text.IsTrimmed := by
  induction laid with
  | nil => cases member
  | blank _ _ ih | vacant _ _ _ ih => exact ih member
  | token _ _ _ trimmed ih =>
    rcases List.mem_cons.mp member with rfl | member
    · exact trimmed kind
    · exact ih member

/-- A character outside all tokens is a blank or belongs to an empty pair of brackets, and the whole pair
stands outside the tokens. -/
theorem spare_of_outside (laid : Laid query ts) {i : Nat} (within : i < query.length)
    (outside : ∀ u ∈ ts, i < u.start ∨ u.stop < i) :
    (∃ c ∈ query[i]?, isBlank c = true) ∨ ∃ first last, query.EmptyPair first last ∧ (i = first ∨ i = last) ∧
      ∀ u ∈ ts, u.stop < first ∨ last < u.start := by
  induction laid with
  | nil => exact absurd within (Nat.not_lt_zero i)
  | @blank t _ c _ blank ih =>
    by_cases earlier : i < t.length
    · rcases ih earlier outside with ⟨d, place, blank⟩ | ⟨first, last, pair, rest⟩
      · exact Or.inl ⟨d, (List.getElem?_append_left earlier).trans place, blank⟩
      · exact Or.inr ⟨first, last, pair.append [c], rest⟩
    · rw [List.length_append, List.length_singleton] at within
      have last : i = t.length := by omega
      rw [last]
      exact Or.inl ⟨c, List.getElem?_concat_length, blank⟩
  | @vacant t gap ts laid closed vacant ih =>
    by_cases earlier : i < t.length
    · rcases ih earlier outside with ⟨d, place, blank⟩ | ⟨first, last, pair, rest⟩
      · exact Or.inl ⟨d, (List.getElem?_append_left earlier).trans place, blank⟩
      · exact Or.inr ⟨first, last, pair.append gap, rest⟩
    · rcases vacant.spareFrom closed (Nat.le_of_not_lt earlier) within with blank | ⟨first, last, pair, behind, bracket⟩
      · exact Or.inl blank
      · exact Or.inr ⟨first, last, pair, bracket, fun u member => Or.inl ((laid.stop_lt member).trans_le behind)⟩
  | @token t ts u laid spans _ _ ih =>
    have start := spans.start_eq
    have stop := spans.stop_eq
    obtain ⟨atNew, atOld⟩ := List.forall_mem_cons.mp outside
    rw [List.length_append] at within
    have earlier : i < t.length := by omega
    rcases ih earlier atOld with ⟨d, place, blank⟩ | ⟨first, last, pair, bracket, apart⟩
    · exact Or.inl ⟨d, (List.getElem?_append_left earlier).trans place, blank⟩
    · have before : last < u.start := start ▸ pair.last_lt
      exact Or.inr ⟨first, last, pair.append u.text, bracket, List.forall_mem_cons.mpr ⟨Or.inr before, apart⟩⟩

end Laid

end Token

namespace Layout

variable {l next : Layout} {query : Text} {p : Piece}

/-- Laying out a piece leaves it as its token, as blanks, or as a part of an empty pair of brackets. -/
theorem place_laid (laid : Token.Laid query l.tokens) (step : l.place query.length p = .ok next) (filled : p.text ≠ [])
    (keywords : ∀ k w, p = .keyword k w → k = .and ∨ k = .or ∨ k = .not)
    (unquoted : (∀ t, p ≠ .filter t) → query.IsClosed) : Token.Laid (query ++ p.text) next.tokens := by
  cases p with
  | filter text =>
    cases step
    rw [pushFilter_eq, Piece.text]
    rcases Piece.token?_filter_split query.length text with ⟨blank, none⟩ |
      ⟨a, b, t, some, split, before, after, kind, trimmed, start, stop⟩
    · rw [none]
      exact laid.blanks blank
    · rw [some, split, ← List.append_assoc, ← List.append_assoc]
      rw [← List.length_append] at start stop
      have spanned := (laid.blanks before).token ⟨trimmed.ne_nil, start, stop⟩ (by simp [kind]) fun _ => trimmed
      exact spanned.blanks after
  | keyword k w =>
    obtain ⟨_, rfl⟩ := pushKeyword_ok_iff.mp step
    have length := List.length_pos_iff.mpr filled
    rw [Piece.text] at length
    have connects : k ≠ .openBracket ∧ k ≠ .expression := by
      rcases keywords k w rfl with rfl | rfl | rfl <;> decide
    refine laid.token (u := ⟨k, w, query.length, query.length + w.length - 1⟩) ⟨filled, rfl, ?_⟩
      (fun kind => absurd kind connects.1) (fun kind => absurd kind connects.2)
    simp only
    omega
  | openBracket =>
    obtain ⟨_, rfl⟩ := pushOpen_ok_iff.mp step
    have closed : query.IsClosed := unquoted fun t eq => by cases eq
    exact laid.token (u := ⟨.openBracket, ['('], query.length, query.length⟩) ⟨List.cons_ne_nil _ _, rfl, rfl⟩
      (fun _ => ⟨rfl, closed⟩) (fun kind => by cases kind)
  | closeBracket =>
    rcases pushClose_ok_iff.mp step with ⟨_, rfl⟩ | ⟨opens, rfl⟩
    · exact laid.token (u := ⟨.closeBracket, [')'], query.length, query.length⟩) ⟨List.cons_ne_nil _ _, rfl, rfl⟩
        (fun kind => by cases kind) (fun kind => by cases kind)
    · cases eq : l.tokens with
      | nil => simp [preceding, eq] at opens
      | cons bracket ts =>
        rw [eq] at laid
        obtain ⟨before, inner, rfl, laid, closed, vacant⟩ := laid.exists_open (by simpa [preceding, eq] using opens)
        have gap : Text.IsVacant ('(' :: (inner ++ [')'])) := .pair .nil vacant
        simpa [Piece.text] using laid.vacant closed gap

theorem placeAll_laid {final : Layout} {ps : List Piece} (laid : Token.Laid query l.tokens)
    (run : l.placeAll query.length ps = .ok final) (filled : ∀ p ∈ ps, p.text ≠ [])
    (keywords : ∀ k w, .keyword k w ∈ ps → k = .and ∨ k = .or ∨ k = .not)
    (unquoted : Piece.Unquoted (Text.quotedAfter false query) ps) :
    Token.Laid (query ++ ps.flatMap Piece.text) final.tokens := by
  induction ps generalizing l query with
  | nil =>
    cases run
    rwa [List.flatMap_nil, List.append_nil]
  | cons p ps ih =>
    obtain ⟨next, step, rest⟩ := bind_eq_ok_iff.mp run
    obtain ⟨first, others⟩ := List.forall_mem_cons.mp filled
    obtain ⟨closed, behind⟩ := unquoted
    have laid' := place_laid laid step first (fun k w eq => keywords k w (eq ▸ List.mem_cons_self)) closed
    rw [← List.length_append] at rest
    rw [← Text.quotedAfter_append] at behind
    rw [List.flatMap_cons, ← List.append_assoc]
    exact ih laid' rest others (fun k w member => keywords k w (List.mem_cons_of_mem p member)) behind

/-- A query is laid out as its tokens. -/
theorem laid_of_placeAll {final : Layout} (run : empty.placeAll 0 (Piece.ofText query) = .ok final) :
    Token.Laid query final.tokens := by
  have filled : ∀ p ∈ Piece.ofText query, p.text ≠ [] :=
    fun _ => Piece.text_ne_nil_of_mem_ofWords (Text.nil_not_mem_words query)
  have start : Token.Laid [] empty.tokens := .nil
  have laid := placeAll_laid start run filled (fun _ _ => Piece.kind_of_mem_ofWords)
    (Piece.unquoted_ofWords false query.words)
  rwa [List.nil_append, Piece.text_ofText] at laid

end Layout

/-- Tokens of a query that lose nothing of it. They stand in the order of the text and none overlaps another. Each
has the very text that it spans, and the text of a filter neither starts nor ends with a blank. What no token spans
is blank or an empty pair of brackets outside quotes, which has been removed as a whole. -/
structure Token.Cover (query : Text) (ts : List Token) : Prop where
  spans : ∀ t ∈ ts, t.start ≤ t.stop ∧ t.stop < query.length ∧
    t.text = (query.drop t.start).take (t.stop + 1 - t.start)
  separated : ts.Pairwise fun t u => t.stop < u.start
  trimmed : ∀ t ∈ ts, t.kind = .expression → t.text.IsTrimmed
  outside : ∀ i < query.length, (∀ t ∈ ts, i < t.start ∨ t.stop < i) →
    (∃ c ∈ query[i]?, isBlank c = true) ∨ ∃ first last, query.EmptyPair first last ∧ (i = first ∨ i = last) ∧
      ∀ t ∈ ts, t.stop < first ∨ last < t.start

theorem Token.Laid.cover {query : Text} {ts : List Token} (laid : Laid query ts) : Cover query ts.reverse := by
  refine ⟨fun t member => ?_, List.pairwise_reverse.mpr laid.separated,
    fun t member => laid.isTrimmed (List.mem_reverse.mp member), fun i within outside => ?_⟩
  · obtain ⟨before, after, split, spans⟩ := laid.exists_of_mem (List.mem_reverse.mp member)
    have filled := List.length_pos_iff.mpr spans.filled
    have stop := spans.stop_eq
    have length : t.stop + 1 - before.length = t.text.length := by omega
    refine ⟨?_, laid.stop_lt (List.mem_reverse.mp member), ?_⟩
    · rw [spans.start_eq]
      omega
    · rw [spans.start_eq, length, split, List.drop_left, List.take_left]
  · simp only [List.mem_reverse] at outside ⊢
    exact laid.spare_of_outside within outside

/-- Nothing of a query is lost: its tokens are those that cover it, and then the brackets that are put in at its
end. -/
theorem tokenize_covers {query : Text} {ts : List Token} (tokenized : tokenize query = .ok ts) :
    ∃ written added, ts = written ++ List.replicate added ⟨.closeBracket, [')'], query.length, query.length⟩ ∧
      Token.Cover query written := by
  obtain ⟨l, placed, eq⟩ := bind_eq_ok_iff.mp tokenized
  cases eq
  exact ⟨l.tokens.reverse, l.openBrackets, rfl, (Layout.laid_of_placeAll placed).cover⟩

set_option maxRecDepth 4000 in
/-- An empty pair with another one in it, a pair in quotes, and two brackets that are closed at the end. -/
theorem tokenize_covers_nested :
    let query : Text := "( ( () ) é: \"()\"  and (".toList
    let added : Token := ⟨.closeBracket, [')'], 23, 23⟩
    let ts : List Token := [⟨.openBracket, ['('], 0, 0⟩, ⟨.expression, "é: \"()\"".toList, 9, 15⟩,
      ⟨.and, "and".toList, 18, 20⟩, ⟨.openBracket, ['('], 22, 22⟩, added, added]
    tokenize query = .ok ts ∧
      ∃ written n, ts = written ++ List.replicate n added ∧ Token.Cover query written := by
  intro query added ts
  have tokenized : tokenize query = .ok ts := rfl
  exact ⟨tokenized, tokenize_covers tokenized⟩

end IssueQuery
