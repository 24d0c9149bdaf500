import IssueQuery.Proofs.Coverage
import IssueQuery.Proofs.Succession

namespace IssueQuery

namespace Token

/-- Every token may follow the one before it, and the first one may start a query. -/
def InOrder (ts : List Token) : Prop :=
  ∀ before t after, ts = before ++ t :: after → t.kind.MayFollow (before.getLast?.map kind)

theorem Placed.inOrder {ts : List Token} (placed : Placed ts) : InOrder ts.reverse := by
  intro before t after split
  have newestFirst : ts = after.reverse ++ t :: before.reverse := by
    rw [List.reverse_eq_iff.mp split]
    simp
  have follows := placed t before.reverse (newestFirst ▸ List.suffix_append _ _)
  rwa [List.head?_reverse] at follows

end Token

/-- Each token that a query is written with may follow the one before it; only the brackets put in at the end of
the query may follow any token. It is the same after every piece of the query, whatever comes behind it: also when
a closing bracket has just removed the bracket that it follows, and if a later piece is refused. -/
theorem tokens_inOrder (query : Text) :
    (∀ ts, tokenize query = .ok ts → ∃ written added,
      ts = written ++ List.replicate added ⟨.closeBracket, [')'], query.length, query.length⟩ ∧
        (∀ t ∈ written, t.stop < query.length) ∧ Token.InOrder written) ∧
      ∀ ps qs l, Piece.ofText query = ps ++ qs → Layout.empty.placeAll 0 ps = .ok l →
        Token.InOrder l.tokens.reverse := by
  constructor
  · intro ts tokenized
    obtain ⟨l, placed, eq⟩ := bind_eq_ok_iff.mp tokenized
    cases eq
    have laid := Layout.laid_of_placeAll placed
    exact ⟨l.tokens.reverse, l.openBrackets, rfl, fun t member => laid.stop_lt (List.mem_reverse.mp member),
      (Layout.placed_of_placeAll placed).inOrder⟩
  · exact fun ps qs l pieces run => (Layout.placed_of_pieces pieces run).inOrder

set_option maxRecDepth 4000 in
/-- A pair of brackets is removed behind `and`, so `not` comes to stand there; two brackets are closed at the end. -/
theorem tokens_inOrder_sample :
    let query : Text := "( a: 1 and () not (b: 2".toList
    let added : Token := ⟨.closeBracket, [')'], 23, 23⟩
    let start : List Token := [⟨.openBracket, ['('], 0, 0⟩, ⟨.expression, "a: 1".toList, 2, 5⟩, ⟨.and, "and".toList, 7, 9⟩]
    let rest : List Token := [⟨.not, "not".toList, 14, 16⟩, ⟨.openBracket, ['('], 18, 18⟩,
      ⟨.expression, "b: 2".toList, 19, 22⟩]
    let ps : List Piece := [.openBracket, .filter " a: 1 ".toList, .keyword .and "and".toList, .filter [' '],
      .openBracket, .closeBracket]
    let qs : List Piece := [.filter [' '], .keyword .not "not".toList, .filter [' '], .openBracket,
      .filter "b: 2".toList]
    (tokenize query = .ok (start ++ rest ++ [added, added]) ∧
        ∃ written n, start ++ rest ++ [added, added] = written ++ List.replicate n added ∧
          (∀ t ∈ written, t.stop < 23) ∧ Token.InOrder written) ∧
      Piece.ofText query = ps ++ qs ∧ Layout.empty.placeAll 0 ps = .ok ⟨start.reverse, 1⟩ ∧ Token.InOrder start := by
  intro query added start rest ps qs
  have tokenized : tokenize query = .ok (start ++ rest ++ [added, added]) := rfl
  have pieces : Piece.ofText query = ps ++ qs := rfl
  have run : Layout.empty.placeAll 0 ps = .ok ⟨start.reverse, 1⟩ := rfl
  obtain ⟨whole, steps⟩ := tokens_inOrder query
  exact ⟨⟨tokenized, whole _ tokenized⟩, pieces, run, steps ps qs _ pieces run⟩

end IssueQuery
