import IssueQuery.Formula.OfTokens

namespace IssueQuery

/-- A token without its place in the query. -/
def Token.spelling (t : Token) : Token.Kind × Text := (t.kind, t.text)

def Token.clause (t : Token) : Clause := ⟨t.text, t.start, t.stop⟩

/-- The leaf that a filter becomes. -/
def Token.clause? (t : Token) : Option Clause := if t.kind = .expression then some t.clause else none

theorem Token.map_spelling_eq_append {ts us vs : List Token} {t : Token}
    (same : us.map spelling = (ts ++ t :: vs).map spelling) :
    ∃ left u right, us = left ++ u :: right ∧ left.map spelling = ts.map spelling ∧
      u.kind = t.kind ∧ right.map spelling = vs.map spelling := by
  rw [List.map_append, List.map_cons] at same
  obtain ⟨left, rest, rfl, atLeft, atRest⟩ := List.map_eq_append_iff.mp same
  obtain ⟨u, right, rfl, atU, atRight⟩ := List.map_eq_cons_iff.mp atRest
  exact ⟨left, u, right, rfl, atLeft, congrArg Prod.fst atU, atRight⟩

namespace Formula

/-- The phrases of a query, from the loosest to the tightest. -/
inductive Phrase where
  | disjunction | conjunction | operand | primary
  deriving DecidableEq, Repr

/-- The grammar of formulas. `Spells phrase ts f depth` says that the tokens `ts` form a phrase that
spells `f`, and that the most deeply enclosed of them stands under `depth` brackets and `not`s. Both
binary connectives group to the left. -/
inductive Spells : Phrase → List Token → Formula Clause → Nat → Prop
  | filter {t : Token} : t.kind = .expression → Spells .primary [t] (.leaf ⟨t.text, t.start, t.stop⟩) 0
  | group {opening closing : Token} {ts f depth} : opening.kind = .openBracket →
      closing.kind = .closeBracket → Spells .disjunction ts f depth →
      Spells .primary (opening :: (ts ++ [closing])) f (depth + 1)
  | primary {ts f depth} : Spells .primary ts f depth → Spells .operand ts f depth
  | not {t : Token} {ts f depth} : t.kind = .not → Spells .operand ts f depth →
      Spells .operand (t :: ts) (.not f) (depth + 1)
  | operand {ts f depth} : Spells .operand ts f depth → Spells .conjunction ts f depth
  | and {t : Token} {ts us f g left right} : Spells .conjunction ts f left → t.kind = .and →
      Spells .operand us g right → Spells .conjunction (ts ++ t :: us) (.and f g) (max left right)
  | conjunction {ts f depth} : Spells .conjunction ts f depth → Spells .disjunction ts f depth
  | or {t : Token} {ts us f g left right} : Spells .disjunction ts f left → t.kind = .or →
      Spells .conjunction us g right → Spells .disjunction (ts ++ t :: us) (.or f g) (max left right)

namespace Spells

variable {phrase : Phrase} {ts : List Token} {f : Formula Clause} {depth : Nat}

theorem ne_nil (h : Spells phrase ts f depth) : ts ≠ [] := by
  induction h with
  | filter | group | not => exact List.cons_ne_nil _ _
  | primary _ ih | operand _ ih | conjunction _ ih => exact ih
  | and | or => simp

/-- The last token of a phrase ends an operand, so a connective or a closing bracket may follow. -/
theorem endsOperand_getLast (h : Spells phrase ts f depth) :
    ∃ us t, ts = us ++ [t] ∧ t.kind.endsOperand = true := by
  induction h with
  | @filter t kind => exact ⟨[], t, rfl, by rw [kind]; rfl⟩
  | @group opening closing ts _ _ _ kind => exact ⟨opening :: ts, closing, rfl, by rw [kind]; rfl⟩
  | primary _ ih | operand _ ih | conjunction _ ih => exact ih
  | @not t _ _ _ _ _ ih =>
    obtain ⟨us, last, rfl, ends⟩ := ih
    exact ⟨t :: us, last, rfl, ends⟩
  | @and t ts _ _ _ _ _ _ _ _ _ ih | @or t ts _ _ _ _ _ _ _ _ _ ih =>
    obtain ⟨us, last, rfl, ends⟩ := ih
    exact ⟨ts ++ t :: us, last, by simp, ends⟩

/-- The leaves of what a phrase spells are its filters, in order. -/
theorem leaves_eq (h : Spells phrase ts f depth) : f.leaves = ts.filterMap Token.clause? := by
  induction h with
  | filter kind => simp [leaves, Token.clause?, Token.clause, kind]
  | group opens closes _ ih => simp [ih, Token.clause?, opens, closes]
  | primary _ ih | operand _ ih | conjunction _ ih => exact ih
  | not negates _ ih => simp [leaves, ih, Token.clause?, negates]
  | and _ connects _ leftIh rightIh | or _ connects _ leftIh rightIh =>
    simp [leaves, leftIh, rightIh, Token.clause?, connects]

/-- Positions play no part in the grammar: tokens of the same kinds and texts spell the same formula
up to the positions of its leaves. -/
theorem respell (h : Spells phrase ts f depth) {us : List Token}
    (same : us.map Token.spelling = ts.map Token.spelling) :
    ∃ g, Spells phrase us g depth ∧ g.map Clause.text = f.map Clause.text := by
  induction h generalizing us with
  | @filter t kind =>
    obtain ⟨u, rfl, eq⟩ := List.map_eq_singleton_iff.mp same
    simp only [Token.spelling, Prod.mk.injEq] at eq
    exact ⟨_, .filter (eq.1.trans kind), by simp [Formula.map, eq.2]⟩
  | group opens closes _ ih =>
    obtain ⟨u, us, rfl, first, rest⟩ := List.map_eq_cons_iff.mp same
    obtain ⟨inner, v, tail, rfl, atInner, final, atTail⟩ := Token.map_spelling_eq_append rest
    obtain ⟨g, spells, texts⟩ := ih atInner
    rw [List.map_eq_nil_iff.mp atTail]
    exact ⟨g, .group ((congrArg Prod.fst first).trans opens) (final.trans closes) spells, texts⟩
  | primary _ ih =>
    obtain ⟨g, spells, texts⟩ := ih same
    exact ⟨g, .primary spells, texts⟩
  | not negates _ ih =>
    obtain ⟨u, us, rfl, first, rest⟩ := List.map_eq_cons_iff.mp same
    obtain ⟨g, spells, texts⟩ := ih rest
    exact ⟨.not g, .not ((congrArg Prod.fst first).trans negates) spells, by simp [Formula.map, texts]⟩
  | operand _ ih =>
    obtain ⟨g, spells, texts⟩ := ih same
    exact ⟨g, .operand spells, texts⟩
  | and _ connects _ leftIh rightIh =>
    obtain ⟨left, u, right, rfl, atLeft, middle, atRight⟩ := Token.map_spelling_eq_append same
    obtain ⟨l, spellsLeft, leftTexts⟩ := leftIh atLeft
    obtain ⟨r, spellsRight, rightTexts⟩ := rightIh atRight
    exact ⟨.and l r, .and spellsLeft (middle.trans connects) spellsRight,
      by simp only [Formula.map, leftTexts, rightTexts]⟩
  | conjunction _ ih =>
    obtain ⟨g, spells, texts⟩ := ih same
    exact ⟨g, .conjunction spells, texts⟩
  | or _ connects _ leftIh rightIh =>
    obtain ⟨left, u, right, rfl, atLeft, middle, atRight⟩ := Token.map_spelling_eq_append same
    obtain ⟨l, spellsLeft, leftTexts⟩ := leftIh atLeft
    obtain ⟨r, spellsRight, rightTexts⟩ := rightIh atRight
    exact ⟨.or l r, .or spellsLeft (middle.trans connects) spellsRight,
      by simp only [Formula.map, leftTexts, rightTexts]⟩

end Spells

end Formula

end IssueQuery
