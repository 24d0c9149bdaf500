import IssueQuery.Proofs.Conjunctions
import IssueQuery.Proofs.EmptyQueries
import IssueQuery.Proofs.Request

namespace IssueQuery.Formula

namespace Spells

variable {phrase : Phrase} {ts : List Token} {f : Formula Clause} {depth : Nat}

/-- A formula has an `or` if one of its tokens is one. -/
theorem containsOr_iff (h : Spells phrase ts f depth) : f.containsOr = true ↔ ∃ t ∈ ts, t.kind = .or := by
  induction h with
  | filter kind => simp [containsOr, kind]
  | group opens closes _ ih => simp [ih, opens, closes]
  | primary _ ih | operand _ ih | conjunction _ ih => exact ih
  | not negates _ ih => simp [containsOr, ih, negates]
  | and _ connects _ left right => simp [containsOr, left, right, connects, or_and_right, exists_or]
  | @or t ts us _ _ _ _ _ connects =>
    exact iff_of_true rfl ⟨t, List.mem_append_right ts List.mem_cons_self, connects⟩

/-- A formula has a `not` if one of its tokens is one. -/
theorem containsNot_iff (h : Spells phrase ts f depth) : f.containsNot = true ↔ ∃ t ∈ ts, t.kind = .not := by
  induction h with
  | filter kind => simp [containsNot, kind]
  | group opens closes _ ih => simp [ih, opens, closes]
  | primary _ ih | operand _ ih | conjunction _ ih => exact ih
  | @not t ts _ _ negates => exact iff_of_true rfl ⟨t, List.mem_cons_self, negates⟩
  | and _ connects _ left right | or _ connects _ left right =>
    simp [containsNot, left, right, connects, or_and_right, exists_or]

/-- A formula is the conjunction of its filters, unless one of its tokens is an `or` or a `not`. -/
theorem conjuncts?_eq (h : Spells phrase ts f depth) :
    f.conjuncts? = if ∃ t ∈ ts, t.kind = .or ∨ t.kind = .not then none else some (ts.filterMap Token.clause?) := by
  have other : (∃ t ∈ ts, t.kind = .or ∨ t.kind = .not) ↔ f.containsOr = true ∨ f.containsNot = true := by
    simp only [h.containsOr_iff, h.containsNot_iff, and_or_left, exists_or]
  split
  · rename_i connective
    cases conjuncts : f.conjuncts? with
    | none => rfl
    | some cs =>
      obtain ⟨noOr, noNot⟩ := only_and_of_conjuncts? conjuncts
      simp [other, noOr, noNot] at connective
  · rename_i only
    simp only [other, not_or, Bool.not_eq_true] at only
    rw [conjuncts?_of_only_and only.1 only.2, h.leaves_eq]

end Spells

/-- Every mode reads the text in the same way and then has its say. -/
theorem ofText?_eq_checkMode (mode : Mode) (maxDepth : Nat) (query : Text) :
    ofText? mode maxDepth query = ofText? .filter maxDepth query >>= checkMode mode := by
  simp only [ofText?, bind_assoc]
  rfl

/-- Tokens that are read have an `or` among them if what they are read as has one. -/
theorem any_containsOr_iff {maxDepth : Nat} {ts : List Token} {f : Option (Formula Clause)}
    (read : ofTokens? maxDepth ts = .ok f) : f.any containsOr = true ↔ ∃ t ∈ ts, t.kind = .or := by
  cases f with
  | none => simp [ofTokens?_eq_none_iff.mp read]
  | some f =>
    obtain ⟨_, _, spells⟩ := spells_of_ofTokens? read
    exact spells.containsOr_iff

/-- A search reads a query as a filter does, except that it refuses one with an `or` once the text has been read
without a fault. The connectives of what is read are those among the tokens: there is a `not` if there is a token
for it, and without an `or` and a `not` the formula is the conjunction of the filters among the tokens, in order. -/
theorem ofText?_modes (maxDepth : Nat) (query : Text) :
    (∀ e, ofText? .filter maxDepth query = .error e → ofText? .search maxDepth query = .error e) ∧
      ∀ f, ofText? .filter maxDepth query = .ok f → ∃ ts, tokenize query = .ok ts ∧
        (ofText? .search maxDepth query =
          if ∃ t ∈ ts, t.kind = .or then .error (.operatorNotSupported .or) else .ok f) ∧
        ∀ g, f = some g → (g.containsNot = true ↔ ∃ t ∈ ts, t.kind = .not) ∧
          g.conjuncts? = if ∃ t ∈ ts, t.kind = .or ∨ t.kind = .not then none
            else some (ts.filterMap Token.clause?) := by
  rw [ofText?_eq_checkMode .search]
  refine ⟨fun e failed => by rw [failed]; rfl, fun f read => ?_⟩
  obtain ⟨brackets, l, placed, spelled, _⟩ := ofText?_eq_ok_iff.mp read
  refine ⟨l.tokens.reverse, tokenize_of_placeAll brackets placed, ?_, ?_⟩
  · rw [read, ok_bind, checkMode]
    simp only [any_containsOr_iff spelled, true_and]
  · rintro g rfl
    obtain ⟨_, _, spells⟩ := spells_of_ofTokens? spelled
    exact ⟨spells.containsNot_iff, spells.conjuncts?_eq⟩

/-- A disjunction under `not` is refused by a search alone, and a conjunction in brackets, beside an empty pair of
them, is taken apart. -/
theorem ofText?_modes_sample :
    let refused : Text := "not (votes: 1 or labels: ui)".toList
    let f : Formula Clause := .not (.or (.leaf ⟨"votes: 1".toList, 5, 12⟩) (.leaf ⟨"labels: ui".toList, 17, 26⟩))
    let allowed : Text := "(votes: 1) and ( ) labels: ui".toList
    let g : Formula Clause := .and (.leaf ⟨"votes: 1".toList, 1, 8⟩) (.leaf ⟨"labels: ui".toList, 19, 28⟩)
    (ofText? .filter 2 refused = .ok (some f) ∧ ofText? .search 2 refused = .error (.operatorNotSupported .or) ∧
        f.conjuncts? = none) ∧
      ofText? .filter 2 allowed = .ok (some g) ∧ ofText? .search 2 allowed = .ok (some g) ∧
        g.conjuncts? = some [⟨"votes: 1".toList, 1, 8⟩, ⟨"labels: ui".toList, 19, 28⟩] := by
  intro refused f allowed g
  have atRefused : ofText? .filter 2 refused = .ok (some f) := rfl
  have atAllowed : ofText? .filter 2 allowed = .ok (some g) := rfl
  obtain ⟨ts, tokens, searched, connectives⟩ := (ofText?_modes 2 refused).2 _ atRefused
  obtain ⟨us, tokens', searched', connectives'⟩ := (ofText?_modes 2 allowed).2 _ atAllowed
  cases tokens
  cases tokens'
  exact ⟨⟨atRefused, searched, (connectives f rfl).2⟩, atAllowed, searched', (connectives' g rfl).2⟩

end IssueQuery.Formula
