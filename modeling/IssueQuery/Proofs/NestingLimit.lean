import IssueQuery.Proofs.Succession

namespace IssueQuery

namespace Token

/-- An opening bracket and a `not` enclose what follows them. -/
def Kind.encloses : Kind → Bool
  | .openBracket | .not => true
  | _ => false

/-- How many of the tokens enclose what follows them. -/
def enclosers (ts : List Token) : Nat := ts.countP fun t => t.kind.encloses

theorem enclosers_cons (t : Token) (ts : List Token) :
    enclosers (t :: ts) = enclosers ts + if t.kind.encloses then 1 else 0 := List.countP_cons

theorem enclosers_eq (ts : List Token) : enclosers ts = number .openBracket ts + number .not ts := by
  induction ts with
  | nil => rfl
  | cons t ts ih =>
    rw [enclosers_cons, number_cons, number_cons, ih]
    cases t.kind <;> simp only [Kind.encloses, reduceCtorEq, if_true, if_false, Bool.false_eq_true] <;> omega

end Token

namespace Formula.Reading

/-- How many brackets and `not`s enclose the place where reading stands. -/
def level : Reading → Nat
  | .before p groups => nesting p groups
  | .after _ _ groups => enclosing groups

variable {limit limit' : Nat} {isLast : Bool} {t : Token} {r next : Reading}

/-- Each token leads one level further in at most. The end of an operand leads out of the `not`s in front of it. -/
theorem level_of_step (step : r.step limit isLast t = .ok next) :
    next.level ≤ r.level + if t.kind.encloses then 1 else 0 := by
  cases r with
  | before p groups =>
    rcases step_before step with ⟨kind, rfl⟩ | ⟨kind, _, _, rfl⟩ | ⟨kind, _, rfl⟩
    all_goals
      simp only [kind, Token.Kind.encloses, operand, level, nesting, enclosing, Pending.empty, if_true,
        Bool.false_eq_true, if_false]
      omega
  | after disjunct conjunction groups =>
    rcases step_after step with ⟨kind, rfl⟩ | ⟨kind, rfl⟩ | ⟨kind, p, outer, rfl, rfl⟩
    all_goals
      simp only [kind, Token.Kind.encloses, operand, level, nesting, enclosing, Bool.false_eq_true, if_false]
      omega

/-- Only a token that encloses others is refused for being nested too deeply, and only at the limit. -/
theorem step_tooDeeplyNested {m : Nat} (step : r.step limit isLast t = .error (.tooDeeplyNested m)) :
    t.kind.encloses = true ∧ limit ≤ r.level := by
  cases r with
  | before p groups =>
    cases kind : t.kind <;> simp only [Reading.step, kind] at step
    case not =>
      split at step
      · cases step
      · split at step
        · rename_i atLimit
          exact ⟨rfl, atLimit⟩
        · cases step
    case openBracket =>
      split at step
      · rename_i atLimit
        exact ⟨rfl, atLimit⟩
      · cases step
    all_goals cases step
  | after disjunct conjunction groups =>
    cases kind : t.kind <;> cases groups <;> simp only [Reading.step, kind] at step <;> cases step

/-- A lower limit refuses a token for its nesting, or it makes no difference. -/
theorem step_limit (lower : limit ≤ limit') (isLast : Bool) (t : Token) (r : Reading) :
    r.step limit isLast t = r.step limit' isLast t ∨ r.step limit isLast t = .error (.tooDeeplyNested limit) := by
  cases r with
  | before p groups =>
    by_cases room : nesting p groups < limit
    · left
      have within : ¬ limit ≤ nesting p groups := by omega
      have within' : ¬ limit' ≤ nesting p groups := by omega
      simp only [step, if_neg within, if_neg within']
    · have full : limit ≤ nesting p groups := by omega
      cases kind : t.kind <;> simp only [step, kind, if_pos full]
      case not => cases isLast <;> simp
      all_goals simp
  | after => exact Or.inl rfl

theorem run_limit (lower : limit ≤ limit') (last : Token) (ts : List Token) (r : Reading) :
    run limit last ts r = run limit' last ts r ∨ run limit last ts r = .error (.tooDeeplyNested limit) := by
  induction ts generalizing last r with
  | nil => exact Or.inl rfl
  | cons t ts ih =>
    rw [run, run]
    rcases step_limit lower ts.isEmpty t r with same | refused
    · rw [same]
      cases r.step limit' ts.isEmpty t with
      | error => exact Or.inl rfl
      | ok next => exact ih t next
    · rw [refused]
      exact Or.inr rfl

/-- Reading stays within the limit if the tokens to come cannot lead beyond it. -/
theorem run_within {last : Token} {ts : List Token} (few : r.level + Token.enclosers ts ≤ limit) (m : Nat) :
    run limit last ts r ≠ .error (.tooDeeplyNested m) := by
  induction ts generalizing last r with
  | nil =>
    intro refused
    cases r with
    | before => cases refused
    | after disjunct conjunction groups => cases groups <;> cases refused
  | cons t ts ih =>
    rw [Token.enclosers_cons] at few
    intro refused
    rcases bind_eq_error_iff.mp refused with here | ⟨next, step, later⟩
    · obtain ⟨kind, full⟩ := step_tooDeeplyNested here
      rw [if_pos kind] at few
      omega
    · have level := level_of_step step
      exact ih (by omega) later

end Formula.Reading

namespace Formula

/-- A lower nesting limit has no other effect than to refuse tokens that are nested too deeply, and it refuses none
if there are no more brackets and `not`s than it allows. -/
theorem ofTokens?_limit {limit limit' : Nat} (lower : limit ≤ limit') (ts : List Token) :
    (ofTokens? limit ts = ofTokens? limit' ts ∨ ofTokens? limit ts = .error (.tooDeeplyNested limit)) ∧
      (Token.number .openBracket ts + Token.number .not ts ≤ limit →
        ∀ m, ofTokens? limit ts ≠ .error (.tooDeeplyNested m)) := by
  cases ts with
  | nil => exact ⟨Or.inl rfl, fun _ _ => nofun⟩
  | cons t ts =>
    constructor
    · rw [ofTokens?, ofTokens?]
      rcases Reading.run_limit lower t (t :: ts) (.before .empty []) with same | refused
      · exact Or.inl (by rw [same])
      · exact Or.inr (by rw [refused]; rfl)
    · intro few m refused
      have start : (Reading.before .empty []).level = 0 := rfl
      refine Reading.run_within ?_ m (map_eq_error_iff.mp refused)
      rwa [start, Nat.zero_add, Token.enclosers_eq]

/-- Behind a group that has been closed, a `not` is not charged for it. The bracket that closes nothing is reported
unless the limit comes first. -/
theorem ofTokens?_limit_sample :
    let token (kind : Token.Kind) (text : String) (start : Nat) : Token :=
      ⟨kind, text.toList, start, start + text.toList.length - 1⟩
    let ts : List Token := [token .openBracket "(" 0, token .not "not" 1, token .expression "#a" 5, token .closeBracket ")" 7,
      token .and "and" 9, token .not "not" 13, token .expression "#b" 17, token .closeBracket ")" 19]
    1 ≤ 2 ∧ 3 ≤ 4 ∧ Token.number .openBracket ts + Token.number .not ts ≤ 3 ∧
      (ofTokens? 1 ts = ofTokens? 2 ts ∨ ofTokens? 1 ts = .error (.tooDeeplyNested 1)) ∧ ofTokens? 1 ts ≠ ofTokens? 2 ts ∧
      (ofTokens? 3 ts = ofTokens? 4 ts ∨ ofTokens? 3 ts = .error (.tooDeeplyNested 3)) ∧
      (∀ m, ofTokens? 3 ts ≠ .error (.tooDeeplyNested m)) ∧ ofTokens? 2 ts = .error (.unexpectedToken ")".toList 19) := by
  intro token ts
  have few : Token.number .openBracket ts + Token.number .not ts ≤ 3 := by decide
  have oneTwo : 1 ≤ 2 := by decide
  have threeFour : 3 ≤ 4 := by decide
  obtain ⟨atOne, _⟩ := ofTokens?_limit oneTwo ts
  obtain ⟨atThree, free⟩ := ofTokens?_limit threeFour ts
  exact ⟨oneTwo, threeFour, few, atOne, by decide, atThree, free few, rfl⟩

end Formula

end IssueQuery
