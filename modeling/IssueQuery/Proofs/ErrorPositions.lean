import IssueQuery.Proofs.Refusals
import IssueQuery.Proofs.Request
import IssueQuery.Proofs.SourceOrder

namespace IssueQuery

/-- What an error reports stands in the query at the position it reports. A missing bracket is reported at the end of
the query, and a clause that cannot be read is reported within its text. -/
def QueryError.PointsInto (query : Text) : QueryError → Prop
  | .invalidOperator text position _ | .unexpectedEnd text position | .unexpectedToken text position =>
    query.StandsAt position text
  | .invalidBracket c position _ => query.StandsAt position [c]
  | .unmatchedBracket position => query.StandsAt position [')']
  | .missingBracket position => position = query.length
  | .invalidExpression text position _ =>
    ∃ start, query.StandsAt start text ∧ start ≤ position ∧ position ≤ start + text.length
  | .tooDeeplyNested _ | .unknownField _ | .fieldNotPermitted _ | .invalidOperatorForField _ _ _ | .multipleValues _ _
  | .unknownSortField _ | .operatorNotSupported _ | .unquotableValue _ => True

/-- Reading brackets counts every character, whether it is quoted or not. -/
theorem pointsInto_of_balanceFrom {query before t : Text} (split : query = before ++ t) {quoted : Bool} {depth : Nat}
    {e : QueryError} (failed : balanceFrom quoted depth before.length t = .error e) : e.PointsInto query := by
  induction t generalizing quoted depth before with
  | nil =>
    rw [balanceFrom] at failed
    split at failed <;> cases failed
    exact congrArg List.length (split.trans (List.append_nil before)).symm
  | cons c t ih =>
    have next : query = (before ++ [c]) ++ t := by rw [split, List.append_assoc, List.singleton_append]
    have length : before.length + 1 = (before ++ [c]).length := by rw [List.length_append, List.length_singleton]
    rw [balanceFrom.eq_def] at failed
    simp only [length] at failed
    split at failed
    · exact ih next failed
    · split at failed
      · exact ih next failed
      · split at failed
        · rename_i close
          subst close
          split at failed
          · cases failed
            exact ⟨before, t, split, rfl⟩
          · exact ih next failed
        · exact ih next failed

namespace Layout

/-- A layout that fails fails at one of the pieces, which starts behind those before it. -/
theorem exists_of_placeAll_error {l : Layout} {start : Nat} {ps : List Piece} {e : QueryError}
    (failed : l.placeAll start ps = .error e) :
    ∃ before p after, ps = before ++ p :: after ∧
      ∃ m : Layout, m.place (start + (before.flatMap Piece.text).length) p = .error e := by
  induction ps generalizing l start with
  | nil => cases failed
  | cons p ps ih =>
    rcases bind_eq_error_iff.mp failed with here | ⟨next, _, later⟩
    · exact ⟨[], p, ps, rfl, l, here⟩
    · obtain ⟨before, q, after, rfl, m, there⟩ := ih later
      refine ⟨p :: before, q, after, rfl, m, ?_⟩
      rwa [List.flatMap_cons, List.length_append, ← Nat.add_assoc]

/-- A piece that cannot be laid out is reported as it is written and where it starts. -/
theorem pointsInto_of_place {query : Text} {l : Layout} {start : Nat} {p : Piece} {e : QueryError}
    (stands : query.StandsAt start p.text) (failed : l.place start p = .error e) : e.PointsInto query := by
  cases p with
  | filter => cases failed
  | keyword kind text =>
    rw [place, pushKeyword] at failed
    split at failed <;> cases failed
    exact stands
  | openBracket =>
    rw [place, pushOpen] at failed
    split at failed <;> cases failed
    exact stands
  | closeBracket =>
    rw [place, pushClose] at failed
    split at failed
    · cases failed
    · split at failed <;> cases failed
      exact stands

end Layout

namespace Formula

theorem Outcome.pointsInto {maxDepth : Nat} {query : Text} {ts : List Token} {e : QueryError}
    (outcome : Outcome maxDepth ts (.error e)) (stand : ∀ t ∈ ts, t.StandsIn query) : e.PointsInto query := by
  cases outcome with
  | tooDeeplyNested => trivial
  | @unexpectedEnd us t split => exact stand t (split ▸ List.mem_append_right us List.mem_cons_self)
  | @unexpectedFilter us vs bracket t split =>
    exact stand t (split ▸ List.mem_append_right us (List.mem_cons_of_mem bracket List.mem_cons_self))

theorem pointsInto_of_ofText? {mode : Mode} {maxDepth : Nat} {query : Text} {e : QueryError}
    (failed : ofText? mode maxDepth query = .error e) : e.PointsInto query := by
  rcases bind_eq_error_iff.mp failed with unbalanced | ⟨_, balanced, failed⟩
  · have whole : query = [] ++ query := rfl
    exact pointsInto_of_balanceFrom whole unbalanced
  have brackets := (Piece.checkBrackets_ok_iff query).mp balanced
  rcases bind_eq_error_iff.mp failed with misplaced | ⟨ts, tokenized, failed⟩
  · rcases bind_eq_error_iff.mp misplaced with misplaced | ⟨_, _, done⟩
    · obtain ⟨before, p, after, split, l, refused⟩ := Layout.exists_of_placeAll_error misplaced
      rw [Nat.zero_add] at refused
      exact Layout.pointsInto_of_place (Piece.standsAt split) refused
    · cases done
  obtain ⟨l, run, _⟩ := bind_eq_ok_iff.mp tokenized
  rw [tokenize_of_placeAll brackets run] at tokenized
  cases tokenized
  rcases bind_eq_error_iff.mp failed with misread | ⟨f, _, refused⟩
  · have outcome := outcome_of_placeAll run brackets maxDepth
    rw [misread] at outcome
    exact outcome.pointsInto fun t member => Layout.standsIn_of_placeAll run (List.mem_reverse.mp member)
  · rw [checkMode] at refused
    split at refused <;> cases refused
    trivial

/-- The clauses of a query stand in it where they say. -/
theorem standsAt_of_leaf {mode : Mode} {maxDepth : Nat} {query : Text} {f : Formula Clause}
    (read : ofText? mode maxDepth query = .ok (some f)) {c : Clause} (member : c ∈ f.leaves) :
    query.StandsAt c.start c.text := by
  obtain ⟨_, l, depth, _, reads⟩ := ofText?_eq_some_iff.mp read
  rw [reads.spells.leaves_eq, List.mem_filterMap] at member
  obtain ⟨t, inTokens, leaf⟩ := member
  rw [Token.clause?] at leaf
  split at leaf <;> cases leaf
  exact Layout.standsIn_of_placeAll reads.placed (List.mem_reverse.mp inTokens)

end Formula

namespace Scope

variable {s : Scope} {e : QueryError} (query : Text)

/-- What a filter asks for is refused without a position. -/
theorem pointsInto_of_compileFilter {f : Filter} (failed : s.compileFilter f = .error e) : e.PointsInto query := by
  rcases bind_eq_error_iff.mp failed with unresolved | ⟨target, _, failed⟩
  · rcases resolve_eq_error_iff.mp unresolved with ⟨_, rfl⟩ | ⟨_, _, _, rfl⟩ <;> trivial
  · dsimp only at failed
    split at failed
    · rcases bind_eq_error_iff.mp failed with refused | ⟨_, _, done⟩
      · rw [compileValue] at refused
        split at refused
        · cases refused
        · split at refused <;> cases refused
          trivial
      · cases done
    · cases failed
      trivial

theorem pointsInto_of_compileCondition {c : Condition} (failed : s.compileCondition c = .error e) :
    e.PointsInto query := by
  cases c with
  | field f => exact pointsInto_of_compileFilter query failed
  | hashtag name =>
    rcases bind_eq_error_iff.mp failed with unknown | ⟨_, _, failed⟩
    · rw [expandHashtag] at unknown
      split at unknown <;> cases unknown
      trivial
    · exact pointsInto_of_compileFilter query failed

variable {query}

/-- A clause that cannot be read is reported behind as much of its text as has been read. -/
theorem pointsInto_of_compileClause {c : Clause} (stands : query.StandsAt c.start c.text)
    (failed : s.compileClause c = .error e) : e.PointsInto query := by
  rw [compileClause_eq] at failed
  rcases bind_eq_error_iff.mp failed with unread | ⟨condition, _, failed⟩
  · rw [Condition.ofText?] at unread
    split at unread <;> cases unread
    exact ⟨c.start, stands, Nat.le_add_right _ _, Nat.add_le_add_left (Nat.sub_le _ _) _⟩
  · exact pointsInto_of_compileCondition query failed

/-- Whatever error a query is refused with, its position points into the query. -/
theorem pointsInto_of_compileQuery (s : Scope) {mode : Mode} {maxDepth : Nat} {query : Text} {e : QueryError}
    (failed : s.compileQuery mode maxDepth query = .error e) : e.PointsInto query := by
  rcases bind_eq_error_iff.mp failed with misread | ⟨f, read, failed⟩
  · exact Formula.pointsInto_of_ofText? misread
  cases f with
  | none => cases failed
  | some f =>
    obtain ⟨before, c, after, split, _, refused⟩ := compile_eq_error_iff.mp (map_eq_error_iff.mp failed)
    have member : c ∈ f.leaves := split ▸ List.mem_append_right before List.mem_cons_self
    exact pointsInto_of_compileClause (Formula.standsAt_of_leaf read member) refused

set_option maxRecDepth 4000 in
/-- Quoted text, a bracket in it and an empty pair of brackets stand before a clause with two words as its value. -/
theorem pointsInto_of_compileQuery_sample :
    let query : Text := "labels: \"é (\" and () votes: x y".toList
    let e : QueryError := .invalidExpression "votes: x y".toList 30 (.unexpectedCharacter 'y')
    sample.compileQuery .filter 200 query = .error e ∧ e.PointsInto query := by
  intro query e
  have failed : sample.compileQuery .filter 200 "labels: \"é (\" and () votes: x y".toList =
      .error (.invalidExpression "votes: x y".toList 30 (.unexpectedCharacter 'y')) := by cbv
  exact ⟨failed, pointsInto_of_compileQuery sample failed⟩

end Scope

end IssueQuery
