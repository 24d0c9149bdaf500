import IssueQuery.Proofs.Refusals
import IssueQuery.Proofs.SearchText

namespace IssueQuery

namespace Text

theorem join_consHead {parts : List Text} (nonempty : parts ≠ []) (separator : Text) (c : Char) :
    join separator (consHead c parts) = c :: join separator parts := by
  obtain ⟨first, rest, rfl⟩ := List.exists_cons_of_ne_nil nonempty
  cases rest with
  | nil => rw [consHead, join, join, List.intercalate_singleton, List.intercalate_singleton]
  | cons => rw [consHead, join, join, List.intercalate_cons_cons, List.intercalate_cons_cons]; rfl

/-- Joined parts start with the first, and the others stand behind a separator. -/
theorem exists_join_cons (separator t : Text) (ts : List Text) :
    ∃ rest, join separator (t :: ts) = t ++ rest ∧ (ts ≠ [] → rest = separator ++ join separator ts) := by
  cases ts with
  | nil => exact ⟨[], by rw [join, List.intercalate_singleton, List.append_nil], absurd rfl⟩
  | cons u us =>
    refine ⟨separator ++ join separator (u :: us), ?_, fun _ => rfl⟩
    rw [join, List.intercalate_cons_cons, ← join, List.append_assoc]

end Text

/-- Cutting a text at commas loses nothing else. -/
theorem join_splitCommas (quoted : Bool) (t : Text) : Text.join [','] (splitCommas quoted t) = t := by
  induction t generalizing quoted with
  | nil => rfl
  | cons c t ih =>
    rw [splitCommas]
    split
    · rename_i comma
      rw [Text.join, List.intercalate_cons_of_ne_nil (splitCommas_ne_nil quoted t), ← Text.join, ih, comma.1]
      rfl
    · rw [Text.join_consHead (splitCommas_ne_nil _ t), ih]

/-- A sort key that cannot be read is reported where its part of the clause starts, with the blanks before the key.
Any other error is about a key that can be read. -/
theorem standsAt_of_readSortItems {α : Type} {resolve : List Text → Direction → Except QueryError α}
    {clause seen : Text} {items : List Text} (split : clause = seen ++ Text.join [','] items) {e : QueryError}
    (failed : readSortItems resolve seen.length items = .error e) :
    (∃ key position fault blanks, e = .invalidExpression key position fault ∧ Text.IsBlank blanks ∧
        clause.StandsAt position (blanks ++ key)) ∨
      ∃ path direction, resolve path direction = .error e := by
  induction items generalizing seen with
  | nil => cases failed
  | cons item items ih =>
    obtain ⟨rest, text, behind⟩ := Text.exists_join_cons [','] item items
    rw [text] at split
    -- The keys behind this one start behind its comma.
    have later (failed : readSortItems resolve (seen.length + item.length + 1) items = .error e) := by
      have length : seen.length + item.length + 1 = (seen ++ (item ++ [','])).length := by
        simp only [List.length_append, List.length_singleton, Nat.add_assoc]
      have more : items ≠ [] := fun none => by
        subst none
        cases failed
      rw [length] at failed
      refine ih ?_ failed
      rw [split, behind more]
      simp only [List.append_assoc]
    by_cases empty : Text.trim item = []
    · rw [readSortItems_cons_of_blank empty] at failed
      exact later failed
    · cases atPath : Filter.readPath (Direction.split (Text.trim item)).2 with
      | error fault =>
        rw [readSortItems_cons_of_fault empty atPath] at failed
        cases failed
        obtain ⟨a, b, trimmed, blank, _⟩ := Text.exists_trim item
        have stands : clause.StandsAt seen.length item := ⟨seen, rest, split, rfl⟩
        have start : item = [] ++ ((a ++ Text.trim item) ++ b) := by rw [List.nil_append, List.append_assoc, ← trimmed]
        exact Or.inl ⟨_, _, fault, a, rfl, blank, stands.inner start⟩
      | ok path =>
        rw [readSortItems_cons_of_readPath empty atPath] at failed
        rcases bind_eq_error_iff.mp failed with refused | ⟨_, _, failed⟩
        · exact Or.inr ⟨_, _, refused⟩
        · rcases bind_eq_error_iff.mp failed with failed | ⟨_, _, done⟩
          · exact later failed
          · cases done

namespace Scope

variable {s : Scope}

/-- What a key that can be read asks for is refused without a position. -/
theorem sortKey_ne_invalidExpression {path : List Text} {direction : Direction} {key : Text} {position : Nat}
    {fault : Fault} : s.sortKey path direction ≠ .error (.invalidExpression key position fault) := by
  intro refused
  rcases bind_eq_error_iff.mp refused with unresolved | ⟨_, _, done⟩
  · rcases resolveSort_eq_error_iff.mp unresolved with ⟨_, other⟩ | ⟨_, _, _, other⟩ <;> cases other
  · cases done

theorem standsAt_of_parseSort {clause key : Text} {position : Nat} {fault : Fault}
    (failed : s.parseSort clause = .error (.invalidExpression key position fault)) :
    ∃ blanks, Text.IsBlank blanks ∧ clause.StandsAt position (blanks ++ key) := by
  have whole : clause = [] ++ Text.join [','] (splitCommas false clause) := (join_splitCommas false clause).symm
  rcases standsAt_of_readSortItems whole failed with ⟨_, _, _, blanks, eq, blank, stands⟩ | ⟨_, _, refused⟩
  · cases eq
    exact ⟨blanks, blank, stands⟩
  · exact absurd refused sortKey_ne_invalidExpression

/-- A search whose filters are accepted fails just as its sort clause does. -/
theorem search_of_parseSort_error {settings : Settings} {t clause : Text} {p : Option Predicate} {e : QueryError}
    (accepted : s.compileQuery .search settings.maxDepth t = .ok p) (refused : s.parseSort (' ' :: clause) = .error e) :
    s.search settings (t ++ " sort by: ".toList ++ clause) = .error e := by
  have readable := readable_of_compileQuery accepted
  have whole : t ++ " sort by: ".toList ++ clause = t ++ ' ' :: ("sort by: ".toList ++ clause) :=
    List.append_assoc _ _ _
  have order : (some (' ' :: clause)).elim (.ok []) s.parseSort = .error e := refused
  rw [whole, search_eq, readable.unmarked.split_sort readable.isClosed, compileQuery_append_blank accepted, order]
  rfl

/-- A sort key that cannot be read behind filters that can is reported at its position in the text behind the colon of
`sort by:`, so short of where it stands in the whole text by what comes before. -/
theorem search_of_unreadable_key {settings : Settings} {t clause key : Text} {p : Option Predicate} {position : Nat}
    {fault : Fault} (accepted : s.compileQuery .search settings.maxDepth t = .ok p)
    (refused : s.parseSort (' ' :: clause) = .error (.invalidExpression key position fault)) :
    s.search settings (t ++ " sort by: ".toList ++ clause) = .error (.invalidExpression key position fault) ∧
      ∃ blanks, Text.IsBlank blanks ∧
        (t ++ " sort by: ".toList ++ clause).StandsAt ((t ++ " sort by:".toList).length + position)
          (blanks ++ key) := by
  refine ⟨search_of_parseSort_error accepted refused, ?_⟩
  obtain ⟨blanks, blank, before, after, split, rfl⟩ := standsAt_of_parseSort refused
  have whole : t ++ " sort by: ".toList ++ clause = (t ++ " sort by:".toList) ++ ((' ' :: clause) ++ []) := by simp
  have stands : (t ++ " sort by: ".toList ++ clause).StandsAt (t ++ " sort by:".toList).length (' ' :: clause) :=
    ⟨_, [], whole, rfl⟩
  exact ⟨blanks, blank, stands.inner split⟩

set_option maxRecDepth 4000 in
/-- Commas, one of them in quotes, and a character of several bytes stand before the key. -/
theorem search_of_unreadable_key_sample :
    let settings : Settings := {}
    let t : Text := "labels: \"é\"".toList
    let clause : Text := "\"Due Date\",, -\"ü, x\" y".toList
    let key : Text := "-\"ü, x\" y".toList
    let e : QueryError := .invalidExpression key 13 (.unexpectedCharacter 'y')
    (∃ p, sample.compileQuery .search settings.maxDepth t = .ok p) ∧ sample.parseSort (' ' :: clause) = .error e ∧
      sample.search settings (t ++ " sort by: ".toList ++ clause) = .error e ∧
      ∃ blanks, Text.IsBlank blanks ∧
        (t ++ " sort by: ".toList ++ clause).StandsAt ((t ++ " sort by:".toList).length + 13) (blanks ++ key) := by
  intro settings t clause key e
  have accepted : sample.compileQuery .search settings.maxDepth "labels: \"é\"".toList =
      .ok (some (.compare ⟨["labels".toList], .eq, .string "é".toList⟩)) := by cbv
  have refused : sample.parseSort (' ' :: "\"Due Date\",, -\"ü, x\" y".toList) =
      .error (.invalidExpression "-\"ü, x\" y".toList 13 (.unexpectedCharacter 'y')) := by cbv
  exact ⟨⟨_, accepted⟩, refused, search_of_unreadable_key accepted refused⟩

set_option maxRecDepth 4000 in
/-- The second key, with the blank before it, stands at position 24 of the text, and another position is reported. -/
theorem search_unreadable_key_short :
    let t : Text := "votes: 1".toList
    let clause : Text := "votes, a b".toList
    (∃ p, sample.compileQuery .search 200 t = .ok p) ∧
      sample.parseSort (' ' :: clause) = .error (.invalidExpression "a b".toList 7 (.unexpectedCharacter 'b')) ∧
      sample.search {} (t ++ " sort by: ".toList ++ clause) ≠
        .error (.invalidExpression "a b".toList (t.length + " sort by:".length + 7) (.unexpectedCharacter 'b')) := by
  intro t clause
  have accepted : sample.compileQuery .search 200 "votes: 1".toList =
      .ok (some (.compare ⟨["votes".toList], .eq, .int 1⟩)) := by cbv
  have refused : sample.parseSort (' ' :: "votes, a b".toList) =
      .error (.invalidExpression "a b".toList 7 (.unexpectedCharacter 'b')) := by cbv
  refine ⟨⟨_, accepted⟩, refused, ?_⟩
  have found : sample.search {} (t ++ " sort by: ".toList ++ clause) =
      .error (.invalidExpression "a b".toList 7 (.unexpectedCharacter 'b')) := search_of_parseSort_error accepted refused
  rw [found]
  exact fun same => absurd (QueryError.invalidExpression.inj (Except.error.inj same)).2.1 (by decide)

end Scope

end IssueQuery
