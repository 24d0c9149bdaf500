import IssueQuery.Proofs.Rendering
import IssueQuery.Proofs.SortPositions

namespace IssueQuery

/-- The error that is reported if the text that cannot be read stands `n` characters further on. -/
def QueryError.movedBy (n : Nat) : QueryError → QueryError
  | .invalidExpression text position fault => .invalidExpression text (position + n) fault
  | e => e

section SortItems

variable {α : Type} (resolve : List Text → Direction → Except QueryError α)

/-- What one part of a sort clause asks for: nothing if it is blank, else one key. -/
def readSortItem (position : Nat) (item : Text) : Except QueryError (List α) :=
  if Text.trim item = [] then .ok []
  else
    match Filter.readPath (Direction.split (Text.trim item)).2 with
    | .error fault => .error (.invalidExpression (Text.trim item) position fault)
    | .ok path => do return [← resolve path (Direction.split (Text.trim item)).1]

/-- The parts of a sort clause are read one after the other, each where it starts. -/
theorem readSortItems_cons (position : Nat) (item : Text) (items : List Text) :
    readSortItems resolve position (item :: items) = do
      let keys ← readSortItem resolve position item
      return keys ++ (← readSortItems resolve (position + item.length + 1) items) := by
  by_cases blank : Text.trim item = []
  · rw [readSortItems_cons_of_blank blank, readSortItem, if_pos blank, ok_bind]
    exact (bind_pure _).symm
  · cases atPath : Filter.readPath (Direction.split (Text.trim item)).2 with
    | error fault =>
      rw [readSortItems_cons_of_fault blank atPath, readSortItem, if_neg blank, atPath]
      rfl
    | ok path =>
      rw [readSortItems_cons_of_readPath blank atPath, readSortItem, if_neg blank, atPath]
      simp only [bind_assoc, pure_bind, List.singleton_append]

/-- The characters of the parts of a sort clause, with a comma after each. -/
def sortItemsWidth (items : List Text) : Nat := (items.map fun item => item.length + 1).sum

theorem readSortItems_append (position : Nat) (items more : List Text) :
    readSortItems resolve position (items ++ more) = do
      let keys ← readSortItems resolve position items
      return keys ++ (← readSortItems resolve (position + sortItemsWidth items) more) := by
  induction items generalizing position with
  | nil => exact (bind_pure _).symm
  | cons item items ih =>
    have behind : position + item.length + 1 + sortItemsWidth items = position + sortItemsWidth (item :: items) := by
      rw [sortItemsWidth, sortItemsWidth, List.map_cons, List.sum_cons]
      omega
    rw [List.cons_append, readSortItems_cons, readSortItems_cons, ih, behind]
    simp only [bind_assoc, pure_bind, List.append_assoc]

/-- Where a clause starts matters only for the position of what cannot be read. -/
theorem readSortItems_add {n : Nat}
    (unmoved : ∀ path direction e, resolve path direction = .error e → e.movedBy n = e) (position : Nat)
    (items : List Text) :
    readSortItems resolve (position + n) items = (readSortItems resolve position items).mapError (.movedBy n) := by
  have one (position : Nat) (item : Text) :
      readSortItem resolve (position + n) item = (readSortItem resolve position item).mapError (.movedBy n) := by
    unfold readSortItem
    split
    · rfl
    · split
      · rfl
      · cases resolved : resolve _ _ with
        | error e => exact congrArg Except.error (unmoved _ _ e resolved).symm
        | ok a => rfl
  induction items generalizing position with
  | nil => rfl
  | cons item items ih =>
    have next : position + n + item.length + 1 = position + item.length + 1 + n := by omega
    rw [readSortItems_cons, readSortItems_cons, one, next, ih]
    cases readSortItem resolve position item with
    | error e => rfl
    | ok keys => cases readSortItems resolve (position + item.length + 1) items <;> rfl

end SortItems

theorem sortItemsWidth_consHead {parts : List Text} (nonempty : parts ≠ []) (c : Char) :
    sortItemsWidth (Text.consHead c parts) = sortItemsWidth parts + 1 := by
  obtain ⟨first, rest, rfl⟩ := List.exists_cons_of_ne_nil nonempty
  simp only [Text.consHead, sortItemsWidth, List.map_cons, List.sum_cons, List.length_cons]
  omega

theorem sortItemsWidth_splitCommas (quoted : Bool) (t : Text) :
    sortItemsWidth (splitCommas quoted t) = t.length + 1 := by
  induction t generalizing quoted with
  | nil => rfl
  | cons c t ih =>
    rw [splitCommas]
    split
    · rw [sortItemsWidth, List.map_cons, List.sum_cons, ← sortItemsWidth, ih, List.length_nil, List.length_cons]
      omega
    · rw [sortItemsWidth_consHead (splitCommas_ne_nil _ t), ih, List.length_cons]

namespace Scope

variable (s : Scope)

theorem movedBy_of_sortKey {path : List Text} {direction : Direction} {e : QueryError}
    (refused : s.sortKey path direction = .error e) (n : Nat) : e.movedBy n = e := by
  cases e with
  | invalidExpression => exact absurd refused sortKey_ne_invalidExpression
  | _ => rfl

theorem parseSort_append {t : Text} (closed : t.IsClosed) (u : Text) :
    s.parseSort (t ++ ',' :: u) = do
      let keys ← s.parseSort t
      return keys ++ (← (s.parseSort u).mapError (.movedBy (t.length + 1))) := by
  have later := readSortItems_add s.sortKey (fun _ _ _ refused => s.movedBy_of_sortKey refused (t.length + 1)) 0
    (splitCommas false u)
  simp only [parseSort, readSortClause]
  rw [splitCommas_append closed, readSortItems_append, sortItemsWidth_splitCommas, later]

/-- Two sort clauses with a comma between them ask for the keys of the first and then those of the second, if no quote
is open at the comma. The first error of the two is reported, where it stands in the whole. -/
theorem parseSort_comma {t : Text} (closed : Even (t.count '"')) (u : Text) :
    (∀ e, s.parseSort t = .error e → s.parseSort (t ++ ',' :: u) = .error e) ∧
      (∀ a b, s.parseSort t = .ok a → s.parseSort u = .ok b → s.parseSort (t ++ ',' :: u) = .ok (a ++ b)) ∧
      ∀ a e, s.parseSort t = .ok a → s.parseSort u = .error e →
        s.parseSort (t ++ ',' :: u) = .error (e.movedBy (t.length + 1)) := by
  rw [s.parseSort_append (Text.isClosed_iff_even.mpr closed)]
  refine ⟨fun e first => ?_, fun a b first second => ?_, fun a e first second => ?_⟩
  · rw [first]
    rfl
  · rw [first, second]
    rfl
  · rw [first, second]
    rfl

set_option maxRecDepth 4000 in
/-- A quoted name and a blank part, then a clause whose second key has a quote that is left open. -/
theorem parseSort_comma_sample :
    let t : Text := "\"Due Date\",, -votes".toList
    let u : Text := "labels, -\"é, votes".toList
    let a : List SortKey := [⟨"Due Date".toList, ["custom_fields".toList, "G7".toList], .asc⟩,
      ⟨"votes".toList, ["votes".toList], .desc⟩]
    let e : QueryError := .invalidExpression "-\"é, votes".toList 7 .unterminatedQuote
    Even (t.count '"') ∧ sample.parseSort t = .ok a ∧ sample.parseSort u = .error e ∧
      sample.parseSort (t ++ ',' :: u) = .error (.invalidExpression "-\"é, votes".toList 27 .unterminatedQuote) := by
  intro t u a e
  have closed : Even (t.count '"') := by decide
  have first : sample.parseSort "\"Due Date\",, -votes".toList =
      .ok [⟨"Due Date".toList, ["custom_fields".toList, "G7".toList], .asc⟩,
        ⟨"votes".toList, ["votes".toList], .desc⟩] := by cbv
  have second : sample.parseSort "labels, -\"é, votes".toList =
      .error (.invalidExpression "-\"é, votes".toList 7 .unterminatedQuote) := by cbv
  exact ⟨closed, first, second, (parseSort_comma sample closed u).2.2 a e first second⟩

end Scope

end IssueQuery
