import IssueQuery.Proofs.Request

namespace IssueQuery

theorem splitCommas_ne_nil (quoted : Bool) (t : Text) : splitCommas quoted t ≠ [] := by
  cases t with
  | nil => exact List.cons_ne_nil _ _
  | cons c t =>
    rw [splitCommas]
    split
    · exact List.cons_ne_nil _ _
    · unfold Text.consHead
      split <;> exact List.cons_ne_nil _ _

theorem Text.consHead_append {parts : List Text} (nonempty : parts ≠ []) (c : Char) (more : List Text) :
    consHead c (parts ++ more) = consHead c parts ++ more := by
  obtain ⟨first, rest, rfl⟩ := List.exists_cons_of_ne_nil nonempty
  rfl

/-- A comma outside quotes cuts a text into two that are cut separately. -/
theorem splitCommas_append {quoted : Bool} {t : Text} (closed : Text.quotedAfter quoted t = false) (u : Text) :
    splitCommas quoted (t ++ ',' :: u) = splitCommas quoted t ++ splitCommas false u := by
  induction t generalizing quoted with
  | nil =>
    cases closed
    rfl
  | cons c t ih =>
    rw [Text.quotedAfter_cons] at closed
    rw [List.cons_append, splitCommas, splitCommas]
    split
    · rename_i comma
      obtain ⟨rfl, rfl⟩ := comma
      have rest : splitCommas false (t ++ ',' :: u) = splitCommas false t ++ splitCommas false u := ih closed
      rw [rest]
      rfl
    · rw [ih closed]
      exact Text.consHead_append (splitCommas_ne_nil _ t) c _

theorem splitCommas_cons {quoted : Bool} {c : Char} {t : Text} (other : c ≠ ',' ∨ quoted = true)
    (one : splitCommas (Text.quoteStep quoted c) t = [t]) : splitCommas quoted (c :: t) = [c :: t] := by
  rw [splitCommas, if_neg, one]
  · rfl
  · rintro ⟨comma, outside⟩
    rcases other with notComma | inside
    · exact notComma comma
    · rw [outside] at inside
      cases inside

theorem splitCommas_of_not_mem {t : Text} (free : ',' ∉ t) (quoted : Bool) : splitCommas quoted t = [t] := by
  induction t generalizing quoted with
  | nil => rfl
  | cons c t ih =>
    rw [List.mem_cons, not_or] at free
    exact splitCommas_cons (Or.inl (Ne.symm free.1)) (ih free.2 _)

theorem splitCommas_quote {name : Text} (free : '"' ∉ name) : splitCommas false (Filter.quote name) = [Filter.quote name] := by
  refine splitCommas_cons (Or.inl (by decide)) ?_
  show splitCommas true (name ++ ['"']) = [name ++ ['"']]
  induction name with
  | nil => rfl
  | cons c name ih =>
    rw [List.mem_cons, not_or] at free
    refine splitCommas_cons (Or.inr rfl) ?_
    rw [Text.quoteStep_of_ne (Ne.symm free.1)]
    exact ih free.2

namespace Filter.WrittenField

variable {t : Text} {path : List Text}

theorem splitCommas (written : WrittenField t path) : splitCommas false t = [t] := by
  cases written with
  | identifier ident =>
    refine splitCommas_of_not_mem (fun member => ?_) false
    exact ne_of_isBareChar (isBareChar_of_isIdentChar (ident.letters ',' member)) (by decide +kernel) rfl
  | quoted free => exact splitCommas_quote free

theorem isClosed (written : WrittenField t path) : Text.IsClosed t := by
  cases written with
  | identifier ident => exact ident.isClosed
  | quoted free => exact isClosed_quote free

end Filter.WrittenField

/-- A text is written from a sort key if it is a written form of the path after the mark of the
direction. -/
def WrittenKey (t : Text) (key : List Text × Direction) : Prop :=
  ∃ field, t = key.2.mark ++ field ∧ Filter.WrittenField field key.1

namespace WrittenKey

variable {t : Text} {key : List Text × Direction}

/-- The mark of the direction and the written path are told apart again. -/
theorem split (written : WrittenKey t key) :
    ∃ field, Direction.split t = (key.2, field) ∧ Filter.WrittenField field key.1 := by
  obtain ⟨path, direction⟩ := key
  obtain ⟨field, rfl, written⟩ := written
  refine ⟨field, ?_, written⟩
  have start := written.trimStart_append []
  rw [List.append_nil] at start
  cases direction with
  | desc =>
    show (Direction.desc, Text.trimStart field) = _
    rw [start]
  | asc =>
    obtain ⟨c, rest, rfl, head⟩ := written.exists_head
    dsimp only [Direction.mark, List.nil_append]
    unfold Direction.split
    split
    · rename_i eq
      cases (List.cons.inj eq).1
      rcases head with quote | ident
      · cases quote
      · cases ident
    · rfl

theorem isTrimmed (written : WrittenKey t key) : t.IsTrimmed := by
  obtain ⟨path, direction⟩ := key
  obtain ⟨field, rfl, written⟩ := written
  cases direction with
  | asc => exact written.isTrimmed
  | desc =>
    have mark : Text.IsTrimmed ['-'] := Text.isTrimmed_singleton (by decide)
    exact mark.append written.isTrimmed []

theorem splitCommas (written : WrittenKey t key) :
    IssueQuery.splitCommas false (' ' :: t) = [' ' :: t] ∧ Text.IsClosed (' ' :: t) := by
  obtain ⟨path, direction⟩ := key
  obtain ⟨field, rfl, written⟩ := written
  have one := written.splitCommas
  have closed := written.isClosed
  cases direction with
  | asc => exact ⟨splitCommas_cons (Or.inl (by decide)) one, closed⟩
  | desc => exact ⟨splitCommas_cons (Or.inl (by decide)) (splitCommas_cons (Or.inl (by decide)) one), closed⟩

end WrittenKey

theorem readSortItems_of_written {ts : List Text} {keys : List (List Text × Direction)}
    (written : List.Forall₂ WrittenKey ts keys) (position : Nat) :
    readSortItems (fun path direction => .ok (path, direction)) position (ts.map fun t => ' ' :: t) =
      .ok keys := by
  induction written generalizing position with
  | nil => rfl
  | @cons t key ts keys first _ ih =>
    obtain ⟨field, split, writtenField⟩ := first.split
    have trim : Text.trim (' ' :: t) = t := by
      have padded := first.isTrimmed.trim_padded Text.isBlank_space Text.isBlank_nil
      rwa [List.append_nil, List.singleton_append] at padded
    rw [List.map_cons, readSortItems_cons_eq_ok_iff, trim, split]
    exact Or.inr ⟨first.isTrimmed.ne_nil, _, _, keys, writtenField.readPath, rfl, ih _, rfl⟩

theorem splitCommas_join {ts : List Text} {keys : List (List Text × Direction)} (nonempty : ts ≠ [])
    (written : List.Forall₂ WrittenKey ts keys) :
    splitCommas false (' ' :: Text.join [',', ' '] ts) = ts.map fun t => ' ' :: t := by
  induction written with
  | nil => exact absurd rfl nonempty
  | @cons t _ ts _ first _ ih =>
    obtain ⟨one, closed⟩ := first.splitCommas
    cases ts with
    | nil =>
      rw [Text.join, List.intercalate_singleton]
      exact one
    | cons t' ts =>
      have rest := ih (List.cons_ne_nil _ _)
      have whole : ' ' :: Text.join [',', ' '] (t :: t' :: ts) =
          (' ' :: t) ++ ',' :: ' ' :: Text.join [',', ' '] (t' :: ts) := by
        simp [Text.join]
      rw [whole, splitCommas_append closed, one, rest]
      rfl

/-- The sort clause of a report is read back. -/
theorem readSortPaths_of_written {ts : List Text} {keys : List (List Text × Direction)} (nonempty : ts ≠ [])
    (written : List.Forall₂ WrittenKey ts keys) :
    readSortPaths (' ' :: Text.join [',', ' '] ts) = .ok keys := by
  rw [readSortPaths, readSortClause, splitCommas_join nonempty written]
  exact readSortItems_of_written written 0

/-- A sort clause is stable if it is a written path after the mark of its direction and this path and
direction make the same clause. -/
def SortClause.Stable (s : Scope) (clause : SortClause) : Prop :=
  ∃ path direction field, clause.text = direction.mark ++ field ∧ Filter.WrittenField field path ∧
    s.sortClause path direction = .ok clause

namespace Scope

/-- A text restates a sort key if it is written from a key that leads to the same part of the same
field. -/
structure RestatesKey (s : Scope) (t : Text) (key key' : List Text × Direction) : Prop where
  written : WrittenKey t key'
  direction : key'.2 = key.2
  rest : key'.1.tail = key.1.tail
  target : s.resolveSort key'.1 = s.resolveSort key.1

variable {s : Scope}

theorem RestatesKey.sortClause {t : Text} {key key' : List Text × Direction} (restates : s.RestatesKey t key key') :
    s.sortClause key'.1 key'.2 = s.sortClause key.1 key.2 := by
  rw [Scope.sortClause, Scope.sortClause, restates.target, restates.rest, restates.direction]

theorem RestatesKey.sortKey {t : Text} {key key' : List Text × Direction} (restates : s.RestatesKey t key key') :
    s.sortKey key'.1 key'.2 = s.sortKey key.1 key.2 := by
  rw [Scope.sortKey, Scope.sortKey, restates.target, restates.direction]

/-- The clause of a sort key restates the key. -/
theorem exists_restatedKey {path : List Text} {direction : Direction} {clause : SortClause}
    (addressable : s.schema.Addressable) (written : s.sortClause path direction = .ok clause) :
    ∃ key, s.RestatesKey clause.text (path, direction) key := by
  obtain ⟨target, resolved, written⟩ := bind_eq_ok_iff.mp written
  obtain ⟨field, rendered, eq⟩ := bind_eq_ok_iff.mp written
  cases eq
  obtain ⟨leads, allowed⟩ := resolveSort_eq_ok_iff.mp resolved
  obtain ⟨path', writtenField, rest, same⟩ := addressable.exists_written leads rendered
  have again : s.resolveSort path' = s.resolveSort path := by
    rw [resolved]
    exact resolveSort_eq_ok_iff.mpr ⟨same.trans leads, allowed⟩
  exact ⟨(path', direction), ⟨field, rfl, writtenField⟩, rfl, rest, again⟩

theorem stable_of_sortClause {path : List Text} {direction : Direction} {clause : SortClause}
    (addressable : s.schema.Addressable) (written : s.sortClause path direction = .ok clause) :
    clause.Stable s := by
  obtain ⟨key, restates⟩ := exists_restatedKey addressable written
  obtain ⟨field, text, writtenField⟩ := restates.written
  exact ⟨key.1, key.2, field, text, writtenField, restates.sortClause.trans written⟩

end Scope

end IssueQuery
