import IssueQuery.Draft.Report
import IssueQuery.Proofs.FieldText

namespace IssueQuery

namespace Schema

variable {s : Schema} {i : Nat} {f : FieldDef}

theorem getElem?_of_findField? {p : FieldDef → Bool} (found : s.findField? p = some (i, f)) :
    s.fields[i]? = some f := by
  obtain ⟨⟨g, j⟩, first, eq⟩ := Option.map_eq_some_iff.mp found
  cases eq
  exact List.mk_mem_zipIdx_iff_getElem?.mp (List.mem_of_find?_eq_some first)

theorem getElem?_of_lookup? {name : Text} (found : s.lookup? name = some (i, f)) : s.fields[i]? = some f := by
  unfold lookup? customField? at found
  rcases Option.or_eq_some_iff.mp found with reserved | ⟨_, found⟩
  · exact getElem?_of_findField? reserved
  · rcases Option.or_eq_some_iff.mp found with byName | ⟨_, byId⟩
    · exact getElem?_of_findField? byName
    · exact getElem?_of_findField? byId

/-- Every field has a visible name, and both its name and its id, if it has one, stand for it. -/
def Addressable (s : Schema) : Prop :=
  ∀ i f, s.fields[i]? = some f → Text.trim f.name ≠ [] ∧ s.lookup? f.name = some (i, f) ∧
    ∀ id, f.customId = some id → s.lookup? id = some (i, f)

theorem resolve?_eq_some {path : List Text} {target : Target} (resolved : s.resolve? path = some target) :
    ∃ root rest, path = root :: rest ∧ s.lookup? root = some (target.index, target.field) := by
  cases path with
  | nil => cases resolved
  | cons root rest =>
    obtain ⟨⟨i, f⟩, found, resolved⟩ := Option.bind_eq_some_iff.mp resolved
    obtain ⟨type, _, eq⟩ := Option.bind_eq_some_iff.mp resolved
    cases eq
    exact ⟨root, rest, rfl, found⟩

theorem target_of_resolve? {path : List Text} {target : Target} (resolved : s.resolve? path = some target) :
    target.name = Filter.pathText (target.field.name :: path.tail) ∧
      target.path = s.storagePath target.field ++ path.tail := by
  cases path with
  | nil => cases resolved
  | cons root rest =>
    obtain ⟨⟨i, f⟩, _, resolved⟩ := Option.bind_eq_some_iff.mp resolved
    obtain ⟨type, _, eq⟩ := Option.bind_eq_some_iff.mp resolved
    cases eq
    exact ⟨rfl, rfl⟩

/-- What a path leads to depends on the field that its first segment stands for. -/
theorem resolve?_congr {root root' : Text} (same : s.lookup? root' = s.lookup? root) (rest : List Text) :
    s.resolve? (root' :: rest) = s.resolve? (root :: rest) := by
  rw [resolve?, resolve?, same]

/-- A field reference that a report writes leads back to where it came from. -/
theorem Addressable.exists_written (addressable : s.Addressable) {path : List Text} {target : Target} {t : Text}
    (resolved : s.resolve? path = some target)
    (rendered : Filter.renderField target.field path.tail = .ok t) :
    ∃ path', Filter.WrittenField t path' ∧ path'.tail = path.tail ∧ s.resolve? path' = s.resolve? path := by
  obtain ⟨root, rest, rfl, found⟩ := resolve?_eq_some resolved
  obtain ⟨visible, byName, byId⟩ := addressable _ _ (getElem?_of_lookup? found)
  obtain ⟨root', address, written⟩ := Filter.writtenField_of_renderField visible rendered
  refine ⟨root' :: rest, written, rfl, resolve?_congr ?_ rest⟩
  rw [found]
  rcases address with rfl | custom
  · exact byName
  · exact byId root' custom

/-- A hashtag is found by its declared name wherever it is found by another one. -/
theorem hashtag?_name {name : Text} {h : Hashtag} (found : s.hashtag? name = some h) :
    s.hashtag? h.name = some h := by
  unfold hashtag? at found
  have same := List.find?_some found
  have agree : (fun g : Hashtag => Text.sameLetters g.name h.name) = fun g => Text.sameLetters g.name name := by
    funext g
    rw [Text.sameLetters, Text.sameLetters, eq_of_beq same]
  rwa [hashtag?, agree]

end Schema

namespace Scope

variable {s : Scope} {path : List Text} {t : Target}

theorem permit_eq_ok_iff {u : Target} : s.permit u = .ok t ↔ u = t ∧ s.allows t.field = true := by
  unfold permit
  split
  · rename_i allowed
    simp only [Except.ok.injEq]
    constructor
    · rintro rfl
      exact ⟨rfl, allowed⟩
    · exact fun both => both.1
  · rename_i refused
    constructor
    · nofun
    · rintro ⟨rfl, allowed⟩
      exact absurd allowed refused

theorem permit_eq_error_iff {u : Target} {e : QueryError} :
    s.permit u = .error e ↔ s.allows u.field = false ∧ e = .fieldNotPermitted u.name := by
  unfold permit
  split
  · rename_i allowed
    simp [allowed]
  · rename_i refused
    simpa [refused] using eq_comm

theorem resolve_eq_ok_iff : s.resolve path = .ok t ↔ s.schema.resolve? path = some t ∧ s.allows t.field = true := by
  unfold resolve
  split
  · rename_i u resolved
    rw [permit_eq_ok_iff, resolved, Option.some.injEq]
  · rename_i unresolved
    simp [unresolved]

theorem resolveSort_eq_ok_iff :
    s.resolveSort path = .ok t ↔ s.schema.resolve? path = some t ∧ s.allows t.field = true := by
  unfold resolveSort
  split
  · rename_i u resolved
    rw [permit_eq_ok_iff, resolved, Option.some.injEq]
  · rename_i unresolved
    simp [unresolved]

/-- A path is refused because it leads nowhere, or to a field that the author may not use. -/
theorem resolve_eq_error_iff {e : QueryError} :
    s.resolve path = .error e ↔
      (s.schema.resolve? path = none ∧ e = .unknownField (Filter.pathText path)) ∨
        ∃ t, s.schema.resolve? path = some t ∧ s.allows t.field = false ∧ e = .fieldNotPermitted t.name := by
  unfold resolve
  split
  · rename_i u resolved
    simp [permit_eq_error_iff, resolved]
  · rename_i unresolved
    simpa [unresolved] using eq_comm

theorem resolveSort_eq_error_iff {e : QueryError} :
    s.resolveSort path = .error e ↔
      (s.schema.resolve? path = none ∧ e = .unknownSortField (Filter.pathText path)) ∨
        ∃ t, s.schema.resolve? path = some t ∧ s.allows t.field = false ∧ e = .fieldNotPermitted t.name := by
  unfold resolveSort
  split
  · rename_i u resolved
    simp [permit_eq_error_iff, resolved]
  · rename_i unresolved
    simpa [unresolved] using eq_comm

/-- A filter has a list of values for its operator, or the one value that it needs. -/
theorem compileValue_eq_ok_iff {target : Target} {op : Operator} {raw : RawValue} {v : Value} :
    compileValue target op raw = .ok v ↔
      (op.takesList = true ∧ .list (raw.items.map target.type.coerce) = v) ∨
        (op.takesList = false ∧ ∃ item, raw.items = [item] ∧
          (if op.isPattern then .string (op.pattern item).render else target.type.coerce item) = v) := by
  unfold compileValue
  split
  · rename_i list
    simp [list]
  · rename_i single
    simp only [single, Bool.false_eq_true, false_and, false_or, true_and]
    split
    · rename_i item only
      simp [only]
    · rename_i other
      simp only [reduceCtorEq, false_iff, not_exists, not_and]
      exact fun item only => absurd only (other item)

/-- A filter compiles if its path leads to a field that the author may use, the field supports the operator, and the
value fits the operator. -/
theorem compileFilter_eq_ok_iff {f : Filter} {c : Comparison} :
    s.compileFilter f = .ok c ↔ ∃ target v, s.resolve f.path = .ok target ∧
      target.type.supports f.effectiveOperator = true ∧ compileValue target f.effectiveOperator f.value = .ok v ∧
      ⟨target.path, f.effectiveOperator.compareOp, v⟩ = c := by
  rw [compileFilter, bind_eq_ok_iff]
  constructor
  · rintro ⟨target, resolved, compiled⟩
    dsimp only at compiled
    split at compiled
    · rename_i supported
      obtain ⟨v, fits, eq⟩ := bind_eq_ok_iff.mp compiled
      exact ⟨target, v, resolved, supported, fits, Except.ok.inj eq⟩
    · cases compiled
  · rintro ⟨target, v, resolved, supported, fits, rfl⟩
    refine ⟨target, resolved, ?_⟩
    dsimp only
    rw [if_pos supported, fits, ok_bind]
    rfl

end Scope

end IssueQuery
