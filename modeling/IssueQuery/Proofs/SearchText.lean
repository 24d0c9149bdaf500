import IssueQuery.Proofs.Embedding
import IssueQuery.Proofs.RequestText

namespace IssueQuery

/-- Sort keys are read wherever they stand and without the blanks around them. -/
theorem readSortItems_of_same_trim {α : Type} {resolve : List Text → Direction → Except QueryError α}
    {items items' : List Text} (same : List.Forall₂ (fun t t' => Text.trim t' = Text.trim t) items items')
    {position : Nat} {keys : List α} (read : readSortItems resolve position items = .ok keys) (position' : Nat) :
    readSortItems resolve position' items' = .ok keys := by
  induction same generalizing position position' keys with
  | nil => exact read
  | @cons t t' _ _ first _ ih =>
    rw [readSortItems_cons_eq_ok_iff] at read ⊢
    rw [first]
    rcases read with ⟨blank, more⟩ | ⟨visible, path, a, rest, atPath, resolved, more, rfl⟩
    · exact Or.inl ⟨blank, ih more _⟩
    · exact Or.inr ⟨visible, path, a, rest, atPath, resolved, ih more _, rfl⟩

namespace Scope

variable {s : Scope}

theorem parseSort_cons_blank {clause : Text} {keys : List SortKey} (read : s.parseSort clause = .ok keys) :
    s.parseSort (' ' :: clause) = .ok keys := by
  obtain ⟨first, rest, items⟩ := List.exists_cons_of_ne_nil (splitCommas_ne_nil false clause)
  have padded : splitCommas false (' ' :: clause) = (' ' :: first) :: rest := by
    rw [splitCommas, if_neg (by simp), Text.quoteStep_of_ne (by decide), items]
    rfl
  rw [parseSort, readSortClause] at read ⊢
  rw [items] at read
  rw [padded]
  exact readSortItems_of_same_trim (.cons (Text.trim_cons_blank first) (List.forall₂_same.mpr fun _ _ => rfl)) read 0

theorem compileQuery_append_blank {mode : Mode} {maxDepth : Nat} {query : Text} {p : Option Predicate}
    (compiled : s.compileQuery mode maxDepth query = .ok p) : s.compileQuery mode maxDepth (query ++ [' ']) = .ok p := by
  obtain ⟨f, read, compiled⟩ := bind_eq_ok_iff.mp compiled
  exact bind_eq_ok_iff.mpr ⟨f, Formula.ofText?_append_blank read, compiled⟩

/-- Text that is accepted as filters is a search for what they ask for: in the default order if nothing
follows, and in the order of a sort clause if one follows. No marker of a sort clause is in the filters,
except in quotes. -/
theorem search_of_filters (s : Scope) (settings : Settings) {t : Text} {p : Option Predicate}
    (accepted : s.compileQuery .search settings.maxDepth t = .ok p) :
    s.search settings t = .ok ⟨p, [s.schema.defaultSortKey settings]⟩ ∧
    (∀ clause keys, s.parseSort clause = .ok keys →
      s.search settings (t ++ " sort by: ".toList ++ clause) =
        .ok ⟨p, if keys.isEmpty then [s.schema.defaultSortKey settings] else keys⟩) ∧
    ∀ a m b : Text, t = a ++ (m ++ b) → Search.IsMarker m → ¬ a.IsClosed := by
  have readable := readable_of_compileQuery accepted
  have unmarked := readable.unmarked
  refine ⟨?_, fun clause keys sorted => ?_, fun a m b eq marker closed => unmarked.not_isMarker eq closed marker⟩
  · rw [search_eq, unmarked.split, accepted]
    rfl
  · have whole : t ++ " sort by: ".toList ++ clause = t ++ ' ' :: ("sort by: ".toList ++ clause) :=
      List.append_assoc _ _ _
    have order : (some (' ' :: clause)).elim (.ok []) s.parseSort = .ok keys := parseSort_cons_blank sorted
    rw [whole, search_eq, unmarked.split_sort readable.isClosed, compileQuery_append_blank accepted, order]
    rfl

set_option maxRecDepth 4000 in
/-- A marker in quotes is part of a value, and the word `sort` may be the last of the filters. -/
theorem search_of_filters_sample :
    let settings : Settings := {}
    let t : Text := "labels___in: \"sort by: x\", Sort".toList
    let p : Predicate := .compare ⟨["labels".toList], .isIn, .list [.string "sort by: x".toList, .string "Sort".toList]⟩
    let key : SortKey := ⟨"votes".toList, ["votes".toList], .desc⟩
    let default : SortKey := ⟨"updated_at".toList, ["updated_at".toList], .desc⟩
    let mark : Text := "sort by:".toList
    sample.compileQuery .search settings.maxDepth t = .ok (some p) ∧ sample.parseSort "-votes".toList = .ok [key] ∧
      sample.search settings t = .ok ⟨some p, [default]⟩ ∧
      sample.search settings (t ++ " sort by: ".toList ++ "-votes".toList) = .ok ⟨some p, [key]⟩ ∧
      t = "labels___in: \"".toList ++ (mark ++ " x\", Sort".toList) ∧ Search.IsMarker mark ∧
      ¬ Text.IsClosed "labels___in: \"".toList := by
  intro settings t p key default mark
  have spelled : Formula.ofText? .search settings.maxDepth t = .ok (some (.leaf ⟨t, 0, 30⟩)) := by rfl
  have read : Condition.read "labels___in: \"sort by: x\", Sort".toList =
      .ok (.field ⟨["labels".toList], some .isIn, .list ["sort by: x".toList, "Sort".toList]⟩) := by cbv
  have compiled : sample.compile false (.leaf ⟨t, 0, 30⟩) = .ok p := by
    rw [compile, compileClause_eq, Condition.ofText?_eq_ok_iff.mpr read]
    rfl
  have accepted := compileQuery_eq_some_iff.mpr ⟨_, spelled, compiled⟩
  have sorted : sample.parseSort "-votes".toList = .ok [key] := by rfl
  have marker : Search.IsMarker mark :=
    ⟨"sort".toList, [' '], "by".toList, [], rfl, by decide +kernel, by decide +kernel, by decide,
      List.forall_mem_singleton.mpr (by decide)⟩
  obtain ⟨alone, inOrder, quoted⟩ := search_of_filters sample settings accepted
  have parts : t = "labels___in: \"".toList ++ (mark ++ " x\", Sort".toList) := by decide
  exact ⟨accepted, sorted, alone, inOrder "-votes".toList [key] sorted, parts, marker,
    quoted "labels___in: \"".toList mark " x\", Sort".toList parts marker⟩

end Scope

end IssueQuery
