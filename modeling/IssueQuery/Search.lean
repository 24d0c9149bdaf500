import IssueQuery.Compile
import IssueQuery.Sort
import IssueQuery.Text.CaseFold
import IssueQuery.Text.Word

namespace IssueQuery

namespace Search

/-- The text after a leading word, whose letters may have any case. -/
def afterWord? (word t : Text) : Option Text :=
  if (t.take word.length).map foldCase = word then some (t.drop word.length) else none

/-- The text after a leading `sort by:`. At least one blank separates the words, and blanks may stand
before the colon. -/
def afterMarker? (t : Text) : Option Text :=
  match afterWord? "sort".toList t with
  | some (c :: t) =>
    if isBlank c then
      match (afterWord? "by".toList (Text.trimStart t)).map Text.trimStart with
      | some (':' :: t) => some t
      | _ => none
    else none
  | _ => none

/-- A marker in a text, by the places where it starts and where it ends. -/
structure Marker where
  start : Nat
  stop : Nat

/-- The markers in the rest of a text from left to right, each behind the end of the one before it and none of
them at the end of a longer word. It is given at which place the rest starts, how many of its characters belong
to a marker that has started before it, and whether it follows a word. -/
def markersFrom (place inside : Nat) (afterWord : Bool) : Text → List Marker
  | [] => []
  | c :: t =>
    match inside with
    | inside + 1 => markersFrom (place + 1) inside (isWordChar c) t
    | 0 =>
      match if afterWord then none else afterMarker? (c :: t) with
      | some clause =>
        let length := (c :: t).length - clause.length
        ⟨place, place + length⟩ :: markersFrom (place + 1) (length - 1) (isWordChar c) t
      | none => markersFrom (place + 1) 0 (isWordChar c) t

/-- The markers in a text, none of which overlaps another. -/
def markers (t : Text) : List Marker := markersFrom 0 0 false t

/-- Cuts a text at the first of these markers that has an even number of double quotes before it. -/
def cutAt (t : Text) : List Marker → Text × Option Text
  | [] => (t, none)
  | m :: ms =>
    let filter := t.take m.start
    if filter.count '"' % 2 = 0 then (filter, some (t.drop m.stop)) else cutAt t ms

/-- The filter part of a search text, and the sort clause if there is one. -/
def split (t : Text) : Text × Option Text := cutAt t (markers t)

end Search

/-- What a search asks for: the documents to find, if not all, and the order to show them in. -/
structure Search where
  predicate : Option Predicate
  sort : List SortKey

/-- The search that a text spells: filters, then a sort clause if `sort by:` introduces one. -/
def Scope.search (s : Scope) (settings : Settings) (t : Text) : Except QueryError Search := do
  let (filter, clause) := Search.split t
  let predicate ← s.compileQuery .search settings.maxDepth filter
  let sort ← match clause with
    | some clause => s.parseSort clause
    | none => .ok []
  return ⟨predicate, if sort.isEmpty then [s.schema.defaultSortKey settings] else sort⟩

end IssueQuery
