import IssueQuery.Document
import Mathlib.Logic.Basic

namespace IssueQuery.Json

/-- What has a name in a document: a member of an object, or of an object in an array. An array in an array is not
opened. -/
inductive Child (name : Text) : Json → Json → Prop
  | member {members : List (Text × Json)} {v : Json} : lookup? name members = some v → Child name (.object members) v
  | element {items : List Json} {members : List (Text × Json)} {v : Json} :
      .object members ∈ items → lookup? name members = some v → Child name (.array items) v

inductive Leads : List Text → Json → Json → Prop
  | here (v : Json) : Leads [] v v
  | step {name : Text} {path : List Text} {doc child v : Json} :
      Child name doc child → Leads path child v → Leads (name :: path) doc v

/-- The values that a document has at a path: what the path leads to, or what is in an array that it leads to. -/
inductive Addresses (path : List Text) (doc : Json) : Json → Prop
  | value {v : Json} : Leads path doc v → (∀ items, v ≠ .array items) → Addresses path doc v
  | element {items : List Json} {v : Json} : Leads path doc (.array items) → v ∈ items → Addresses path doc v

theorem mem_children_iff {name : Text} {doc v : Json} : v ∈ children name doc ↔ Child name doc v := by
  cases doc with
  | object members =>
    rw [children, Option.mem_toList]
    constructor
    · exact Child.member
    · rintro (found | _)
      exact found
  | array items =>
    rw [children, List.mem_filterMap]
    constructor
    · rintro ⟨item, member, found⟩
      cases item with
      | object members => exact .element member found
      | _ => cases found
    · rintro (_ | ⟨member, found⟩)
      exact ⟨_, member, found⟩
  | _ => exact iff_of_false List.not_mem_nil nofun

theorem leads_cons_iff {name : Text} {path : List Text} {doc v : Json} :
    Leads (name :: path) doc v ↔ ∃ child ∈ children name doc, Leads path child v := by
  simp only [mem_children_iff]
  constructor
  · rintro (_ | ⟨child, leads⟩)
    exact ⟨_, child, leads⟩
  · rintro ⟨_, child, leads⟩
    exact .step child leads

theorem mem_foldl_children_iff {path : List Text} {found : List Json} {v : Json} :
    v ∈ path.foldl (fun found name => found.flatMap (children name)) found ↔ ∃ doc ∈ found, Leads path doc v := by
  -- Whatever the segments in front have found is where the rest of the path starts.
  induction path generalizing found with
  | nil =>
    constructor
    · exact fun member => ⟨v, member, .here v⟩
    · rintro ⟨_, member, _ | _⟩
      exact member
  | cons name path ih =>
    rw [List.foldl_cons, ih]
    simp only [List.mem_flatMap, leads_cons_iff]
    constructor
    · rintro ⟨child, ⟨doc, member, isChild⟩, leads⟩
      exact ⟨doc, member, child, isChild, leads⟩
    · rintro ⟨doc, member, child, isChild, leads⟩
      exact ⟨child, ⟨doc, member, isChild⟩, leads⟩

theorem mem_elements_iff {j v : Json} :
    v ∈ elements j ↔ v ≠ .null ∧ ((v = j ∧ ∀ items, j ≠ .array items) ∨ ∃ items, j = .array items ∧ v ∈ items) := by
  cases j with
  | array items =>
    rw [elements, List.mem_filter]
    cases v <;> simp [isNull]
  | null => simp +contextual [elements]
  | _ => simp +contextual [elements]

/-- The values found at a path are those that the document has there, without nulls. -/
theorem mem_valuesAt_iff {path : List Text} {doc v : Json} :
    v ∈ doc.valuesAt path ↔ v ≠ .null ∧ Addresses path doc v := by
  simp only [valuesAt, List.mem_flatMap, mem_foldl_children_iff, List.mem_singleton, exists_eq_left, mem_elements_iff]
  constructor
  · rintro ⟨j, leads, some, ⟨rfl, single⟩ | ⟨items, rfl, member⟩⟩
    · exact ⟨some, .value leads single⟩
    · exact ⟨some, .element leads member⟩
  · rintro ⟨some, ⟨leads, single⟩ | ⟨leads, member⟩⟩
    · exact ⟨v, leads, some, Or.inl ⟨rfl, single⟩⟩
    · exact ⟨_, leads, some, Or.inr ⟨_, rfl, member⟩⟩

/-- Nothing is found at a path if all that the document has there is null. -/
theorem valuesAt_eq_nil_iff {path : List Text} {doc : Json} :
    doc.valuesAt path = [] ↔ ∀ v, Addresses path doc v → v = .null := by
  simp only [List.eq_nil_iff_forall_not_mem, mem_valuesAt_iff, not_and, ne_eq, not_imp_not]

end IssueQuery.Json
