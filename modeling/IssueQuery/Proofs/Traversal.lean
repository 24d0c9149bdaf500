import IssueQuery.FieldType
import IssueQuery.Predicate
import IssueQuery.Proofs.Lookup
import Mathlib.Data.List.Basic

namespace IssueQuery

namespace Json

/-- Whether a value is neither null nor made of other values. -/
def isScalar : Json → Bool
  | .bool _ | .int _ | .float _ | .string _ => true
  | _ => false

def items : Json → List Json
  | .array vs => vs
  | _ => []

/-- The member of this name, if the value is an object that has one. -/
def memberNamed (name : Text) : Json → List Json
  | .object members => (lookup? name members).toList
  | _ => []

/-- The values that a path has led to so far are followed separately. -/
theorem foldl_children (path : List Text) (found : List Json) :
    path.foldl (fun found name => found.flatMap (children name)) found =
      found.flatMap fun v => path.foldl (fun found name => found.flatMap (children name)) [v] := by
  induction path generalizing found with
  | nil => exact (List.flatMap_singleton' found).symm
  | cons name path ih =>
    simp only [List.foldl_cons]
    rw [ih, List.flatMap_assoc]
    refine List.flatMap_congr fun v _ => ?_
    rw [List.flatMap_singleton, ← ih]

theorem elements_array (vs : List Json) :
    (Json.array vs).elements = vs.flatMap fun v => if v.isNull then [] else [v] := by
  rw [elements]
  induction vs with
  | nil => rfl
  | cons v vs ih =>
    rw [List.filter_cons, List.flatMap_cons, ih]
    cases v.isNull <;> rfl

theorem valuesAt_nil (v : Json) : v.valuesAt [] = v.elements := List.flatMap_singleton _ _

theorem valuesAt_cons (name : Text) (path : List Text) (v : Json) :
    v.valuesAt (name :: path) = (v.children name).flatMap (valuesAt path) := by
  rw [valuesAt, List.foldl_cons, List.flatMap_singleton, foldl_children, List.flatMap_assoc]
  rfl

end Json

namespace FieldType

def isList : FieldType → Bool
  | .list _ => true
  | _ => false

def isScalar : FieldType → Bool
  | .list _ | .object _ => false
  | _ => true

/-- The type of the elements of a list that are not lists themselves; any other type as it is. -/
def innermost : FieldType → FieldType
  | .list element => element.innermost
  | type => type

/-- Whether the elements of a list are lists. -/
def nestsLists : FieldType → Bool
  | .list element => element.isList
  | _ => false

/-- A value has the shape that a type declares. Members that a type does not declare are free, and declared ones may be
missing. -/
inductive Conforms : FieldType → Json → Prop
  | null (type : FieldType) : Conforms type .null
  | scalar {type : FieldType} {v : Json} : type.isScalar = true → v.isScalar = true → Conforms type v
  | list {element : FieldType} {items : List Json} : (∀ v ∈ items, Conforms element v) →
      Conforms (.list element) (.array items)
  | object {fields : List FieldDef} {members : List (Text × Json)} :
      (∀ name inner v, (FieldType.object fields).subfield? name = some inner → Json.lookup? name members = some v →
        Conforms inner v) → Conforms (.object fields) (.object members)

/-- The values in all the lists that a type declares around them, in order. Null is no value. -/
def opened : FieldType → Json → List Json
  | .list element, v => v.items.flatMap element.opened
  | _, v => if v.isNull then [] else [v]

/-- The values that are stored at a path in a value of this type, in order: the declared lists are opened before each
step and after the last. -/
def stored : FieldType → List Text → Json → List Json
  | type, [], v => type.opened v
  | type, name :: path, v =>
    match type.subfield? name with
    | some inner => ((type.opened v).flatMap (Json.memberNamed name)).flatMap (inner.stored path)
    | none => []

/-- No list that has lists as its elements is met along a path. -/
def FlatAlong : FieldType → List Text → Prop
  | type, [] => type.nestsLists = false
  | type, name :: path => type.nestsLists = false ∧ ∀ inner, type.subfield? name = some inner → inner.FlatAlong path

/-- A type is a list of some elements or a single value. -/
@[elab_as_elim]
theorem list_induction {motive : FieldType → Prop} (single : ∀ type, type.isList = false → motive type)
    (list : ∀ element, motive element → motive (.list element)) : (type : FieldType) → motive type
  | .list element => list element (list_induction single list element)
  | .string => single _ rfl
  | .int => single _ rfl
  | .float => single _ rfl
  | .bool => single _ rfl
  | .datetime => single _ rfl
  | .object _ => single _ rfl

section

variable {type inner : FieldType} {name : Text} {path : List Text} {v x : Json}

theorem innermost_of_single (single : type.isList = false) : type.innermost = type := by
  cases type with
  | list element => cases single
  | _ => rfl

theorem opened_of_single (single : type.isList = false) (v : Json) :
    type.opened v = if v.isNull then [] else [v] := by
  cases type with
  | list element => cases single
  | _ => rfl

theorem subfield?_innermost (type : FieldType) (name : Text) : type.innermost.subfield? name = type.subfield? name := by
  induction type using list_induction with
  | single type single => rw [innermost_of_single single]
  | list element ih => exact ih

theorem isList_innermost (type : FieldType) : type.innermost.isList = false := by
  induction type using list_induction with
  | single type single => rwa [innermost_of_single single]
  | list element ih => exact ih

/-- Only an object has parts, which a list of them has as well. -/
theorem exists_object_of_subfield? (part : type.subfield? name = some inner) :
    ∃ fields, type.innermost = .object fields ∧ (FieldType.object fields).subfield? name = some inner := by
  have single := type.isList_innermost
  rw [← subfield?_innermost] at part
  generalize type.innermost = type at single part ⊢
  cases type with
  | object fields => exact ⟨fields, rfl, part⟩
  | list element => cases single
  | _ => cases part

theorem stored_cons (part : type.subfield? name = some inner) (path : List Text) (v : Json) :
    type.stored (name :: path) v =
      ((type.opened v).flatMap (Json.memberNamed name)).flatMap (inner.stored path) := by
  rw [stored, part]

theorem conforms_of_mem_opened (conforms : type.Conforms v) (member : x ∈ type.opened v) :
    type.innermost.Conforms x ∧ x.isNull = false := by
  induction type using list_induction generalizing v with
  | single type single =>
    rw [opened_of_single single] at member
    rw [innermost_of_single single]
    cases null : v.isNull with
    | true =>
      rw [null] at member
      cases member
    | false =>
      rw [null] at member
      cases List.mem_singleton.mp member
      exact ⟨conforms, null⟩
  | list element ih =>
    obtain ⟨item, listed, inItem⟩ := List.mem_flatMap.mp member
    cases conforms with
    | null => cases listed
    | scalar noList => cases noList
    | list each => exact ih (each item listed) inItem

/-- The members that a path's next name leads to conform to the part that the type declares. -/
theorem conforms_of_mem_memberNamed (conforms : type.Conforms v) (part : type.subfield? name = some inner)
    (member : x ∈ (type.opened v).flatMap (Json.memberNamed name)) : inner.Conforms x := by
  obtain ⟨holder, inLists, named⟩ := List.mem_flatMap.mp member
  obtain ⟨fields, object, part⟩ := exists_object_of_subfield? part
  have holds := (conforms_of_mem_opened conforms inLists).1
  rw [object] at holds
  cases holds with
  | null => cases named
  | scalar noObject => cases noObject
  | object each => exact each name inner x part (Option.mem_toList.mp named)

theorem isScalar_of_mem_stored (conforms : type.Conforms v) (leads : type.descend? path = some inner)
    (scalar : inner.innermost.isScalar = true) (member : x ∈ type.stored path v) : x.isScalar = true := by
  induction path generalizing type v with
  | nil =>
    cases leads
    obtain ⟨holds, visible⟩ := conforms_of_mem_opened conforms member
    generalize inner.innermost = inner at holds scalar
    cases holds with
    | null => cases visible
    | scalar _ single => exact single
    | list each => cases scalar
    | object each => cases scalar
  | cons name path ih =>
    obtain ⟨between, part, leads⟩ := Option.bind_eq_some_iff.mp leads
    rw [stored_cons part] at member
    obtain ⟨child, atChild, member⟩ := List.mem_flatMap.mp member
    exact ih (conforms_of_mem_memberNamed conforms part atChild) leads member

/-- One step into a value finds the same members as the type, as long as no list of lists is in the way. -/
theorem children_of_conforms (conforms : type.Conforms v) (flat : type.nestsLists = false)
    (part : type.subfield? name = some inner) :
    v.children name = (type.opened v).flatMap (Json.memberNamed name) := by
  cases conforms with
  | null =>
    cases type with
    | list element => rfl
    | _ => rfl
  | @scalar _ v single _ =>
    cases type with
    | list element => cases single
    | object fields => cases single
    | _ => cases part
  | @object fields members each => exact (List.flatMap_singleton _ _).symm
  | @list element items each =>
    obtain ⟨fields, inLists, _⟩ := exists_object_of_subfield? part
    obtain rfl : element = .object fields := (innermost_of_single flat).symm.trans inLists
    rw [Json.children, List.filterMap_eq_flatMap_toList, opened, List.flatMap_assoc]
    refine List.flatMap_congr fun item listed => ?_
    cases each item listed with
    | null => rfl
    | scalar noObject => cases noObject
    | object => exact (List.flatMap_singleton _ _).symm

theorem elements_of_conforms (conforms : type.Conforms v) (flat : type.nestsLists = false) :
    v.elements = type.opened v := by
  cases conforms with
  | null =>
    cases type with
    | list element => rfl
    | _ => rfl
  | scalar single visible =>
    cases type with
    | list element => cases single
    | object fields => cases single
    | _ => cases v <;> first | rfl | cases visible
  | object => rfl
  | @list element items each =>
    rw [Json.elements_array, opened, Json.items]
    exact List.flatMap_congr fun item _ => (opened_of_single flat item).symm

/-- The values found at a path are those stored there. -/
theorem valuesAt_of_conforms (conforms : type.Conforms v) (flat : type.FlatAlong path) (leads : type.descend? path = some inner) :
    v.valuesAt path = type.stored path v := by
  induction path generalizing type v with
  | nil => rw [Json.valuesAt_nil, elements_of_conforms conforms flat, stored]
  | cons name path ih =>
    obtain ⟨between, part, leads⟩ := Option.bind_eq_some_iff.mp leads
    rw [Json.valuesAt_cons, children_of_conforms conforms flat.1 part, stored_cons part]
    exact List.flatMap_congr fun child member =>
      ih (conforms_of_mem_memberNamed conforms part member) (flat.2 between part) leads

/-- A value in as many arrays as a type has lists. -/
def wrapped : FieldType → Json → Json
  | .list element, v => .array [element.wrapped v]
  | _, v => v

/-- A value of a type in which nothing is missing on the way along a path, with a single scalar at its end. -/
def specimen : FieldType → List Text → Json
  | type, [] => type.wrapped (.bool true)
  | type, name :: path =>
    match type.subfield? name with
    | some inner => type.wrapped (.object [(name, inner.specimen path)])
    | none => .null

theorem wrapped_of_single (single : type.isList = false) (v : Json) : type.wrapped v = v := by
  cases type with
  | list element => cases single
  | _ => rfl

theorem specimen_cons (part : type.subfield? name = some inner) (path : List Text) :
    type.specimen (name :: path) = type.wrapped (.object [(name, inner.specimen path)]) := by
  rw [specimen, part]

theorem opened_wrapped (visible : v.isNull = false) : type.opened (type.wrapped v) = [v] := by
  induction type using list_induction with
  | single type single => rw [wrapped_of_single single, opened_of_single single, visible, if_neg Bool.false_ne_true]
  | list element ih => exact (List.flatMap_singleton _ _).trans ih

theorem conforms_wrapped (conforms : type.innermost.Conforms v) : type.Conforms (type.wrapped v) := by
  induction type using list_induction with
  | single type single => rwa [wrapped_of_single single, ← innermost_of_single single]
  | list element ih => exact .list (List.forall_mem_singleton.mpr (ih conforms))

theorem conforms_member {fields : List FieldDef} (part : (FieldType.object fields).subfield? name = some inner)
    (conforms : inner.Conforms v) : (FieldType.object fields).Conforms (.object [(name, v)]) := by
  refine .object fun other inner' v' part' found => ?_
  rw [Json.lookup?] at found
  split at found
  · rename_i same
    subst same
    cases found
    cases part.symm.trans part'
    exact conforms
  · cases found

theorem conforms_specimen (leads : type.descend? path = some inner) (scalar : inner.innermost.isScalar = true) :
    type.Conforms (type.specimen path) := by
  induction path generalizing type with
  | nil =>
    cases leads
    exact conforms_wrapped (.scalar scalar rfl)
  | cons name path ih =>
    obtain ⟨between, part, leads⟩ := Option.bind_eq_some_iff.mp leads
    obtain ⟨fields, inLists, declared⟩ := exists_object_of_subfield? part
    rw [specimen_cons part]
    refine conforms_wrapped ?_
    rw [inLists]
    exact conforms_member declared (ih leads)

theorem memberNamed_wrapped (type : FieldType) (name : Text) (v : Json) :
    (type.opened (type.wrapped (.object [(name, v)]))).flatMap (Json.memberNamed name) = [v] := by
  rw [opened_wrapped rfl, List.flatMap_singleton, Json.memberNamed, Json.lookup?, if_pos rfl, Option.toList_some]

theorem stored_specimen (leads : type.descend? path = some inner) :
    type.stored path (type.specimen path) = [.bool true] := by
  induction path generalizing type with
  | nil => exact opened_wrapped rfl
  | cons name path ih =>
    obtain ⟨between, part, leads⟩ := Option.bind_eq_some_iff.mp leads
    rw [specimen_cons part, stored_cons part, memberNamed_wrapped, List.flatMap_singleton]
    exact ih leads

/-- An array in an array has no parts, and itself is no scalar. -/
theorem wrapped_of_nestsLists (nested : type.nestsLists = true) (v : Json) (name : Text) :
    (type.wrapped v).children name = [] ∧ (type.wrapped v).elements ≠ [.bool true] := by
  cases type with
  | list element =>
    cases element with
    | list element => exact ⟨rfl, nofun⟩
    | _ => cases nested
  | _ => cases nested

/-- The scalar is found only if no list of lists is in the way. -/
theorem flatAlong_of_specimen (leads : type.descend? path = some inner) (scalar : inner.innermost.isScalar = true)
    (found : (type.specimen path).valuesAt path = [.bool true]) : type.FlatAlong path := by
  have conforms := conforms_specimen leads scalar
  induction path generalizing type with
  | nil =>
    rw [Json.valuesAt_nil] at found
    exact Bool.eq_false_iff.mpr fun nested => (wrapped_of_nestsLists nested _ []).2 found
  | cons name path ih =>
    obtain ⟨between, part, leads⟩ := Option.bind_eq_some_iff.mp leads
    rw [Json.valuesAt_cons] at found
    have flat : type.nestsLists = false := Bool.eq_false_iff.mpr fun nested => by
      rw [specimen_cons part, (wrapped_of_nestsLists nested _ name).1] at found
      cases found
    rw [children_of_conforms conforms flat part, specimen_cons part, memberNamed_wrapped, List.flatMap_singleton] at found
    refine ⟨flat, fun inner' part' => ?_⟩
    obtain rfl : between = inner' := Option.some.inj (part.symm.trans part')
    exact ih leads found (conforms_specimen leads scalar)

end

/-- What is found at a path in the documents of a type is what is stored there, if and only if the path meets no list of
lists. -/
theorem valuesAt_eq_stored_iff {type inner : FieldType} {path : List Text} (leads : type.descend? path = some inner)
    (scalar : inner.innermost.isScalar = true) :
    ((∀ v, type.Conforms v → v.valuesAt path = type.stored path v) ↔ type.FlatAlong path) ∧
      ∀ v, type.Conforms v → ∀ x ∈ type.stored path v, x.isScalar = true := by
  refine ⟨⟨fun agrees => ?_, fun flat v conforms => ?_⟩, fun v conforms x member => ?_⟩
  · refine flatAlong_of_specimen leads scalar ?_
    rw [agrees _ (conforms_specimen leads scalar), stored_specimen leads]
  · exact valuesAt_of_conforms conforms flat leads
  · exact isScalar_of_mem_stored conforms leads scalar member

/-- Lists of texts in the objects of a list, with nulls at every level. -/
theorem valuesAt_eq_stored_iff_sample :
    let person : FieldType := .object [⟨"names".toList, .list .string, none⟩]
    let type : FieldType := .object [⟨"watchers".toList, .list person, none⟩]
    let path : List Text := ["watchers".toList, "names".toList]
    let named (names : Json) : Json := .object [("names".toList, names)]
    let v : Json := .object [("watchers".toList,
      .array [named (.array [.string "ann".toList, .null]), .null, named .null, named (.array [.string "bob".toList])])]
    type.descend? path = some (.list .string) ∧ (FieldType.list .string).innermost.isScalar = true ∧
      type.FlatAlong path ∧ type.Conforms v ∧ v.valuesAt path = type.stored path v ∧
      type.stored path v = [.string "ann".toList, .string "bob".toList] := by
  intro person type path named v
  have flat : type.FlatAlong path :=
    ⟨rfl, fun _ part => by
      cases part
      exact ⟨rfl, fun _ part => by
        cases part
        rfl⟩⟩
  have texts (ts : List Json) (each : ∀ t ∈ ts, FieldType.Conforms .string t) :
      person.Conforms (named (.array ts)) := conforms_member rfl (.list each)
  have conforms : type.Conforms v := by
    refine conforms_member rfl (.list fun item listed => ?_)
    simp only [List.mem_cons, List.not_mem_nil, or_false] at listed
    rcases listed with rfl | rfl | rfl | rfl
    · refine texts _ fun t member => ?_
      simp only [List.mem_cons, List.not_mem_nil, or_false] at member
      rcases member with rfl | rfl
      · exact .scalar rfl rfl
      · exact .null _
    · exact .null _
    · exact conforms_member rfl (.null _)
    · exact texts _ (List.forall_mem_singleton.mpr (.scalar rfl rfl))
  exact ⟨rfl, rfl, flat, conforms, (valuesAt_eq_stored_iff rfl rfl).1.mpr flat v conforms, rfl⟩

/-- Of a list of lists only the outer one is opened: at the end of a path the inner lists are found in place of what is
in them, and before a name nothing is found. -/
theorem valuesAt_of_nested_lists :
    let part : FieldType := .object [⟨"c".toList, .string, none⟩]
    let type : FieldType := .object [⟨"a".toList, .list (.list .string), none⟩, ⟨"b".toList, .list (.list part), none⟩]
    let atEnd : Json := .object [("a".toList, .array [.array [.string "x".toList]])]
    let between : Json := .object [("b".toList, .array [.array [.object [("c".toList, .string "x".toList)]]])]
    (type.Conforms atEnd ∧ type.stored ["a".toList] atEnd = [.string "x".toList] ∧
        atEnd.valuesAt ["a".toList] ≠ [.string "x".toList] ∧
        Comparison.holds ⟨["a".toList], .eq, FieldType.coerce (.list (.list .string)) "x".toList⟩ atEnd = false) ∧
      type.Conforms between ∧ type.stored ["b".toList, "c".toList] between = [.string "x".toList] ∧
        between.valuesAt ["b".toList, "c".toList] ≠ [.string "x".toList] := by
  intro part type atEnd between
  have text : FieldType.Conforms .string (.string "x".toList) := .scalar rfl rfl
  have twice {element : FieldType} {v : Json} (conforms : element.Conforms v) :
      (FieldType.list (.list element)).Conforms (.array [.array [v]]) :=
    .list (List.forall_mem_singleton.mpr (.list (List.forall_mem_singleton.mpr conforms)))
  refine ⟨⟨conforms_member rfl (twice text), rfl, nofun, rfl⟩, ?_, rfl, nofun⟩
  exact conforms_member rfl (twice (conforms_member rfl text))

end FieldType

end IssueQuery
