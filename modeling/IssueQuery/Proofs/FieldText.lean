import IssueQuery.Proofs.ClauseGrammar
import IssueQuery.Proofs.Quotes

namespace IssueQuery.Filter

theorem isClosed_quote {name : Text} (free : '"' ∉ name) : Text.IsClosed (quote name) := by
  show Text.quotedAfter true (name ++ ['"']) = false
  rw [Text.quotedAfter_append, Text.quotedAfter_of_not_mem free]
  rfl

theorem not_mem_name (op : Operator) : '_' ∉ op.name.toList := by cases op <;> decide

/-- An identifier that spells a path and no operator. -/
structure IsIdentifier (t : Text) (path : List Text) : Prop where
  nonempty : t ≠ []
  letters : ∀ c ∈ t, isIdentChar c = true
  unmarked : splitOperator? t = none
  segments : splitPath t = path
  filled : [] ∉ path

theorem IsIdentifier.isClosed {t : Text} {path : List Text} (ident : IsIdentifier t path) : Text.IsClosed t := by
  refine Text.isClosed_of_not_mem fun member => ?_
  exact ne_of_isBareChar (isBareChar_of_isIdentChar (ident.letters '"' member)) (by decide +kernel) rfl

/-- A path whose written form reads back is written as an identifier. -/
theorem isIdentifier_of_readsAs {path : List Text} (back : readsAs (pathText path) path = true) :
    IsIdentifier (pathText path) path := by
  unfold readsAs at back
  split at back
  · rename_i p read
    cases eq_of_beq back
    obtain ⟨a, u, b, whole, _, form, _⟩ := readPath_eq_ok_iff.mp read
    cases form with
    | @quoted name =>
      have length := congrArg List.length whole
      simp only [pathText_singleton, quote, List.length_append, List.length_cons] at length
      omega
    | identifier nonempty letters form =>
      cases form with
      | plain unmarked segments filled =>
        rw [segments.pathText]
        exact ⟨nonempty, letters, splitOperator?_eq_none_iff.mpr unmarked, splitPath_eq_iff.mpr segments, filled⟩
  · cases back

/-- How a path is written: as an identifier, or as a quoted name if it is one segment. -/
inductive WrittenField : Text → List Text → Prop
  | identifier {t path} : IsIdentifier t path → WrittenField t path
  | quoted {name} : '"' ∉ name → Text.trim name ≠ [] → WrittenField (quote name) [name]

theorem isTrimmed_quote (name : Text) : (quote name).IsTrimmed := by
  have mark : Text.IsTrimmed ['"'] := Text.isTrimmed_singleton (by decide)
  exact mark.append mark name

namespace WrittenField

variable {t : Text} {path : List Text}

/-- A written path spells the path, with an operator or without. -/
theorem fieldForm (written : WrittenField t path) (op : Option Operator) : FieldForm (t ++ renderOperator op) path op := by
  cases written with
  | identifier ident =>
    have segments := splitPath_eq_iff.mp ident.segments
    cases op with
    | none =>
      rw [renderOperator, List.append_nil]
      exact .identifier ident.nonempty ident.letters
        (.plain (splitOperator?_eq_none_iff.mp ident.unmarked) segments ident.filled)
    | some op =>
      refine .identifier (by simp [ident.nonempty]) (fun c member => ?_)
        (.marked (lastMark_append (not_mem_name op) t) (operatorForm_name op) segments ident.filled)
      rcases List.mem_append.mp member with inPath | inOperator
      · exact ident.letters c inPath
      · rcases List.mem_append.mp inOperator with inMark | inName
        · exact List.all_eq_true.mp (show operatorMark.all isIdentChar = true by decide) c inMark
        · exact isIdentChar_of_mem_name inName
  | quoted free visible =>
    refine .quoted free (Text.trim_ne_nil_iff.mp visible) ?_
    cases op with
    | none => exact .plain
    | some op => exact .marked (operatorForm_name op)

theorem exists_head (written : WrittenField t path) :
    ∃ c rest, t = c :: rest ∧ (c = '"' ∨ isIdentChar c = true) := by
  have form := written.fieldForm none
  rw [renderOperator, List.append_nil] at form
  exact form.exists_head

theorem trimStart_append (written : WrittenField t path) (u : Text) : Text.trimStart (t ++ u) = t ++ u := by
  have form := written.fieldForm none
  rw [renderOperator, List.append_nil] at form
  exact form.trimStart_append Text.isBlank_nil u

theorem isTrimmed (written : WrittenField t path) : t.IsTrimmed := by
  cases written with
  | identifier ident =>
    exact Text.isTrimmed_of_visible ident.nonempty fun c member =>
      isBlank_of_isBareChar (isBareChar_of_isIdentChar (ident.letters c member))
  | quoted => exact isTrimmed_quote _

theorem readPath (written : WrittenField t path) : readPath t = .ok path :=
  readPath_eq_ok_iff.mpr ⟨[], t ++ renderOperator none, [], by simp [renderOperator], Text.isBlank_nil,
    written.fieldForm none, Text.isBlank_nil⟩

/-- A written path is read as the field of a condition, with an operator behind it or without, and any value. -/
theorem read_condition (written : WrittenField t path) (op : Option Operator) {u : Text} {value : RawValue}
    (form : ValueForm u value) :
    Condition.read (t ++ renderOperator op ++ ':' :: u) = .ok (.field ⟨path, op, value⟩) :=
  (Condition.Form.field Text.isBlank_nil (written.fieldForm op) Text.isBlank_nil form).read

end WrittenField

/-- A reference to a part of a field is written as an identifier that starts with the name of the field or with
its id, or as the quoted name of the whole field. -/
theorem renderField_cases {field : FieldDef} {rest : List Text} {t : Text} (rendered : renderField field rest = .ok t) :
    (∃ root, (root = field.name ∨ field.customId = some root) ∧ IsIdentifier t (root :: rest)) ∨
      (rest = [] ∧ '"' ∉ field.name ∧ t = quote field.name) := by
  unfold renderField at rendered
  dsimp only at rendered
  split at rendered
  · rename_i plain
    cases rendered
    rw [Bool.and_eq_true] at plain
    exact Or.inl ⟨field.name, Or.inl rfl, isIdentifier_of_readsAs plain.2⟩
  · split at rendered
    · rename_i whole
      cases rendered
      exact Or.inr ⟨whole.1, whole.2, rfl⟩
    · split at rendered
      · rename_i id custom
        split at rendered
        · rename_i back
          cases rendered
          exact Or.inl ⟨id, Or.inr custom, isIdentifier_of_readsAs back⟩
        · cases rendered
      · cases rendered

/-- A reference to a part of a field is written as a path that starts with the name of the field or
with its id. -/
theorem writtenField_of_renderField {field : FieldDef} {rest : List Text} {t : Text}
    (visible : Text.trim field.name ≠ []) (rendered : renderField field rest = .ok t) :
    ∃ root, (root = field.name ∨ field.customId = some root) ∧ WrittenField t (root :: rest) := by
  rcases renderField_cases rendered with ⟨root, named, ident⟩ | ⟨rfl, free, rfl⟩
  · exact ⟨root, named, .identifier ident⟩
  · exact ⟨field.name, Or.inl rfl, .quoted free visible⟩

theorem isClosed_of_renderField {field : FieldDef} {rest : List Text} {t : Text}
    (rendered : renderField field rest = .ok t) : Text.IsClosed t := by
  rcases renderField_cases rendered with ⟨root, _, ident⟩ | ⟨_, free, rfl⟩
  · exact ident.isClosed
  · exact isClosed_quote free

end IssueQuery.Filter
