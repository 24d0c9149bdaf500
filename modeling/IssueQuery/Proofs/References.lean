import IssueQuery.Proofs.FieldText

namespace IssueQuery.Filter

/-- A text refers to a part of a field. Alone it is read as the path of the part, which starts with the name of the
field or with its id, and with an operator and a value behind it as a filter on that path. -/
def Refers (field : FieldDef) (rest : List Text) (t : Text) : Prop :=
  ∃ root, (root = field.name ∨ field.customId = some root) ∧ readPath t = .ok (root :: rest) ∧
    ∀ start op v items, readItems true v = .ok items →
      Condition.ofText? start (t ++ operatorMark ++ op.name.toList ++ ": ".toList ++ v) =
        .ok (.field ⟨root :: rest, some op, .ofItems items⟩)

/-- Blanks may be put in front of a value. -/
theorem ItemsForm.cons_blank {t : Text} {items : List Text} (form : ItemsForm t items) : ItemsForm (' ' :: t) items := by
  have blank {a : Text} (before : a.IsBlank) : Text.IsBlank (' ' :: a) :=
    List.forall_mem_cons.mpr ⟨by decide, before⟩
  cases form with
  | last before item after => exact .last (blank before) item after
  | next before item after others => exact .next (blank before) item after others

theorem WrittenField.refers {field : FieldDef} {root : Text} {rest : List Text} {t : Text}
    (written : WrittenField t (root :: rest)) (named : root = field.name ∨ field.customId = some root) :
    Refers field rest t := by
  refine ⟨root, named, written.readPath, fun start op v items value => ?_⟩
  have form := (readItems_eq_ok_iff.mp value).cons_blank
  have read := written.read_condition (some op) (valueForm_iff.mpr ⟨items, form, rfl⟩)
  rw [Condition.ofText?_eq_ok_iff]
  simpa [renderOperator] using read

/-- A blank name is not an identifier. -/
theorem not_readsAs_of_blank {name : Text} (blank : name.IsBlank) : readsAs (pathText [name]) [name] = false := by
  refine Bool.eq_false_iff.mpr fun back => ?_
  have ident := isIdentifier_of_readsAs back
  rw [pathText_singleton] at ident
  obtain ⟨c, rest, rfl⟩ := List.exists_cons_of_ne_nil ident.nonempty
  have visible := isBlank_of_isBareChar (isBareChar_of_isIdentChar (ident.letters c List.mem_cons_self))
  rw [blank c List.mem_cons_self] at visible
  cases visible

theorem readPath_quote_of_blank {name : Text} (blank : name.IsBlank) :
    readPath (quote name) = .error .blankFieldName := by
  have read : readQuoted (name ++ '"' :: []) = .ok (name, []) :=
    readQuoted_eq_ok_iff.mpr ⟨rfl, blank.not_mem⟩
  have start : Text.trimStart (quote name) = '"' :: (name ++ ['"']) := rfl
  rw [readPath, start, readField, read, ok_bind]
  dsimp only
  rw [if_pos (Text.trim_eq_nil_iff.mpr blank)]

/-- A blank name is written in quotes, also if the field has an id. -/
theorem renderField_of_blank {field : FieldDef} (blank : field.name.IsBlank) :
    renderField field [] = .ok (quote field.name) := by
  rw [renderField]
  simp [not_readsAs_of_blank blank, blank.not_mem]

/-- What is written for a part of a field refers to that part, unless it is the whole field and the name is blank. -/
theorem renderField_refers_iff {field : FieldDef} {rest : List Text} {t : Text}
    (rendered : renderField field rest = .ok t) :
    Refers field rest t ↔ rest ≠ [] ∨ ∃ c ∈ field.name, isBlank c = false := by
  constructor
  · rintro ⟨root, _, read, _⟩
    by_contra other
    rw [not_or, not_not, ← Text.trim_ne_nil_iff, not_not, Text.trim_eq_nil_iff] at other
    obtain ⟨rfl, blank⟩ := other
    rw [renderField_of_blank blank] at rendered
    cases rendered
    rw [readPath_quote_of_blank blank] at read
    cases read
  · intro proper
    rcases renderField_cases rendered with ⟨root, named, ident⟩ | ⟨rfl, free, rfl⟩
    · exact (WrittenField.identifier ident).refers named
    · have visible := proper.resolve_left fun other => other rfl
      exact (WrittenField.quoted free (Text.trim_ne_nil_iff.mpr visible)).refers (Or.inl rfl)

/-- A part of a custom field whose name is not an identifier, and a whole field whose name ends like an operator
mark begins. -/
theorem renderField_refers_iff_sample :
    let custom : FieldDef := ⟨"Due (est.)".toList, .object [⟨"code".toList, .string, none⟩], some "G1".toList⟩
    let reserved : FieldDef := ⟨"_a_".toList, .int, none⟩
    (renderField custom ["code".toList] = .ok "G1__code".toList ∧
        Refers custom ["code".toList] "G1__code".toList) ∧
      renderField reserved [] = .ok "_a_".toList ∧ Refers reserved [] "_a_".toList := by
  intro custom reserved
  have part : renderField custom ["code".toList] = .ok "G1__code".toList := rfl
  have whole : renderField reserved [] = .ok "_a_".toList := rfl
  exact ⟨⟨part, (renderField_refers_iff part).mpr (Or.inl (List.cons_ne_nil _ _))⟩,
    whole, (renderField_refers_iff whole).mpr (Or.inr ⟨'a', by decide, by decide⟩)⟩

/-- A blank name is written in quotes, and what is written is not read; the id of the field would be. -/
theorem renderField_blank_unread :
    let field : FieldDef := ⟨[' '], .string, some "G1".toList⟩
    let t : Text := "\" \"".toList
    renderField field [] = .ok t ∧ ¬ Refers field [] t ∧ readPath t = .error .blankFieldName ∧
      Condition.ofText? 0 (t ++ "___eq: x".toList) =
        .error (.invalidExpression (t ++ "___eq: x".toList) 3 .blankFieldName) ∧
      readPath "G1".toList = .ok ["G1".toList] := by
  intro field t
  have unread : readPath t = .error .blankFieldName := rfl
  refine ⟨rfl, ?_, unread, rfl, rfl⟩
  rintro ⟨root, _, read, _⟩
  rw [unread] at read
  cases read

end IssueQuery.Filter
