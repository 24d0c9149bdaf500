import IssueQuery.Proofs.FieldText

namespace IssueQuery.Filter

/-- How an item of a value is written: as it is, or in quotes. -/
inductive WrittenItem : Text → Text → Prop
  | bare {item} : item ≠ [] → (∀ c ∈ item, isBareChar c = true) → Token.Kind.ofKeyword? item = none →
      WrittenItem item item
  | quoted {item} : '"' ∉ item → WrittenItem (quote item) item

theorem writtenItem_of_renderItem {item t : Text} (rendered : renderItem item = .ok t) : WrittenItem t item := by
  unfold renderItem at rendered
  split at rendered
  · cases rendered
  · rename_i free
    split at rendered
    · rename_i bare
      cases rendered
      obtain ⟨nonempty, letters, other⟩ := bare
      exact .bare nonempty (List.all_eq_true.mp letters) (by simpa [isKeyword] using other)
    · cases rendered
      exact .quoted free

theorem WrittenItem.itemForm {t item : Text} (written : WrittenItem t item) : ItemForm t item := by
  cases written with
  | bare nonempty letters => exact .bare nonempty letters
  | quoted free => exact .quoted free

theorem renderItems_cons_eq_ok_iff {item : Text} {items texts : List Text} :
    renderItems (item :: items) = .ok texts ↔
      ∃ t ts, renderItem item = .ok t ∧ renderItems items = .ok ts ∧ t :: ts = texts :=
  both_eq_ok_iff

/-- The written items of a value that has more than one are an item, a comma and a blank, and the
others. -/
theorem join_renderItems {items ts : List Text} (rendered : renderItems items = .ok ts) (more : items ≠ [])
    (t : Text) : Text.join [',', ' '] (t :: ts) = t ++ ',' :: ' ' :: Text.join [',', ' '] ts := by
  obtain ⟨item, items, rfl⟩ := List.exists_cons_of_ne_nil more
  obtain ⟨t', ts', _, _, rfl⟩ := renderItems_cons_eq_ok_iff.mp rendered
  simp [Text.join]

/-- The items of a value that is written in a query are spelled behind a blank. -/
theorem itemsForm_of_renderItems {items texts : List Text} (rendered : renderItems items = .ok texts)
    (nonempty : items ≠ []) : ItemsForm (' ' :: Text.join [',', ' '] texts) items := by
  induction items generalizing texts with
  | nil => exact absurd rfl nonempty
  | cons item items ih =>
    obtain ⟨t, ts, first, rest, rfl⟩ := renderItems_cons_eq_ok_iff.mp rendered
    have form := (writtenItem_of_renderItem first).itemForm
    by_cases last : items = []
    · subst last
      cases rest
      have whole : ' ' :: Text.join [',', ' '] [t] = [' '] ++ (t ++ []) := by simp [Text.join]
      rw [whole]
      exact .last Text.isBlank_space form Text.isBlank_nil
    · rw [join_renderItems rest last]
      exact .next Text.isBlank_space form Text.isBlank_nil (ih rest last)

end IssueQuery.Filter
