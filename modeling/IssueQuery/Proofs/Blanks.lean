import IssueQuery.Proofs.Quotes
import Mathlib.Data.List.TakeWhile

namespace IssueQuery.Text

/-- Text that is all blank. -/
def IsBlank (t : Text) : Prop := ∀ c ∈ t, isBlank c = true

theorem isBlank_nil : IsBlank [] := by simp [IsBlank]

theorem isBlank_space : IsBlank [' '] := List.forall_mem_singleton.mpr (by decide)

theorem IsBlank.not_mem {t : Text} (blank : IsBlank t) : '"' ∉ t := by
  intro member
  have quote := blank _ member
  revert quote
  decide

theorem IsBlank.isClosed {t : Text} (blank : IsBlank t) : IsClosed t := isClosed_of_not_mem blank.not_mem

/-- Blanks are no letters, and neither is what follows them. -/
theorem IsBlank.stops {b t : Text} (blank : IsBlank b) {p : Char → Bool}
    (visible : ∀ {c}, p c = true → isBlank c = false) (stops : ∀ c ∈ t.head?, p c = false) :
    ∀ c ∈ (b ++ t).head?, p c = false := by
  intro c first
  cases b with
  | nil => exact stops c first
  | cons d b =>
    cases first
    exact Bool.eq_false_iff.mpr fun letter => Bool.eq_false_iff.mp (visible letter) (blank c List.mem_cons_self)

theorem visible_of_trimStart {t rest : Text} {c : Char} (eq : trimStart t = c :: rest) : isBlank c = false := by
  have first := List.head?_dropWhile_not isBlank t
  rw [trimStart] at eq
  rw [eq] at first
  exact first

/-- What trimming takes off the start of a text. -/
theorem exists_trimStart (t : Text) : ∃ a, t = a ++ trimStart t ∧ IsBlank a :=
  ⟨t.takeWhile isBlank, List.takeWhile_append_dropWhile.symm, List.all_eq_true.mp List.all_takeWhile⟩

theorem exists_trimEnd (t : Text) : ∃ b, t = trimEnd t ++ b ∧ IsBlank b := by
  refine ⟨(t.reverse.takeWhile isBlank).reverse, ?_, ?_⟩
  · rw [trimEnd, ← List.reverse_append, List.takeWhile_append_dropWhile, List.reverse_reverse]
  · intro c member
    exact List.all_eq_true.mp List.all_takeWhile c (List.mem_reverse.mp member)

/-- A text is its trimmed form between blanks. -/
theorem exists_trim (t : Text) : ∃ a b, t = a ++ (trim t ++ b) ∧ IsBlank a ∧ IsBlank b := by
  obtain ⟨a, start, before⟩ := exists_trimStart t
  obtain ⟨b, eq, after⟩ := exists_trimEnd (trimStart t)
  exact ⟨a, b, by rw [trim, ← eq, ← start], before, after⟩

theorem IsBlank.trimStart {a : Text} (blank : IsBlank a) : Text.trimStart a = [] :=
  List.dropWhile_eq_nil_iff.mpr blank

theorem IsBlank.trimStart_append {a : Text} (blank : IsBlank a) {c : Char} (visible : isBlank c = false) (t : Text) :
    Text.trimStart (a ++ c :: t) = c :: t := by
  rw [Text.trimStart, List.dropWhile_append_of_pos blank, List.dropWhile_cons_of_neg (by simp [visible])]

theorem trim_eq_nil_iff {t : Text} : trim t = [] ↔ IsBlank t := by
  constructor
  · intro empty
    obtain ⟨a, b, eq, before, after⟩ := exists_trim t
    rw [empty, List.nil_append] at eq
    rw [eq]
    exact List.forall_mem_append.mpr ⟨before, after⟩
  · intro blank
    rw [trim, blank.trimStart]
    rfl

theorem trim_ne_nil_iff {t : Text} : trim t ≠ [] ↔ ∃ c ∈ t, isBlank c = false := by
  simp [trim_eq_nil_iff, IsBlank]

theorem trim_cons_blank (t : Text) : trim (' ' :: t) = trim t := by
  rw [trim, trim, trimStart, List.dropWhile_cons_of_pos (by decide)]
  rfl

theorem trim_append_blank (t : Text) : trim (t ++ [' ']) = trim t := by
  have blank : isBlank ' ' = true := by decide
  have start : trimStart (t ++ [' ']) = trimStart t ++ [' '] ∨
      trimStart t = [] ∧ trimStart (t ++ [' ']) = [] := by
    unfold trimStart
    rw [List.dropWhile_append]
    split
    · rename_i empty
      exact Or.inr ⟨List.isEmpty_iff.mp empty, List.dropWhile_cons_of_pos blank⟩
    · exact Or.inl rfl
  rw [trim, trim]
  rcases start with eq | ⟨empty, eq⟩
  · rw [eq, trimEnd, List.reverse_append, List.reverse_singleton, List.singleton_append,
      List.dropWhile_cons_of_pos blank]
    rfl
  · rw [empty, eq]

/-- Text that starts and ends with characters that are not blank. -/
structure IsTrimmed (t : Text) : Prop where
  first : ∃ c rest, t = c :: rest ∧ isBlank c = false
  last : ∃ c rest, t = rest ++ [c] ∧ isBlank c = false

theorem IsTrimmed.ne_nil {t : Text} (trimmed : t.IsTrimmed) : t ≠ [] := by
  obtain ⟨c, rest, rfl, _⟩ := trimmed.first
  exact List.cons_ne_nil c rest

theorem isTrimmed_of_visible {t : Text} (nonempty : t ≠ []) (visible : ∀ c ∈ t, isBlank c = false) :
    t.IsTrimmed := by
  constructor
  · obtain ⟨c, rest, rfl⟩ := List.exists_cons_of_ne_nil nonempty
    exact ⟨c, rest, rfl, visible c List.mem_cons_self⟩
  · rcases List.eq_nil_or_concat t with rfl | ⟨rest, c, rfl⟩
    · exact absurd rfl nonempty
    · rw [List.concat_eq_append] at visible ⊢
      exact ⟨c, rest, rfl, visible c (by simp)⟩

theorem isTrimmed_singleton {c : Char} (visible : isBlank c = false) : IsTrimmed [c] :=
  isTrimmed_of_visible (List.cons_ne_nil _ _) (List.forall_mem_singleton.mpr visible)

/-- What trimming leaves starts and ends with characters that are not blank. -/
theorem isTrimmed_trim {t : Text} (filled : trim t ≠ []) : (trim t).IsTrimmed := by
  constructor
  · obtain ⟨b, start, _⟩ := exists_trimEnd (trimStart t)
    obtain ⟨c, rest, eq⟩ := List.exists_cons_of_ne_nil filled
    rw [trim] at eq
    rw [eq, List.cons_append] at start
    exact ⟨c, rest, eq, visible_of_trimStart start⟩
  · have last := List.head?_dropWhile_not isBlank (trimStart t).reverse
    rw [trim, trimEnd] at filled ⊢
    cases eq : (trimStart t).reverse.dropWhile isBlank with
    | nil => exact absurd (congrArg List.reverse eq) filled
    | cons c rest =>
      rw [eq] at last
      exact ⟨c, rest.reverse, List.reverse_cons, last⟩

theorem IsTrimmed.append {t u : Text} (before : t.IsTrimmed) (after : u.IsTrimmed) (between : Text) :
    IsTrimmed (t ++ (between ++ u)) := by
  obtain ⟨c, rest, rfl, first⟩ := before.first
  obtain ⟨d, front, rfl, last⟩ := after.last
  exact ⟨⟨c, _, rfl, first⟩, d, c :: rest ++ (between ++ front), by simp, last⟩

/-- Blanks around a trimmed text are all that trimming takes off. -/
theorem IsTrimmed.trim_padded {t a b : Text} (trimmed : t.IsTrimmed) (before : IsBlank a)
    (after : IsBlank b) : trim (a ++ (t ++ b)) = t := by
  obtain ⟨⟨c, rest, eq, first⟩, d, front, eq', last⟩ := trimmed
  have start : trimStart (a ++ (t ++ b)) = t ++ b := by
    rw [eq]
    exact before.trimStart_append first (rest ++ b)
  rw [trim, start, trimEnd, List.reverse_append,
    List.dropWhile_append_of_pos fun c member => after c (List.mem_reverse.mp member), eq',
    List.reverse_append, List.reverse_singleton, List.singleton_append,
    List.dropWhile_cons_of_neg (by simp [last])]
  simp

end IssueQuery.Text
