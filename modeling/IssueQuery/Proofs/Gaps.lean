import IssueQuery.Proofs.FieldText
import IssueQuery.Proofs.QueryText

namespace IssueQuery

namespace Text

/-- The first character that is not blank. -/
def firstVisible? (t : Text) : Option Char := t.find? fun c => !isBlank c

/-- The last character that is not blank. -/
def lastVisible? (t : Text) : Option Char := firstVisible? t.reverse

theorem firstVisible?_append (t u : Text) : firstVisible? (t ++ u) = (firstVisible? t).or (firstVisible? u) :=
  List.find?_append

theorem lastVisible?_append (t u : Text) : lastVisible? (t ++ u) = (lastVisible? u).or (lastVisible? t) := by
  rw [lastVisible?, List.reverse_append, firstVisible?_append]
  rfl

theorem firstVisible?_of_blank {t : Text} (blank : IsBlank t) : firstVisible? t = none := by
  rw [firstVisible?, List.find?_eq_none]
  intro c member
  simp [blank c member]

theorem lastVisible?_of_blank {t : Text} (blank : IsBlank t) : lastVisible? t = none :=
  firstVisible?_of_blank fun c member => blank c (List.mem_reverse.mp member)

theorem firstVisible?_cons {c : Char} (visible : isBlank c = false) (t : Text) : firstVisible? (c :: t) = some c := by
  rw [firstVisible?, List.find?_cons_of_pos (by simp [visible])]

theorem firstVisible?_cons_of_blank {c : Char} (blank : isBlank c = true) (t : Text) :
    firstVisible? (c :: t) = firstVisible? t := by
  rw [firstVisible?, List.find?_cons_of_neg (by simp [blank]), firstVisible?]

theorem exists_of_firstVisible? {t : Text} {c : Char} (first : firstVisible? t = some c) :
    ∃ v u, t = v ++ c :: u ∧ isBlank c = false ∧ IsBlank v := by
  obtain ⟨visible, v, u, eq, blank⟩ := List.find?_eq_some_iff_append.mp first
  exact ⟨v, u, eq, by simpa using visible, fun d member => by simpa using blank d member⟩

theorem lastVisible?_concat {c : Char} (visible : isBlank c = false) (t : Text) : lastVisible? (t ++ [c]) = some c := by
  rw [lastVisible?_append, lastVisible?, List.reverse_singleton, firstVisible?_cons visible]
  rfl

/-- Whether a character, if there is one, is a colon or a comma. -/
def IsSeparator (c : Option Char) : Prop := ∀ d ∈ c, d = ':' ∨ d = ','

theorem isSeparator_none : IsSeparator none := by simp [IsSeparator]

theorem isSeparator_some {c : Char} (mark : c = ':' ∨ c = ',') : IsSeparator (some c) := by
  intro d same
  cases same
  exact mark

/-- Text that leaves no quotes open when it comes after `before`. Outside quotes, its blanks stand next to a
colon or a comma, at the start or at the end. -/
structure Spaced (before t : Text) : Prop where
  closed : IsClosed t
  beside : ∀ a c b, t = a ++ c :: b → isBlank c = true → IsClosed (before ++ a) →
    IsSeparator (lastVisible? (before ++ a)) ∨ IsSeparator (firstVisible? b)

theorem spaced_nil (before : Text) : Spaced before [] := by
  refine ⟨rfl, fun a c b eq => ?_⟩
  simp at eq

/-- Blanks are looked at in the first part and then in the second part. -/
theorem spaced_append {before t u : Text} (closed : IsClosed t)
    (first : ∀ a c b, t = a ++ c :: b → isBlank c = true → IsClosed (before ++ a) →
      IsSeparator (lastVisible? (before ++ a)) ∨ IsSeparator (firstVisible? (b ++ u)))
    (second : Spaced (before ++ t) u) : Spaced before (t ++ u) := by
  refine ⟨closed.append second.closed, fun a c b eq blank outside => ?_⟩
  rcases List.append_eq_append_iff.mp eq with ⟨a', rfl, inSecond⟩ | ⟨b', inFirst, inB⟩
  · rw [← List.append_assoc] at outside ⊢
    exact second.beside a' c b inSecond blank outside
  · cases b' with
    | nil =>
      rw [List.append_nil] at inFirst
      subst inFirst
      have whole := second.beside [] c b inB.symm blank
      rw [List.append_nil] at whole
      exact whole outside
    | cons d b' =>
      cases (List.cons.inj inB).1
      rw [(List.cons.inj inB).2]
      exact first a c b' inFirst blank outside

theorem Spaced.blanks {before t u : Text} (blank : IsBlank t)
    (beside : IsSeparator (lastVisible? before) ∨ IsSeparator (firstVisible? u)) (rest : Spaced (before ++ t) u) :
    Spaced before (t ++ u) := by
  refine spaced_append blank.isClosed (fun a c b eq _ _ => ?_) rest
  have blankA : IsBlank a := fun d member => blank d (by simp [eq, member])
  have blankB : IsBlank b := fun d member => blank d (by simp [eq, member])
  rw [lastVisible?_append, lastVisible?_of_blank blankA, firstVisible?_append, firstVisible?_of_blank blankB]
  exact beside

theorem spaced_of_blank {before t : Text} (blank : IsBlank t) : Spaced before t := by
  have rest := Spaced.blanks (u := []) blank (Or.inr isSeparator_none) (spaced_nil (before ++ t))
  rwa [List.append_nil] at rest

/-- Text whose blanks are all in quotes. -/
structure Solid (t : Text) : Prop where
  closed : IsClosed t
  spaced : ∀ {before u : Text}, IsClosed before → Spaced (before ++ t) u → Spaced before (t ++ u)

theorem solid_of_visible {t : Text} (visible : ∀ c ∈ t, isBlank c = false) (free : '"' ∉ t) : Solid t := by
  have closed := isClosed_of_not_mem free
  refine ⟨closed, fun _ rest => spaced_append closed (fun a c b eq blank _ => ?_) rest⟩
  rw [visible c (by simp [eq])] at blank
  cases blank

theorem solid_singleton {c : Char} (visible : isBlank c = false) (other : c ≠ '"') : Solid [c] :=
  solid_of_visible (List.forall_mem_singleton.mpr visible) (by simpa using other.symm)

theorem solid_of_bare {t : Text} (bare : ∀ c ∈ t, isBareChar c = true) : Solid t :=
  solid_of_visible (isPlain_of_bare bare).isBlank (isPlain_of_bare bare).not_mem

theorem Solid.append {t u : Text} (first : Solid t) (second : Solid u) : Solid (t ++ u) := by
  refine ⟨first.closed.append second.closed, fun closed rest => ?_⟩
  rw [← List.append_assoc] at rest
  rw [List.append_assoc]
  exact first.spaced closed (second.spaced (closed.append first.closed) rest)

theorem solid_quote {name : Text} (free : '"' ∉ name) : Solid (Filter.quote name) := by
  have closed := Filter.isClosed_quote free
  refine ⟨closed, fun before rest => spaced_append closed (fun a c b eq blank inside => ?_) rest⟩
  have visible : isBlank '"' = false := by decide
  cases a with
  | nil =>
    cases (List.cons.inj eq).1
    rw [visible] at blank
    cases blank
  | cons d a =>
    obtain ⟨rfl, inName⟩ := List.cons.inj eq
    rw [IsClosed, quotedAfter_append, before, quotedAfter_cons] at inside
    rcases List.append_eq_append_iff.mp inName with ⟨a', _, inB⟩ | ⟨b', atName, _⟩
    · cases a' with
      | nil =>
        cases (List.cons.inj inB).1
        rw [visible] at blank
        cases blank
      | cons => simp at inB
    · have freeA : '"' ∉ a := fun member => free (by simp [atName, member])
      rw [quotedAfter_of_not_mem freeA] at inside
      cases inside

end Text

namespace Filter

theorem solid_of_ident {t : Text} (letters : ∀ c ∈ t, isIdentChar c = true) : Text.Solid t :=
  Text.solid_of_bare fun c member => isBareChar_of_isIdentChar (letters c member)

theorem FieldForm.solid {t : Text} {path : List Text} {op : Option Operator} (form : FieldForm t path op) :
    Text.Solid t := by
  cases form with
  | quoted free _ suffix =>
    refine (Text.solid_quote free).append ?_
    cases suffix with
    | plain => exact solid_of_ident (by simp)
    | marked form =>
      have mark : Text.Solid operatorMark :=
        solid_of_ident (List.all_eq_true.mp (show operatorMark.all isIdentChar = true by decide))
      exact mark.append (solid_of_ident form.isIdentChar)
  | identifier _ letters => exact solid_of_ident letters

theorem ItemForm.solid {t item : Text} (form : ItemForm t item) : Text.Solid t := by
  cases form with
  | quoted free => exact Text.solid_quote free
  | bare _ letters => exact Text.solid_of_bare letters

theorem ItemsForm.isClosed {t : Text} {items : List Text} (form : ItemsForm t items) : Text.IsClosed t := by
  induction form with
  | last before item after => exact before.isClosed.append (item.solid.closed.append after.isClosed)
  | next before item after _ rest =>
    have comma : Text.IsClosed [','] := rfl
    exact before.isClosed.append (item.solid.closed.append (after.isClosed.append (comma.append rest)))

theorem ItemsForm.spaced {t : Text} {items : List Text} (form : ItemsForm t items) {before : Text}
    (closed : before.IsClosed) (separator : Text.IsSeparator before.lastVisible?) : Text.Spaced before t := by
  induction form generalizing before with
  | @last a t b item blank form after =>
    refine Text.Spaced.blanks blank (Or.inl separator) (form.solid.spaced (closed.append blank.isClosed) ?_)
    exact Text.spaced_of_blank after
  | @next a t b u item items blank form after _ ih =>
    have visible : isBlank ',' = false := by decide
    have comma : Text.Solid [','] := Text.solid_singleton visible (by decide)
    have closedA := closed.append blank.isClosed
    have closedB := (closedA.append form.solid.closed).append after.isClosed
    refine Text.Spaced.blanks blank (Or.inl separator) (form.solid.spaced closedA ?_)
    refine Text.Spaced.blanks after (Or.inr ?_) (comma.spaced closedB (ih (closedB.append comma.closed) ?_))
    · rw [Text.firstVisible?_cons visible]
      exact Text.isSeparator_some (Or.inr rfl)
    · rw [Text.lastVisible?_concat visible]
      exact Text.isSeparator_some (Or.inr rfl)

end Filter

/-- A clause that spells a condition leaves no quotes open, and its blanks outside quotes stand next to a
colon or a comma. -/
theorem Condition.Form.spaced {t : Text} {c : Condition} (form : Condition.Form t c) : Text.Spaced [] t := by
  cases form with
  | @hashtag a name b before _ letters after =>
    have mark : Text.Solid ['#'] := Text.solid_singleton (by decide) (by decide)
    have solid := mark.append (Text.solid_of_bare fun d member => isBareChar_of_isHashtagChar (letters d member))
    refine Text.Spaced.blanks before (Or.inl Text.isSeparator_none) (solid.spaced before.isClosed ?_)
    exact Text.spaced_of_blank after
  | field before field after value =>
    obtain ⟨items, listed, _⟩ := Filter.valueForm_iff.mp value
    have visible : isBlank ':' = false := by decide
    have colon : Text.Solid [':'] := Text.solid_singleton visible (by decide)
    have closedA := before.isClosed
    have closedB := (closedA.append field.solid.closed).append after.isClosed
    refine Text.Spaced.blanks before (Or.inl Text.isSeparator_none) (field.solid.spaced closedA ?_)
    refine Text.Spaced.blanks after (Or.inr ?_)
      (colon.spaced closedB (listed.spaced (closedB.append colon.closed) ?_))
    · rw [Text.firstVisible?_cons visible]
      exact Text.isSeparator_some (Or.inl rfl)
    · rw [Text.lastVisible?_concat visible]
      exact Text.isSeparator_some (Or.inl rfl)

/-- Blanks around a clause do not count. -/
theorem Text.spaced_of_trim {t : Text} (spaced : Spaced [] (trim t)) : Spaced [] t := by
  obtain ⟨a, b, eq, before, after⟩ := exists_trim t
  rw [eq]
  refine Spaced.blanks before (Or.inl isSeparator_none)
    (spaced_append spaced.closed (fun x c y inside blank closed => ?_) ?_)
  · have closedX : IsClosed ([] ++ x) := by
      rw [List.nil_append, IsClosed, quotedAfter_append, before.isClosed] at closed
      exact closed
    have whole := spaced.beside x c y inside blank closedX
    rw [List.nil_append, lastVisible?_append, lastVisible?_of_blank before, Option.or_none, firstVisible?_append,
      firstVisible?_of_blank after, Option.or_none]
    exact whole
  · exact spaced_of_blank after

namespace Text

/-- Every filter in the text reads as a condition. -/
def Readable (query : Text) : Prop :=
  ∀ t, .filter t ∈ Piece.ofText query → trim t ≠ [] → ∃ c, Condition.read (trim t) = .ok c

theorem readable_of_leaves {mode : Mode} {maxDepth : Nat} {query : Text} {f : Option (Formula Clause)}
    (read : Formula.ofText? mode maxDepth query = .ok f)
    (leaves : ∀ g, f = some g → ∀ c ∈ g.leaves, ∃ condition, Condition.read c.text = .ok condition) :
    Readable query := by
  intro t member visible
  obtain ⟨g, isSome, c, atLeaf, text⟩ := Formula.exists_leaf_of_filter read member visible
  rw [← text]
  exact leaves g isSome c atLeaf

theorem Readable.spaced {query : Text} (readable : Readable query) {t : Text} (member : .filter t ∈ Piece.ofText query) :
    Spaced [] t := by
  refine spaced_of_trim ?_
  by_cases blank : trim t = []
  · rw [blank]
    exact spaced_nil []
  · obtain ⟨c, read⟩ := readable t member blank
    exact (Condition.form_of_read read).spaced

theorem Readable.isClosed {query : Text} (readable : Readable query) : IsClosed query :=
  Piece.isClosed_of_filters fun _ member => (readable.spaced member).closed

end Text

end IssueQuery
