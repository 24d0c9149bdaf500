import IssueQuery.Compile
import IssueQuery.Proofs.QueryText

namespace IssueQuery

/-- Blanks and brackets: what a query may consist of that asks for nothing. -/
def Text.IsHollow (t : Text) : Prop := ∀ c ∈ t, isBlank c = true ∨ c = '(' ∨ c = ')'

namespace Text

/-- Every closing bracket has its opening bracket before it, or is one of those that close the `depth`
brackets which are already open. -/
def Nests (depth : Nat) (t : Text) : Prop := ∀ u, u <+: t → u.count ')' ≤ depth + u.count '('

variable {depth : Nat} {c : Char} {t : Text}

theorem nests_nil (depth : Nat) : Nests depth [] := by
  intro u front
  rw [List.prefix_nil.mp front]
  exact Nat.zero_le _

theorem nests_cons : Nests depth (c :: t) ↔ ∀ u, u <+: t → (c :: u).count ')' ≤ depth + (c :: u).count '(' := by
  constructor
  · exact fun nests u front => nests (c :: u) (List.cons_prefix_cons.mpr ⟨rfl, front⟩)
  · intro rest u front
    rcases List.prefix_cons_iff.mp front with rfl | ⟨v, rfl, inner⟩
    · exact Nat.zero_le _
    · exact rest v inner

theorem nests_cons_other (notOpening : c ≠ '(') (notClosing : c ≠ ')') : Nests depth (c :: t) ↔ Nests depth t := by
  simp only [nests_cons, List.count_cons_of_ne notOpening, List.count_cons_of_ne notClosing]
  rfl

theorem nests_cons_open : Nests depth ('(' :: t) ↔ Nests (depth + 1) t := by
  have other : '(' ≠ ')' := by decide
  rw [nests_cons]
  simp only [List.count_cons_self, List.count_cons_of_ne other]
  exact forall₂_congr fun u _ => by omega

theorem nests_cons_close : Nests (depth + 1) (')' :: t) ↔ Nests depth t := by
  have other : ')' ≠ '(' := by decide
  rw [nests_cons]
  simp only [List.count_cons_self, List.count_cons_of_ne other]
  exact forall₂_congr fun u _ => by omega

theorem not_nests_close : ¬ Nests 0 (')' :: t) :=
  fun nests => absurd (nests [')'] (List.cons_prefix_cons.mpr ⟨rfl, List.nil_prefix⟩)) (by decide)

end Text

namespace Piece

/-- A piece that leaves no token of its own, or a bracket. -/
def IsHollow : Piece → Prop
  | .filter t => t.IsBlank
  | .keyword _ _ => False
  | .openBracket | .closeBracket => True

theorem isHollow_consFilter {w : Text} {ps : List Piece} (blank : w.IsBlank) (hollow : ∀ p ∈ ps, p.IsHollow) :
    ∀ p ∈ consFilter w ps, p.IsHollow := by
  have alone : (Piece.filter w).IsHollow := blank
  cases ps with
  | nil => exact List.forall_mem_singleton.mpr alone
  | cons p ps =>
    obtain ⟨first, rest⟩ := List.forall_mem_cons.mp hollow
    cases p with
    | filter t => exact List.forall_mem_cons.mpr ⟨List.forall_mem_append.mpr ⟨blank, first⟩, rest⟩
    | keyword | openBracket | closeBracket => exact List.forall_mem_cons.mpr ⟨alone, hollow⟩

theorem ofText_cons_open (t : Text) : ofText ('(' :: t) = .openBracket :: ofText t :=
  ofText_append_open (t := []) rfl t

theorem ofText_cons_close (t : Text) : ofText (')' :: t) = .closeBracket :: ofText t :=
  ofText_append_close (t := []) rfl t

theorem isHollow_text {p : Piece} (hollow : p.IsHollow) : p.text.IsHollow := by
  cases p with
  | filter t => exact fun c member => Or.inl (hollow c member)
  | keyword => cases hollow
  | openBracket => exact List.forall_mem_singleton.mpr (Or.inr (Or.inl rfl))
  | closeBracket => exact List.forall_mem_singleton.mpr (Or.inr (Or.inr rfl))

theorem isHollow_ofText_iff (t : Text) : (∀ p ∈ ofText t, p.IsHollow) ↔ t.IsHollow := by
  constructor
  · intro hollow c member
    rw [← text_ofText t] at member
    obtain ⟨p, inPieces, inText⟩ := List.mem_flatMap.mp member
    exact isHollow_text (hollow p inPieces) c inText
  · intro hollow
    induction t with
    | nil => exact nofun
    | cons c t ih =>
      obtain ⟨first, rest⟩ := List.forall_mem_cons.mp hollow
      rcases first with blank | rfl | rfl
      · rw [ofText_cons_blank blank]
        exact isHollow_consFilter (List.forall_mem_singleton.mpr blank) (ih rest)
      · rw [ofText_cons_open]
        exact List.forall_mem_cons.mpr ⟨trivial, ih rest⟩
      · rw [ofText_cons_close]
        exact List.forall_mem_cons.mpr ⟨trivial, ih rest⟩

/-- Without filters there are no quotes, so the brackets of the pieces are those of the text. -/
theorem depthAfter_ofText_iff {t : Text} (hollow : t.IsHollow) (depth after : Nat) :
    depthAfter depth (ofText t) = some after ↔ t.Nests depth ∧ depth + t.count '(' = after + t.count ')' := by
  induction t generalizing depth with
  | nil => exact ⟨fun same => ⟨Text.nests_nil depth, Option.some.inj same⟩, fun same => congrArg some same.2⟩
  | cons c t ih =>
    obtain ⟨first, rest⟩ := List.forall_mem_cons.mp hollow
    rcases first with blank | rfl | rfl
    · have notOpening : c ≠ '(' := by
        rintro rfl
        cases blank
      have notClosing : c ≠ ')' := by
        rintro rfl
        cases blank
      rw [ofText_cons_blank blank, depthAfter_consFilter, ih rest, Text.nests_cons_other notOpening notClosing,
        List.count_cons_of_ne notOpening, List.count_cons_of_ne notClosing]
    · rw [ofText_cons_open, depthAfter, ih rest, Text.nests_cons_open, List.count_cons_self,
        List.count_cons_of_ne (by decide), Nat.add_assoc, Nat.add_comm 1]
    · rw [ofText_cons_close]
      cases depth with
      | zero => exact iff_of_false (Option.some_ne_none _).symm fun nested => Text.not_nests_close nested.1
      | succ d =>
        rw [depthAfter, ih rest, Text.nests_cons_close, List.count_cons_self, List.count_cons_of_ne (by decide),
          Nat.add_right_comm, ← Nat.add_assoc, Nat.add_right_cancel_iff]

end Piece

namespace Layout

/-- A layout of open brackets alone. -/
structure IsHollow (l : Layout) : Prop where
  kinds : ∀ t ∈ l.tokens, t.kind = .openBracket
  open_eq : l.tokens.length = l.openBrackets

theorem isHollow_empty : empty.IsHollow := ⟨nofun, rfl⟩

theorem IsHollow.afterOperand {l : Layout} (hollow : l.IsHollow) : l.afterOperand = false := by
  cases eq : l.tokens with
  | nil => simp [Layout.afterOperand, preceding, eq]
  | cons t ts =>
    have kind := hollow.kinds t (by simp [eq])
    simp [Layout.afterOperand, preceding, eq, kind, Token.Kind.endsOperand]

/-- Blanks and brackets can be laid out, and a closing bracket takes its opening bracket away. -/
theorem IsHollow.place {l : Layout} (hollow : l.IsHollow) (start : Nat) {p : Piece} (bare : p.IsHollow)
    (matched : p = .closeBracket → 0 < l.openBrackets) : ∃ next, l.place start p = .ok next ∧ next.IsHollow := by
  cases p with
  | filter t =>
    refine ⟨l, ?_, hollow⟩
    rcases l.pushFilter_cases start t with ⟨_, same⟩ | ⟨visible, _⟩
    · rw [Layout.place, same]
    · exact absurd (Text.trim_eq_nil_iff.mpr bare) visible
  | keyword => cases bare
  | openBracket =>
    refine ⟨_, pushOpen_ok_iff.mpr ⟨hollow.afterOperand, rfl⟩, List.forall_mem_cons.mpr ⟨rfl, hollow.kinds⟩, ?_⟩
    exact congrArg (· + 1) hollow.open_eq
  | closeBracket =>
    have positive := matched rfl
    rw [← hollow.open_eq] at positive
    obtain ⟨t, ts, eq⟩ := List.exists_cons_of_length_pos positive
    have kind := hollow.kinds t (by simp [eq])
    have opens : l.preceding = some .openBracket := by simp [preceding, eq, kind]
    refine ⟨_, pushClose_ok_iff.mpr (Or.inr ⟨opens, rfl⟩), fun u member => ?_, ?_⟩
    · exact hollow.kinds u (List.mem_of_mem_tail member)
    · rw [List.length_tail, hollow.open_eq]

theorem IsHollow.placeAll {l : Layout} (hollow : l.IsHollow) (start : Nat) {ps : List Piece} {after : Nat}
    (bare : ∀ p ∈ ps, p.IsHollow) (depth : Piece.depthAfter l.openBrackets ps = some after) :
    ∃ final, l.placeAll start ps = .ok final ∧ final.IsHollow := by
  induction ps generalizing l start with
  | nil => exact ⟨l, rfl, hollow⟩
  | cons p ps ih =>
    obtain ⟨first, rest⟩ := List.forall_mem_cons.mp bare
    obtain ⟨next, step, hollow⟩ := hollow.place start first (matched_of_depthAfter depth)
    rw [placeAll_cons step]
    exact ih hollow _ rest (place_openBrackets step depth)

/-- A piece of any other kind leaves a token for good. -/
theorem isHollow_of_placeAll {query : Text} {final : Layout}
    (run : empty.placeAll 0 (Piece.ofText query) = .ok final) (nothing : final.tokens = []) :
    ∀ p ∈ Piece.ofText query, p.IsHollow := by
  intro p member
  have gone {t : Token} : t ∉ final.tokens := by simp [nothing]
  cases p with
  | filter t =>
    by_contra filled
    have visible : Text.trim t ≠ [] := fun blank => filled (Text.trim_eq_nil_iff.mp blank)
    obtain ⟨token, inTokens, _⟩ := exists_filter_of_placeAll run member visible
    exact gone inTokens
  | keyword k w =>
    have keyword : k ≠ .openBracket := by
      rcases Piece.kind_of_mem_ofWords member with rfl | rfl | rfl <;> exact nofun
    obtain ⟨token, inTokens, _⟩ := exists_token_of_placeAll run member nofun fun _ => ⟨_, rfl, keyword⟩
    exact gone inTokens
  | openBracket | closeBracket => trivial

end Layout

namespace Formula

theorem ofTokens?_eq_none_iff {maxDepth : Nat} {ts : List Token} : ofTokens? maxDepth ts = .ok none ↔ ts = [] := by
  constructor
  · intro read
    by_contra nonempty
    obtain ⟨_, eq, _⟩ := exists_of_ofTokens? read nonempty
    cases eq
  · rintro rfl
    rfl

/-- A query spells no formula if its brackets match and no token is left of it. -/
theorem ofText?_eq_none_iff {mode : Mode} {maxDepth : Nat} {query : Text} :
    ofText? mode maxDepth query = .ok none ↔ Piece.depthAfter 0 (Piece.ofText query) = some 0 ∧
      ∃ l, Layout.empty.placeAll 0 (Piece.ofText query) = .ok l ∧ l.tokens = [] := by
  have allowed : checkMode mode none = .ok none := if_neg fun refused => by simpa using refused.2
  simp only [ofText?_eq_ok_iff, allowed, and_true, ofTokens?_eq_none_iff, List.reverse_eq_nil_iff]

end Formula

namespace Scope

theorem compileQuery_none_iff_ofText? {s : Scope} {mode : Mode} {maxDepth : Nat} {query : Text} :
    s.compileQuery mode maxDepth query = .ok none ↔ Formula.ofText? mode maxDepth query = .ok none := by
  rw [compileQuery, bind_eq_ok_iff]
  constructor
  · rintro ⟨f, read, compiled⟩
    cases f with
    | none => exact read
    | some f =>
      obtain ⟨_, _, eq⟩ := map_eq_ok_iff.mp compiled
      cases eq
  · exact fun read => ⟨none, read, rfl⟩

/-- A query restricts nothing if and only if it consists of blanks and of brackets that match. -/
theorem compileQuery_eq_none_iff (s : Scope) (mode : Mode) (maxDepth : Nat) (query : Text) :
    s.compileQuery mode maxDepth query = .ok none ↔
      (∀ c ∈ query, isBlank c = true ∨ c = '(' ∨ c = ')') ∧
        (∀ t, t <+: query → t.count ')' ≤ t.count '(') ∧ query.count '(' = query.count ')' := by
  rw [compileQuery_none_iff_ofText?, Formula.ofText?_eq_none_iff]
  have matched (hollow : query.IsHollow) := Piece.depthAfter_ofText_iff hollow 0 0
  simp only [Text.Nests, Nat.zero_add] at matched
  constructor
  · rintro ⟨brackets, l, placed, nothing⟩
    have hollow := (Piece.isHollow_ofText_iff query).mp (Layout.isHollow_of_placeAll placed nothing)
    exact ⟨hollow, (matched hollow).mp brackets⟩
  · rintro ⟨hollow, nested⟩
    have brackets := (matched hollow).mpr nested
    have pieces := (Piece.isHollow_ofText_iff query).mpr hollow
    obtain ⟨l, placed, groups⟩ := Layout.isHollow_empty.placeAll 0 pieces brackets
    have length : l.tokens.length = 0 := groups.open_eq.trans (Layout.placeAll_openBrackets placed brackets)
    exact ⟨brackets, l, placed, List.eq_nil_of_length_eq_zero length⟩

/-- Empty groups may be nested and stand side by side, and count as no nesting. -/
example : compileQuery ⟨{}, none⟩ .search 0 "( () ) ()".toList = .ok none := rfl

end Scope

end IssueQuery
