import IssueQuery.Proofs.ClauseText

namespace IssueQuery

/-- No blank, or one. -/
def Text.IsPad (t : Text) : Prop := t = [] ∨ t = [' ']

theorem Text.IsPad.isBlank {t : Text} (pad : t.IsPad) : t.IsBlank := by
  rcases pad with rfl | rfl
  · exact isBlank_nil
  · exact isBlank_space

namespace Piece

variable {a t : Text}

theorem ofText_padded (before : a.IsPad) (shape : ClauseShape t) {u : Text} (apart : u.StartsApart) :
    ofText (a ++ (t ++ u)) = consFilter (a ++ t) (ofText u) := by
  rcases before with rfl | rfl
  · exact shape.ofText_append apart
  · rw [List.singleton_append, ofText_cons_blank (by decide), shape.ofText_append apart, consFilter_consFilter]

theorem ofText_last (before : a.IsPad) (shape : ClauseShape t) :
    ofText (a ++ Text.join " and ".toList [t]) = [.filter (a ++ t)] := by
  have whole := ofText_padded before shape (u := []) (by simp [Text.StartsApart])
  rw [List.append_nil] at whole
  rw [Text.join, List.intercalate_singleton, whole]
  rfl

/-- The word between two clauses of a report is read as a keyword. -/
theorem ofText_more (before : a.IsPad) (shape : ClauseShape t) (t' : Text) (ts : List Text) :
    ofText (a ++ Text.join " and ".toList (t :: t' :: ts)) =
      .filter (a ++ (t ++ [' '])) :: .keyword .and "and".toList ::
        ofText ([' '] ++ Text.join " and ".toList (t' :: ts)) := by
  have whole : Text.join " and ".toList (t :: t' :: ts) =
      t ++ ([' '] ++ ("and".toList ++ ([' '] ++ Text.join " and ".toList (t' :: ts)))) := by
    simp [Text.join]
  have apart (u : Text) : Text.StartsApart ([' '] ++ u) := by
    intro c first
    cases first
    decide
  have ends : Text.EndsApart [' '] := by
    intro c last
    cases last
    decide
  have closed : Text.IsClosed [' '] := rfl
  have keyword : ofMark? "and".toList = some (.keyword .and "and".toList) := by decide
  have blank : ofText [' '] = [.filter [' ']] := rfl
  rw [whole, ofText_padded before shape (apart _),
    ofText_append_keyword closed ends (apart _) (by decide) keyword, blank, List.singleton_append, consFilter,
    List.append_assoc]

end Piece

namespace Formula

/-- A formula that is a conjunction of leaves has no other connective. -/
theorem only_and_of_conjuncts? {α : Type} {f : Formula α} {cs : List α} (conjuncts : f.conjuncts? = some cs) :
    f.containsOr = false ∧ f.containsNot = false := by
  induction f generalizing cs with
  | leaf => exact ⟨rfl, rfl⟩
  | and l r leftIh rightIh =>
    obtain ⟨left, atLeft, conjuncts⟩ := Option.bind_eq_some_iff.mp conjuncts
    obtain ⟨right, atRight, _⟩ := Option.bind_eq_some_iff.mp conjuncts
    simp [containsOr, containsNot, leftIh atLeft, rightIh atRight]
  | or | not => cases conjuncts

/-- A filter extends the conjunction to its left. -/
theorem exists_conjoined {left : Option (Formula Clause)} {ts : List Token} {done : List Clause}
    (spelled : SpellsLeft .conjunction .and 0 left ts) (conjuncts : left.elim (some []) conjuncts? = some done)
    (t : Text) (first stop : Nat) :
    ∃ f, Spells .conjunction (ts ++ [⟨.expression, t, first, stop⟩]) f 0 ∧
      f.conjuncts? = some (done ++ [⟨t, first, stop⟩]) := by
  have operand : Spells .operand [⟨.expression, t, first, stop⟩] (.leaf ⟨t, first, stop⟩) 0 := .primary (.filter rfl)
  cases left with
  | none =>
    cases spelled
    cases conjuncts
    exact ⟨_, .operand operand, rfl⟩
  | some f =>
    obtain ⟨us, u, depth, rfl, kind, spells, within⟩ := spelled
    rw [Nat.le_zero.mp within] at spells
    refine ⟨.and f (.leaf ⟨t, first, stop⟩), ?_, ?_⟩
    · rw [List.append_assoc]
      exact .and spells kind operand
    · have atLeft : f.conjuncts? = some done := conjuncts
      simp [conjuncts?, atLeft]

/-- A clause of a report is laid out without the blanks around it. -/
theorem place_clause {t a b : Text} (shape : ClauseShape t) (before : a.IsPad) (after : b.IsPad) (l : Layout)
    (start : Nat) :
    ∃ first stop, l.place start (.filter (a ++ (t ++ b))) = .ok (l.push .expression t first stop) := by
  have trim := shape.isTrimmed.trim_padded before.isBlank after.isBlank
  rcases l.pushFilter_cases start (a ++ (t ++ b)) with ⟨blank, _⟩ | ⟨_, first, stop, eq⟩
  · rw [trim] at blank
    exact absurd blank shape.isTrimmed.ne_nil
  · refine ⟨first, stop, ?_⟩
    rw [Layout.place, eq, trim]

theorem place_and {l : Layout} (operand : l.afterOperand = true) (start : Nat) :
    ∃ u : Token, u.kind = .and ∧
      l.place start (.keyword .and "and".toList) = .ok { l with tokens := u :: l.tokens } :=
  ⟨_, rfl, Layout.pushKeyword_ok_iff.mpr ⟨operand, rfl⟩⟩

/-- The clauses of a report are laid out as a conjunction, behind what is already there. -/
theorem placeAll_join {t : Text} {ts : List Text} (shapes : ∀ u ∈ t :: ts, ClauseShape u) {a : Text}
    (before : a.IsPad) {l : Layout} {left : Option (Formula Clause)} {done : List Clause}
    (spelled : SpellsLeft .conjunction .and 0 left l.tokens.reverse)
    (conjuncts : left.elim (some []) conjuncts? = some done) (start : Nat) :
    Piece.depthAfter 0 (Piece.ofText (a ++ Text.join " and ".toList (t :: ts))) = some 0 ∧
      ∃ final f cs, l.placeAll start (Piece.ofText (a ++ Text.join " and ".toList (t :: ts))) = .ok final ∧
        Spells .conjunction final.tokens.reverse f 0 ∧ f.conjuncts? = some (done ++ cs) ∧
        cs.map Clause.text = t :: ts := by
  induction ts generalizing t a l left done start with
  | nil =>
    have shape := shapes t List.mem_cons_self
    obtain ⟨first, stop, placed⟩ := place_clause shape before (Or.inl rfl) l start
    obtain ⟨f, whole, parts⟩ := exists_conjoined spelled conjuncts t first stop
    rw [List.append_nil] at placed
    rw [Piece.ofText_last before shape, Layout.placeAll_cons placed]
    refine ⟨rfl, _, f, [⟨t, first, stop⟩], rfl, ?_, parts, rfl⟩
    rwa [Layout.push, List.reverse_cons]
  | cons t' ts ih =>
    have shape := shapes t List.mem_cons_self
    obtain ⟨first, stop, placed⟩ := place_clause shape before (Or.inr rfl) l start
    obtain ⟨f, whole, parts⟩ := exists_conjoined spelled conjuncts t first stop
    rw [Piece.ofText_more before shape, Layout.placeAll_cons placed]
    obtain ⟨u, kind, placed'⟩ := place_and (l := l.push .expression t first stop) rfl
      (start + (Piece.filter (a ++ (t ++ [' ']))).text.length)
    rw [Layout.placeAll_cons placed']
    let next : Layout := { l.push .expression t first stop with tokens := u :: (l.push .expression t first stop).tokens }
    have waits : SpellsLeft .conjunction .and 0 (some f) next.tokens.reverse := by
      refine ⟨_, u, 0, List.reverse_cons, kind, ?_, Nat.le_refl 0⟩
      rwa [Layout.push, List.reverse_cons]
    have conjuncts' : (some f).elim (some []) conjuncts? = some (done ++ [⟨t, first, stop⟩]) := parts
    obtain ⟨brackets, final, g, cs, run, spells, all, texts⟩ :=
      ih (fun u member => shapes u (List.mem_cons_of_mem _ member)) (Or.inr rfl) waits conjuncts' _
    refine ⟨brackets, final, g, ⟨t, first, stop⟩ :: cs, run, spells, ?_, by rw [List.map_cons, texts]⟩
    rw [all, List.append_assoc, List.singleton_append]

/-- The filters of a report are read as a conjunction of the clauses that were written. -/
theorem exists_conjunction_of_join {ts : List Text} (shapes : ∀ t ∈ ts, ClauseShape t) (maxDepth : Nat) :
    ∃ f cs, ofText? .search maxDepth (Text.join " and ".toList ts) = .ok f ∧
      Scope.conjunction f = .ok cs ∧ cs.map Clause.text = ts := by
  cases ts with
  | nil => exact ⟨none, [], rfl, rfl, rfl⟩
  | cons t ts =>
    have start : SpellsLeft .conjunction .and 0 none Layout.empty.tokens.reverse := rfl
    have noneYet : Option.elim none (some []) (conjuncts? (α := Clause)) = some [] := rfl
    obtain ⟨brackets, l, f, cs, placed, spells, conjuncts, texts⟩ :=
      placeAll_join shapes (Or.inl rfl) start noneYet 0
    obtain ⟨noOr, noNot⟩ := only_and_of_conjuncts? conjuncts
    refine ⟨some f, cs, ofText?_eq_some_iff.mpr ⟨fun _ => noOr, l, 0, Nat.zero_le _, brackets, placed,
      .conjunction spells⟩, ?_, texts⟩
    simp [Scope.conjunction, noNot, conjuncts]

end Formula

end IssueQuery
