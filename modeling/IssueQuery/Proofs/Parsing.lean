import IssueQuery.Proofs.Grammar
import IssueQuery.Proofs.Success

namespace IssueQuery.Formula

/-- The formula that `n` `not`s make of an operand. -/
theorem repeat_not_succ (n : Nat) (f : Formula Clause) :
    (n + 1).repeat Formula.not f = n.repeat .not (.not f) := by
  induction n with
  | zero => rfl
  | succ n ih => exact congrArg Formula.not ih

namespace Reading

variable {maxDepth : Nat}

theorem run_cons {last t : Token} {ts : List Token} {r next : Reading}
    (step : r.step maxDepth ts.isEmpty t = .ok next) :
    run maxDepth last (t :: ts) r = run maxDepth t ts next := by
  simp [run, step, bind, Except.bind]

/-- The reading of a phrase before `rest`: from a place where the phrase may stand to the place after
it. The nesting limit has to leave room for the phrase. -/
def Passes (maxDepth : Nat) (ts : List Token) (f : Formula Clause) (depth : Nat) : Phrase → Prop
  | .disjunction => ∀ last rest groups, nesting .empty groups + depth ≤ maxDepth →
      ∃ last' disjunct conjunction, disjoin disjunct conjunction = f ∧
        run maxDepth last (ts ++ rest) (.before .empty groups) =
          run maxDepth last' rest (.after disjunct conjunction groups)
  | .conjunction => ∀ last rest disjunct groups,
      nesting ⟨disjunct, none, 0⟩ groups + depth ≤ maxDepth →
      ∃ last', run maxDepth last (ts ++ rest) (.before ⟨disjunct, none, 0⟩ groups) =
        run maxDepth last' rest (.after disjunct f groups)
  | .operand | .primary => ∀ last rest p groups, nesting p groups + depth ≤ maxDepth →
      ∃ last', run maxDepth last (ts ++ rest) (.before p groups) =
        run maxDepth last' rest (operand p groups f)

theorem step_before {isLast : Bool} {t : Token} {p : Pending} {groups : Groups} {next : Reading}
    (step : step maxDepth isLast t (.before p groups) = .ok next) :
    (t.kind = .expression ∧ next = operand p groups (.leaf ⟨t.text, t.start, t.stop⟩)) ∨
      (t.kind = .not ∧ isLast = false ∧ nesting p groups < maxDepth ∧
        next = .before { p with negations := p.negations + 1 } groups) ∨
      (t.kind = .openBracket ∧ nesting p groups < maxDepth ∧ next = .before .empty (p :: groups)) := by
  cases kind : t.kind <;> simp only [Reading.step, kind] at step
  case expression =>
    cases step
    exact Or.inl ⟨rfl, rfl⟩
  case not =>
    split at step
    · cases step
    · rename_i more
      split at step
      · cases step
      · cases step
        exact Or.inr (Or.inl ⟨rfl, Bool.eq_false_iff.mpr more, by omega, rfl⟩)
  case openBracket =>
    split at step
    · cases step
    · cases step
      exact Or.inr (Or.inr ⟨rfl, by omega, rfl⟩)
  all_goals cases step

theorem step_after {isLast : Bool} {t : Token} {disjunct : Option (Formula Clause)}
    {conjunction : Formula Clause} {groups : Groups} {next : Reading}
    (step : step maxDepth isLast t (.after disjunct conjunction groups) = .ok next) :
    (t.kind = .and ∧ next = .before ⟨disjunct, some conjunction, 0⟩ groups) ∨
      (t.kind = .or ∧ next = .before ⟨some (disjoin disjunct conjunction), none, 0⟩ groups) ∨
      (t.kind = .closeBracket ∧ ∃ p outer, groups = p :: outer ∧
        next = operand p outer (disjoin disjunct conjunction)) := by
  cases kind : t.kind <;> cases groups <;> simp only [Reading.step, kind] at step <;> cases step
  case and.nil | and.cons => exact Or.inl ⟨rfl, rfl⟩
  case or.nil | or.cons => exact Or.inr (Or.inl ⟨rfl, rfl⟩)
  case closeBracket.cons p outer => exact Or.inr (Or.inr ⟨rfl, p, outer, rfl, rfl⟩)

theorem passes_filter {t : Token} (kind : t.kind = .expression) :
    Passes maxDepth [t] (.leaf ⟨t.text, t.start, t.stop⟩) 0 .primary := by
  intro last rest p groups _
  exact ⟨t, run_cons (by simp [step, kind])⟩

theorem passes_group {opening closing : Token} {ts : List Token} {f : Formula Clause} {depth : Nat}
    (opens : opening.kind = .openBracket) (closes : closing.kind = .closeBracket)
    (inner : Passes maxDepth ts f depth .disjunction) :
    Passes maxDepth (opening :: (ts ++ [closing])) f (depth + 1) .primary := by
  intro last rest p groups room
  have deeper : nesting .empty (p :: groups) = nesting p groups + 1 := by
    simp only [nesting, Pending.empty, enclosing]
    omega
  obtain ⟨last', disjunct, conjunction, whole, run⟩ :=
    inner opening (closing :: rest) (p :: groups) (by omega)
  refine ⟨closing, ?_⟩
  rw [List.cons_append, List.append_assoc, List.singleton_append]
  have enter : step maxDepth (ts ++ closing :: rest).isEmpty opening (.before p groups) =
      .ok (.before .empty (p :: groups)) := by
    simp only [step, opens, if_neg (show ¬ maxDepth ≤ nesting p groups by omega)]
  have leave : step maxDepth rest.isEmpty closing (.after disjunct conjunction (p :: groups)) =
      .ok (operand p groups f) := by
    simp only [step, closes, whole]
  rw [run_cons enter, run, run_cons leave]

theorem passes_not {t : Token} {ts : List Token} {f : Formula Clause} {depth : Nat}
    (kind : t.kind = .not) (nonempty : ts ≠ []) (inner : Passes maxDepth ts f depth .operand) :
    Passes maxDepth (t :: ts) (.not f) (depth + 1) .operand := by
  intro last rest p groups room
  have deeper : nesting { p with negations := p.negations + 1 } groups = nesting p groups + 1 := by
    simp only [nesting]
    omega
  obtain ⟨last', run⟩ := inner t rest { p with negations := p.negations + 1 } groups (by omega)
  refine ⟨last', ?_⟩
  have enter : step maxDepth (ts ++ rest).isEmpty t (.before p groups) =
      .ok (.before { p with negations := p.negations + 1 } groups) := by
    have more : (ts ++ rest).isEmpty = false := by simp [nonempty]
    simp only [step, kind, more, if_neg (show ¬ maxDepth ≤ nesting p groups by omega)]
    rfl
  rw [List.cons_append, run_cons enter, run]
  simp only [operand, Pending.conjoin, repeat_not_succ]

theorem passes_and {t : Token} {ts us : List Token} {f g : Formula Clause} {left right : Nat}
    (kind : t.kind = .and) (first : Passes maxDepth ts f left .conjunction)
    (second : Passes maxDepth us g right .operand) :
    Passes maxDepth (ts ++ t :: us) (.and f g) (max left right) .conjunction := by
  intro last rest disjunct groups room
  obtain ⟨_, runFirst⟩ := first last (t :: us ++ rest) disjunct groups (by omega)
  obtain ⟨last', runSecond⟩ := second t rest ⟨disjunct, some f, 0⟩ groups (by
    simp only [nesting] at room ⊢
    omega)
  refine ⟨last', ?_⟩
  have between : step maxDepth (us ++ rest).isEmpty t (.after disjunct f groups) =
      .ok (.before ⟨disjunct, some f, 0⟩ groups) := by
    simp only [step, kind]
  rw [List.append_assoc, runFirst, List.cons_append, run_cons between, runSecond]
  rfl

theorem passes_or {t : Token} {ts us : List Token} {f g : Formula Clause} {left right : Nat}
    (kind : t.kind = .or) (first : Passes maxDepth ts f left .disjunction)
    (second : Passes maxDepth us g right .conjunction) :
    Passes maxDepth (ts ++ t :: us) (.or f g) (max left right) .disjunction := by
  intro last rest groups room
  obtain ⟨_, disjunct, conjunction, whole, runFirst⟩ := first last (t :: us ++ rest) groups (by omega)
  obtain ⟨last', runSecond⟩ := second t rest (some f) groups (by
    simp only [nesting, Pending.empty] at room ⊢
    omega)
  refine ⟨last', some f, g, rfl, ?_⟩
  have between : step maxDepth (us ++ rest).isEmpty t (.after disjunct conjunction groups) =
      .ok (.before ⟨some f, none, 0⟩ groups) := by
    simp only [step, kind, whole]
  rw [List.append_assoc, runFirst, List.cons_append, run_cons between, runSecond]

/-- Reading follows every phrase of the grammar from its first token to its last. -/
theorem passes_of_spells {phrase : Phrase} {ts : List Token} {f : Formula Clause} {depth : Nat}
    (h : Spells phrase ts f depth) : Passes maxDepth ts f depth phrase := by
  induction h with
  | filter kind => exact passes_filter kind
  | group opens closes _ ih => exact passes_group opens closes ih
  | primary _ ih => exact ih
  | not kind inner ih => exact passes_not kind inner.ne_nil ih
  | operand _ ih => exact fun last rest disjunct groups => ih last rest ⟨disjunct, none, 0⟩ groups
  | and _ kind _ leftIh rightIh => exact passes_and kind leftIh rightIh
  | conjunction _ ih =>
    intro last rest groups room
    obtain ⟨last', run⟩ := ih last rest none groups room
    exact ⟨last', none, _, rfl, run⟩
  | or _ kind _ leftIh rightIh => exact passes_or kind leftIh rightIh

end Reading

/-- The tokens of a phrase are read as what it spells if no token is enclosed too deeply. -/
theorem ofTokens?_of_spells {maxDepth : Nat} {ts : List Token} {f : Formula Clause} {depth : Nat}
    (spells : Spells .disjunction ts f depth) (within : depth ≤ maxDepth) :
    ofTokens? maxDepth ts = .ok (some f) := by
  obtain ⟨t, us, rfl⟩ := List.exists_cons_of_ne_nil spells.ne_nil
  have room : nesting .empty [] + depth ≤ maxDepth := by simpa [nesting, Pending.empty, enclosing] using within
  obtain ⟨last, disjunct, conjunction, whole, run⟩ :=
    Reading.passes_of_spells spells t [] [] room
  rw [List.append_nil] at run
  rw [ofTokens?, run]
  simp only [Reading.run, Reading.finish, whole]
  rfl

/-- The tokens of the left side of a pending connective, up to the connective. -/
def SpellsLeft (phrase : Phrase) (connective : Token.Kind) (room : Nat) :
    Option (Formula Clause) → List Token → Prop
  | none, ts => ts = []
  | some f, ts => ∃ us t depth, ts = us ++ [t] ∧ t.kind = connective ∧ Spells phrase us f depth ∧ depth ≤ room

/-- The tokens that stand before an operand within its group, where `room` more brackets and `not`s may
enclose what follows the start of the group. -/
def Pending.Spelled (p : Pending) (room : Nat) (ts : List Token) : Prop :=
  ∃ ds cs ns, ts = ds ++ (cs ++ ns) ∧ SpellsLeft .disjunction .or room p.disjunct ds ∧
    SpellsLeft .conjunction .and room p.conjunct cs ∧ (∀ t ∈ ns, t.kind = .not) ∧
    ns.length = p.negations ∧ p.negations ≤ room

/-- The tokens up to the last bracket that is open, and the room that is left within it. -/
inductive GroupsSpelled (maxDepth : Nat) : Groups → List Token → Nat → Prop
  | none : GroupsSpelled maxDepth [] [] maxDepth
  | opened {p : Pending} {outer : Groups} {us vs : List Token} {opening : Token} {room : Nat} :
      GroupsSpelled maxDepth outer us (room + p.negations + 1) →
      p.Spelled (room + p.negations + 1) vs → opening.kind = .openBracket →
      GroupsSpelled maxDepth (p :: outer) (us ++ vs ++ [opening]) room

/-- The tokens that have been read. -/
inductive Reading.Spelled (maxDepth : Nat) : Reading → List Token → Prop
  | before {p : Pending} {groups : Groups} {us vs : List Token} {room : Nat} :
      GroupsSpelled maxDepth groups us room → p.Spelled room vs →
      Spelled maxDepth (.before p groups) (us ++ vs)
  | after {disjunct : Option (Formula Clause)} {conjunction : Formula Clause} {groups : Groups}
      {us ds cs : List Token} {room depth : Nat} : GroupsSpelled maxDepth groups us room →
      SpellsLeft .disjunction .or room disjunct ds → Spells .conjunction cs conjunction depth →
      depth ≤ room → Spelled maxDepth (.after disjunct conjunction groups) (us ++ (ds ++ cs))

theorem Pending.empty_spelled (room : Nat) : Pending.empty.Spelled room [] :=
  ⟨[], [], [], rfl, rfl, rfl, by simp, rfl, Nat.zero_le _⟩

theorem Pending.Spelled.negations_le {p : Pending} {room : Nat} {ts : List Token}
    (h : p.Spelled room ts) : p.negations ≤ room := by
  obtain ⟨_, _, _, _, _, _, _, _, within⟩ := h
  exact within

theorem Pending.Spelled.negate {p : Pending} {room : Nat} {ts : List Token} {t : Token}
    (h : p.Spelled room ts) (kind : t.kind = .not) (fits : p.negations < room) :
    Spelled { p with negations := p.negations + 1 } room (ts ++ [t]) := by
  obtain ⟨ds, cs, ns, rfl, disjunct, conjunct, negates, count, _⟩ := h
  refine ⟨ds, cs, ns ++ [t], by simp, disjunct, conjunct, ?_, by simp [count], fits⟩
  intro u member
  rcases List.mem_append.mp member with old | new
  · exact negates u old
  · rw [List.mem_singleton.mp new, kind]

theorem GroupsSpelled.room_eq {maxDepth : Nat} {groups : Groups} {ts : List Token} {room : Nat}
    (h : GroupsSpelled maxDepth groups ts room) :
    room + enclosing groups = maxDepth := by
  induction h with
  | none => rfl
  | opened _ _ _ ih =>
    rw [enclosing]
    omega

/-- Whether a bracket or a `not` may follow is decided by the room that its group leaves. -/
theorem GroupsSpelled.nesting_lt_iff {maxDepth : Nat} {groups : Groups} {ts : List Token} {room : Nat}
    (h : GroupsSpelled maxDepth groups ts room) (p : Pending) :
    nesting p groups < maxDepth ↔ p.negations < room := by
  have total := h.room_eq
  simp only [nesting]
  omega

theorem spells_negated {ns ts : List Token} {f : Formula Clause} {depth : Nat}
    (negates : ∀ t ∈ ns, t.kind = .not) (operand : Spells .operand ts f depth) :
    Spells .operand (ns ++ ts) (ns.length.repeat .not f) (ns.length + depth) := by
  induction ns with
  | nil => simpa [Nat.repeat] using operand
  | cons n ns ih =>
    have rest := ih fun t member => negates t (List.mem_cons_of_mem _ member)
    have whole := Spells.not (negates n List.mem_cons_self) rest
    rw [List.length_cons, show ns.length + 1 + depth = ns.length + depth + 1 by omega]
    exact whole

/-- A conjunct completes the disjunction to its left. -/
theorem spells_disjoin {disjunct : Option (Formula Clause)} {ds cs : List Token} {f : Formula Clause}
    {room depth : Nat} (left : SpellsLeft .disjunction .or room disjunct ds)
    (right : Spells .conjunction cs f depth) (within : depth ≤ room) :
    ∃ total ≤ room, Spells .disjunction (ds ++ cs) (disjoin disjunct f) total := by
  cases disjunct with
  | none =>
    cases left
    exact ⟨depth, within, .conjunction right⟩
  | some g =>
    obtain ⟨us, t, depth', rfl, kind, spells, within'⟩ := left
    refine ⟨max depth' depth, by omega, ?_⟩
    rw [List.append_assoc]
    exact .or spells kind right

/-- An operand completes the conjunction to its left. -/
theorem Pending.Spelled.conjoin {p : Pending} {room depth : Nat} {vs ws : List Token}
    {f : Formula Clause} (spelled : p.Spelled room vs) (operand : Spells .operand ws f depth)
    (within : p.negations + depth ≤ room) :
    ∃ ds cs total, vs ++ ws = ds ++ cs ∧ SpellsLeft .disjunction .or room p.disjunct ds ∧
      Spells .conjunction cs (p.conjoin f) total ∧ total ≤ room := by
  obtain ⟨ds, cs, ns, rfl, disjunct, conjunct, negates, count, _⟩ := spelled
  have negated := spells_negated negates operand
  rw [count] at negated
  cases eq : p.conjunct with
  | none =>
    rw [eq] at conjunct
    cases conjunct
    refine ⟨ds, ns ++ ws, p.negations + depth, by simp, disjunct, ?_, within⟩
    simp only [Pending.conjoin, eq]
    exact .operand negated
  | some g =>
    rw [eq] at conjunct
    obtain ⟨us, t, depth', rfl, kind, spells, within'⟩ := conjunct
    refine ⟨ds, us ++ t :: (ns ++ ws), _, by simp, disjunct, ?_, Nat.max_le.mpr ⟨within', within⟩⟩
    simp only [Pending.conjoin, eq]
    exact .and spells kind negated

theorem Reading.spelled_operand {maxDepth : Nat} {p : Pending} {groups : Groups} {room depth : Nat}
    {us vs ws : List Token} {f : Formula Clause} (outer : GroupsSpelled maxDepth groups us room)
    (spelled : p.Spelled room vs) (spells : Spells .operand ws f depth)
    (within : p.negations + depth ≤ room) :
    (Reading.operand p groups f).Spelled maxDepth (us ++ vs ++ ws) := by
  obtain ⟨ds, cs, total, eq, disjunct, conjunction, bound⟩ := spelled.conjoin spells within
  rw [List.append_assoc, eq]
  exact .after outer disjunct conjunction bound

/-- Every step accounts for the token that it reads. -/
theorem Reading.step_spelled {maxDepth : Nat} {isLast : Bool} {t : Token} {r next : Reading}
    {ts : List Token} (spelled : r.Spelled maxDepth ts) (step : r.step maxDepth isLast t = .ok next) :
    next.Spelled maxDepth (ts ++ [t]) := by
  cases spelled with
  | @before p groups us vs room outer before =>
    rcases step_before step with ⟨kind, rfl⟩ | ⟨kind, _, fits, rfl⟩ | ⟨kind, fits, rfl⟩
    · exact spelled_operand outer before (.primary (.filter kind)) before.negations_le
    · rw [List.append_assoc]
      exact .before outer (before.negate kind ((outer.nesting_lt_iff p).mp fits))
    · have deeper := (outer.nesting_lt_iff p).mp fits
      obtain ⟨inner, rfl⟩ : ∃ inner, room = inner + p.negations + 1 := ⟨room - p.negations - 1, by omega⟩
      have opened := Reading.Spelled.before (.opened outer before kind) (Pending.empty_spelled inner)
      rwa [List.append_nil] at opened
  | @after disjunct conjunction groups us ds cs room depth outer left right within =>
    rcases step_after step with ⟨kind, rfl⟩ | ⟨kind, rfl⟩ | ⟨kind, p, groups, rfl, rfl⟩
    · rw [List.append_assoc, List.append_assoc]
      exact .before outer ⟨ds, cs ++ [t], [], by simp, left, ⟨cs, t, depth, rfl, kind, right, within⟩,
        by simp, rfl, Nat.zero_le _⟩
    · obtain ⟨total, bound, whole⟩ := spells_disjoin left right within
      rw [List.append_assoc]
      exact .before outer ⟨ds ++ cs ++ [t], [], [], by simp, ⟨_, t, total, rfl, kind, whole, bound⟩, rfl,
        by simp, rfl, Nat.zero_le _⟩
    · obtain ⟨total, bound, whole⟩ := spells_disjoin left right within
      cases outer with
      | @opened _ _ us vs opening _ outer before opens =>
        have group := Spells.primary (.group opens kind whole)
        have closed := spelled_operand outer before group (by omega)
        simpa using closed

/-- A run that succeeds has read a disjunction, all of it within the nesting limit. -/
theorem Reading.spells_of_run {maxDepth : Nat} {last : Token} {us : List Token} {r : Reading}
    {f : Formula Clause} {ts : List Token} (spelled : r.Spelled maxDepth ts)
    (run : run maxDepth last us r = .ok f) :
    ∃ depth ≤ maxDepth, Spells .disjunction (ts ++ us) f depth := by
  induction us generalizing last r ts with
  | nil =>
    cases spelled with
    | before => cases run
    | @after disjunct conjunction groups us ds cs room depth outer left right within =>
      cases outer with
      | none =>
        cases run
        obtain ⟨total, bound, whole⟩ := spells_disjoin left right within
        exact ⟨total, bound, by simpa using whole⟩
      | opened => cases run
  | cons t us ih =>
    obtain ⟨next, step, run⟩ := bind_eq_ok_iff.mp run
    obtain ⟨depth, bound, whole⟩ := ih (step_spelled spelled step) run
    exact ⟨depth, bound, by simpa using whole⟩

/-- Tokens that are read as a formula are a disjunction that spells it. -/
theorem spells_of_ofTokens? {maxDepth : Nat} {ts : List Token} {f : Formula Clause}
    (read : ofTokens? maxDepth ts = .ok (some f)) :
    ∃ depth ≤ maxDepth, Spells .disjunction ts f depth := by
  cases ts with
  | nil => cases read
  | cons t ts =>
    rw [ofTokens?] at read
    cases run : Reading.run maxDepth t (t :: ts) (.before .empty []) with
    | error =>
      rw [run] at read
      cases read
    | ok =>
      rw [run] at read
      cases read
      have start : (Reading.before .empty []).Spelled maxDepth ([] ++ []) :=
        .before .none (Pending.empty_spelled maxDepth)
      exact Reading.spells_of_run start run

/-- Reading tokens accepts exactly the grammar within the nesting limit and yields what the grammar
says. Only the empty list reads as no formula. -/
theorem ofTokens?_ok_iff (maxDepth : Nat) (ts : List Token) :
    (ofTokens? maxDepth ts = .ok none ↔ ts = []) ∧
      ∀ f, ofTokens? maxDepth ts = .ok (some f) ↔
        ∃ depth ≤ maxDepth, Spells .disjunction ts f depth := by
  refine ⟨⟨?_, ?_⟩, fun f => ⟨spells_of_ofTokens?, ?_⟩⟩
  · intro read
    cases ts with
    | nil => rfl
    | cons t ts =>
      rw [ofTokens?] at read
      cases run : Reading.run maxDepth t (t :: ts) (.before .empty []) <;> rw [run] at read <;> cases read
  · rintro rfl
    rfl
  · rintro ⟨depth, within, spells⟩
    exact ofTokens?_of_spells spells within

end IssueQuery.Formula
