import IssueQuery.Formula.OfText
import IssueQuery.Proofs.Grammar

namespace IssueQuery

/-- Two steps that both succeed with results that are related, or both fail with errors of one kind. -/
inductive SameOutcome {α β : Type} (r : α → β → Prop) : Except QueryError α → Except QueryError β → Prop
  | ok {a : α} {b : β} : r a b → SameOutcome r (.ok a) (.ok b)
  | error {e e' : QueryError} : e.ctorIdx = e'.ctorIdx → SameOutcome r (.error e) (.error e')

namespace SameOutcome

variable {α α' β β' γ : Type} {r : α → β → Prop} {x : Except QueryError α} {y : Except QueryError β}

theorem refl {r : α → α → Prop} (reflexive : ∀ a, r a a) (x : Except QueryError α) : SameOutcome r x x := by
  cases x with
  | error e => exact .error rfl
  | ok a => exact .ok (reflexive a)

theorem mono {r' : α → β → Prop} (first : SameOutcome r x y)
    (weaker : ∀ a b, x = .ok a → y = .ok b → r a b → r' a b) : SameOutcome r' x y := by
  cases first with
  | ok related => exact .ok (weaker _ _ rfl rfl related)
  | error same => exact .error same

theorem bind {r' : α' → β' → Prop} {f : α → Except QueryError α'} {g : β → Except QueryError β'}
    (first : SameOutcome r x y) (second : ∀ a b, x = .ok a → y = .ok b → r a b → SameOutcome r' (f a) (g b)) :
    SameOutcome r' (x >>= f) (y >>= g) := by
  cases first with
  | ok related => exact second _ _ rfl rfl related
  | error same => exact .error same

theorem map {r' : α' → β' → Prop} {f : α → α'} {g : β → β'} (first : SameOutcome r x y)
    (second : ∀ a b, x = .ok a → y = .ok b → r a b → r' (f a) (g b)) : SameOutcome r' (x.map f) (y.map g) := by
  cases first with
  | ok related => exact .ok (second _ _ rfl rfl related)
  | error same => exact .error same

/-- Two steps that end as a third one does end alike. -/
theorem both {r' : γ → β → Prop} {z : Except QueryError γ} (first : SameOutcome r x y) (second : SameOutcome r' z y) :
    SameOutcome (fun a c => ∃ b, r a b ∧ r' c b) x z := by
  cases first with
  | ok related =>
    cases second with
    | ok related' => exact .ok ⟨_, related, related'⟩
  | error same =>
    cases second with
    | error same' => exact .error (same.trans same'.symm)

end SameOutcome

/-- A token without its text and its place. -/
def Token.erase (t : Token) : Token := ⟨t.kind, [], 0, 0⟩

namespace Formula

/-- A formula without what its leaves hold. -/
def shape {α : Type} (f : Formula α) : Formula Unit := f.map fun _ => ()

/-- A formula with blank leaves. -/
def erase (f : Formula Clause) : Formula Clause := f.map fun _ => ⟨[], 0, 0⟩

theorem shape_erase (f : Formula Clause) : f.erase.shape = f.shape := by
  induction f with
  | leaf => rfl
  | and l r left right | or l r left right =>
    simp only [shape, erase, map] at left right ⊢
    rw [left, right]
  | not p ih => exact congrArg Formula.not ih

theorem containsOr_shape {α : Type} (f : Formula α) : f.shape.containsOr = f.containsOr := by
  induction f with
  | leaf | or => rfl
  | and l r left right =>
    simp only [shape, map, containsOr] at left right ⊢
    rw [left, right]
  | not p ih => exact ih

theorem erase_repeat_not (n : Nat) (f : Formula Clause) : (n.repeat .not f).erase = n.repeat .not f.erase := by
  induction n with
  | zero => rfl
  | succ n ih => exact congrArg Formula.not ih

theorem erase_disjoin (left : Option (Formula Clause)) (right : Formula Clause) :
    (disjoin left right).erase = disjoin (left.map erase) right.erase := by
  cases left <;> rfl

def Pending.erase (p : Pending) : Pending :=
  ⟨p.disjunct.map Formula.erase, p.conjunct.map Formula.erase, p.negations⟩

theorem Pending.erase_conjoin (p : Pending) (f : Formula Clause) : (p.conjoin f).erase = p.erase.conjoin f.erase := by
  obtain ⟨disjunct, conjunct, negations⟩ := p
  cases conjunct with
  | none => exact erase_repeat_not negations f
  | some left => exact congrArg (Formula.and left.erase) (erase_repeat_not negations f)

theorem enclosing_erase (groups : Groups) : enclosing (groups.map Pending.erase) = enclosing groups := by
  induction groups with
  | nil => rfl
  | cons p outer ih => rw [List.map_cons, enclosing, ih, enclosing]; rfl

theorem nesting_erase (p : Pending) (groups : Groups) :
    nesting p.erase (groups.map Pending.erase) = nesting p groups := by
  rw [nesting, enclosing_erase, nesting]
  rfl

namespace Reading

def erase : Reading → Reading
  | .before p groups => .before p.erase (groups.map Pending.erase)
  | .after disjunct conjunction groups =>
    .after (disjunct.map Formula.erase) conjunction.erase (groups.map Pending.erase)

theorem erase_before (p : Pending) (groups : Groups) :
    (before p groups).erase = .before p.erase (groups.map Pending.erase) := rfl

theorem erase_after (disjunct : Option (Formula Clause)) (conjunction : Formula Clause) (groups : Groups) :
    (after disjunct conjunction groups).erase =
      .after (disjunct.map Formula.erase) conjunction.erase (groups.map Pending.erase) := rfl

theorem erase_operand (p : Pending) (groups : Groups) (f : Formula Clause) :
    (operand p groups f).erase = operand p.erase (groups.map Pending.erase) f.erase := by
  rw [operand, erase, p.erase_conjoin]
  rfl

/-- Reading a token goes on in the same way without texts and places. -/
theorem step_erase (maxDepth : Nat) (isLast : Bool) (t : Token) (r : Reading) :
    SameOutcome (fun next erased => next.erase = erased) (r.step maxDepth isLast t)
      (r.erase.step maxDepth isLast t.erase) := by
  cases r with
  | before p groups =>
    cases kind : t.kind
    all_goals simp only [step, erase_before, Token.erase, kind, nesting_erase]
    case expression => exact .ok (erase_operand p groups _)
    case not =>
      split
      · exact .error rfl
      · split
        · exact .error rfl
        · exact .ok rfl
    case openBracket =>
      split
      · exact .error rfl
      · exact .ok rfl
    all_goals exact .error rfl
  | after disjunct conjunction groups =>
    cases kind : t.kind
    all_goals simp only [step, erase_after, Token.erase, kind]
    case and => exact .ok rfl
    case or =>
      refine .ok ?_
      rw [erase_before, Pending.erase, Option.map_some, erase_disjoin]
      rfl
    case closeBracket =>
      cases groups with
      | nil => exact .error rfl
      | cons p outer => exact .ok (by rw [erase_operand, erase_disjoin])
    all_goals exact .error rfl

theorem finish_erase (last last' : Token) (r : Reading) :
    SameOutcome (fun f erased => f.erase = erased) (r.finish last) (r.erase.finish last') := by
  cases r with
  | before => exact .error rfl
  | after disjunct conjunction groups =>
    cases groups with
    | nil => exact .ok (erase_disjoin disjunct conjunction)
    | cons => exact .error rfl

theorem run_erase (maxDepth : Nat) (last last' : Token) (ts : List Token) (r : Reading) :
    SameOutcome (fun f erased => f.erase = erased) (run maxDepth last ts r)
      (run maxDepth last' (ts.map Token.erase) r.erase) := by
  induction ts generalizing last last' r with
  | nil => exact finish_erase last last' r
  | cons t ts ih =>
    have step := step_erase maxDepth ts.isEmpty t r
    rw [List.map_cons, run, run, List.isEmpty_map]
    refine step.bind fun next erased _ _ same => ?_
    rw [← same]
    exact ih t t.erase next

end Reading

/-- The kinds of the tokens decide whether they are read as a formula, of which shape it is, and else which
kind of error there is. -/
theorem ofTokens?_of_kinds (maxDepth : Nat) {ts us : List Token} (same : us.map Token.kind = ts.map Token.kind) :
    SameOutcome (fun f g => f.map shape = g.map shape) (ofTokens? maxDepth ts) (ofTokens? maxDepth us) := by
  have erased : us.map Token.erase = ts.map Token.erase := by
    have spell (vs : List Token) : vs.map Token.erase = (vs.map Token.kind).map fun k => ⟨k, [], 0, 0⟩ := by
      rw [List.map_map]
      rfl
    rw [spell, same, ← spell]
  cases ts with
  | nil =>
    rw [List.map_eq_nil_iff.mp same]
    exact .ok rfl
  | cons t ts =>
    cases us with
    | nil => cases same
    | cons u us =>
      have first := Reading.run_erase maxDepth t t (t :: ts) (.before .empty [])
      have second := Reading.run_erase maxDepth u t (u :: us) (.before .empty [])
      rw [erased] at second
      refine (first.both second).map fun f g _ _ related => ?_
      obtain ⟨h, rfl, eq⟩ := related
      rw [Option.map_some, Option.map_some, ← shape_erase f, ← eq, shape_erase]

end Formula

end IssueQuery
