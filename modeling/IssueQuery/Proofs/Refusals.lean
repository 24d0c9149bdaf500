import IssueQuery.Proofs.Succession

namespace IssueQuery

/-- The text `part` stands in the query from `position` on. -/
def Text.StandsAt (query : Text) (position : Nat) (part : Text) : Prop :=
  ∃ before after, query = before ++ (part ++ after) ∧ position = before.length

/-- A part of a part stands as far into the query as the two places say together. -/
theorem Text.StandsAt.inner {query part a inner b : Text} {position : Nat} (stands : StandsAt query position part)
    (split : part = a ++ (inner ++ b)) : StandsAt query (position + a.length) inner := by
  obtain ⟨before, after, rfl, rfl⟩ := stands
  refine ⟨before ++ a, b ++ after, ?_, List.length_append.symm⟩
  rw [split]
  simp only [List.append_assoc]

/-- A piece stands behind the pieces before it. -/
theorem Piece.standsAt {query : Text} {before after : List Piece} {p : Piece}
    (split : ofText query = before ++ p :: after) : query.StandsAt (before.flatMap text).length p.text := by
  refine ⟨before.flatMap text, after.flatMap text, ?_, rfl⟩
  have whole := text_ofText query
  rwa [split, List.flatMap_append, List.flatMap_cons, eq_comm] at whole

/-- The text of a token stands in the query at the place that the token names. A bracket that is put in at
the end of a query does not stand in it. -/
def Token.StandsIn (query : Text) (t : Token) : Prop :=
  ∃ before after, query = before ++ (t.text ++ after) ∧ t.start = before.length

/-- The token of a piece is a part of the piece. -/
theorem Piece.exists_text_of_token? {p : Piece} {start : Nat} {t : Token} (leaves : p.token? start = some t) :
    ∃ a b, p.text = a ++ (t.text ++ b) ∧ t.start = start + a.length := by
  cases p with
  | filter text =>
    rcases token?_filter_split start text with ⟨_, none⟩ | ⟨a, b, u, some, split, _, _, _, _, place, _⟩
    · rw [none] at leaves
      cases leaves
    · rw [some] at leaves
      cases leaves
      exact ⟨a, b, split, place⟩
  | keyword | openBracket | closeBracket =>
    cases leaves
    exact ⟨[], [], (List.append_nil _).symm, rfl⟩

theorem Layout.standsIn_of_placeAll {query : Text} {l : Layout} (run : empty.placeAll 0 (Piece.ofText query) = .ok l)
    {t : Token} (member : t ∈ l.tokens) : t.StandsIn query := by
  rcases exists_piece_of_placeAll run member with none | ⟨before, p, after, split, leaves⟩
  · cases none
  · obtain ⟨a, b, text, place⟩ := Piece.exists_text_of_token? leaves
    have stands := (Piece.standsAt split).inner text
    rw [Nat.zero_add] at place
    rw [← place] at stands
    exact stands

/-- The brackets of the tokens match if those of the query do. -/
theorem Layout.balanced_of_placeAll {query : Text} {l : Layout} (run : empty.placeAll 0 (Piece.ofText query) = .ok l)
    (brackets : Piece.depthAfter 0 (Piece.ofText query) = some 0) :
    Token.Nested l.tokens ∧ Token.number .closeBracket l.tokens = Token.number .openBracket l.tokens := by
  have counts := counts_empty.placeAll run (fun _ _ => Piece.kind_of_mem_ofWords) brackets
  refine ⟨counts.nested, ?_⟩
  rw [counts.open_eq, placeAll_openBrackets run brackets, Nat.add_zero]

/-- What ends an operand and is no filter is a closing bracket. -/
theorem Token.Kind.eq_closeBracket {k : Kind} (ends : k.endsOperand = true) (other : k ≠ .expression) :
    k = .closeBracket := by
  cases k with
  | closeBracket => rfl
  | expression => exact absurd rfl other
  | and | or | not | openBracket => cases ends

namespace Formula

/-- What may come of reading tokens that are in order and whose brackets match. -/
inductive Outcome (maxDepth : Nat) (ts : List Token) : Except QueryError (Option (Formula Clause)) → Prop
  | read (f : Option (Formula Clause)) : Outcome maxDepth ts (.ok f)
  | tooDeeplyNested : Outcome maxDepth ts (.error (.tooDeeplyNested maxDepth))
  | unexpectedEnd {us : List Token} {t : Token} : ts = us ++ [t] → t.kind = .and ∨ t.kind = .or ∨ t.kind = .not →
      Outcome maxDepth ts (.error (.unexpectedEnd t.text t.start))
  | unexpectedFilter {us vs : List Token} {bracket t : Token} : ts = us ++ bracket :: t :: vs →
      bracket.kind = .closeBracket → t.kind = .expression →
      Outcome maxDepth ts (.error (.unexpectedToken t.text t.start))

namespace Reading

def afterOperand : Reading → Bool
  | .before _ _ => false
  | .after _ _ _ => true

def groups : Reading → Groups
  | .before _ groups => groups
  | .after _ _ groups => groups

/-- Where reading stands after the tokens `seen`, the newest first: whether an operand has just ended, and
how many groups are open. -/
structure StandsAfter (seen : List Token) (r : Reading) : Prop where
  operand : (seen.head?.map Token.kind).any Token.Kind.endsOperand = r.afterOperand
  open_eq : Token.number .openBracket seen = Token.number .closeBracket seen + r.groups.length

theorem standsAfter_nil : StandsAfter [] (.before .empty []) := ⟨rfl, rfl⟩

namespace StandsAfter

variable {seen : List Token} {r : Reading}

theorem cons (stands : r.StandsAfter seen) {t : Token} {next : Reading}
    (operand : t.kind.endsOperand = next.afterOperand)
    (groups : r.groups.length + (if t.kind = .openBracket then 1 else 0) =
      next.groups.length + if t.kind = .closeBracket then 1 else 0) : next.StandsAfter (t :: seen) := by
  have open_eq := stands.open_eq
  refine ⟨operand, ?_⟩
  rw [Token.number_cons, Token.number_cons]
  omega

theorem step (stands : r.StandsAfter seen) {maxDepth : Nat} {isLast : Bool} {t : Token} {next : Reading}
    (step : r.step maxDepth isLast t = .ok next) : next.StandsAfter (t :: seen) := by
  cases r with
  | before p groups =>
    rcases step_before step with ⟨kind, rfl⟩ | ⟨kind, _, _, rfl⟩ | ⟨kind, _, rfl⟩
    all_goals exact stands.cons (by rw [kind]; rfl) (by rw [kind]; rfl)
  | after disjunct conjunction groups =>
    rcases step_after step with ⟨kind, rfl⟩ | ⟨kind, rfl⟩ | ⟨kind, p, outer, rfl, rfl⟩
    all_goals exact stands.cons (by rw [kind]; rfl) (by rw [kind]; rfl)

/-- Of the tokens that may follow, reading refuses one that is nested too deeply, a `not` at the end, and a
filter behind a closing bracket. -/
theorem step_error (stands : r.StandsAfter seen) {maxDepth : Nat} {isLast : Bool} {t : Token} {e : QueryError}
    (follows : t.kind.MayFollow (seen.head?.map Token.kind))
    (matched : Token.number .closeBracket (t :: seen) ≤ Token.number .openBracket (t :: seen))
    (step : r.step maxDepth isLast t = .error e) :
    e = .tooDeeplyNested maxDepth ∨ (e = .unexpectedEnd t.text t.start ∧ isLast = true ∧ t.kind = .not) ∨
      (e = .unexpectedToken t.text t.start ∧ t.kind = .expression ∧
        seen.head?.map Token.kind = some .closeBracket) := by
  have operand := stands.operand
  cases r with
  | before p groups =>
    rw [afterOperand] at operand
    cases kind : t.kind <;> simp only [kind, Token.Kind.MayFollow, operand] at follows <;>
      simp only [Reading.step, kind] at step
    case not =>
      split at step
      · rename_i final
        cases step
        exact Or.inr (Or.inl ⟨rfl, final, rfl⟩)
      · split at step <;> cases step
        exact Or.inl rfl
    case openBracket =>
      split at step <;> cases step
      exact Or.inl rfl
    case expression => cases step
    all_goals cases follows
  | after disjunct conjunction groups =>
    rw [afterOperand] at operand
    cases kind : t.kind <;> simp only [kind, Token.Kind.MayFollow, operand] at follows <;>
      simp only [Reading.step, kind] at step
    case expression =>
      cases step
      cases top : seen.head?.map Token.kind with
      | none => simp [top] at operand
      | some k =>
        rw [top] at operand follows
        have behind : k = .closeBracket := Token.Kind.eq_closeBracket operand fun eq => follows (congrArg some eq)
        exact Or.inr (Or.inr ⟨rfl, rfl, congrArg some behind⟩)
    case closeBracket =>
      cases groups with
      | nil =>
        have open_eq := stands.open_eq
        rw [Token.number_cons, Token.number_cons, kind, if_pos rfl, if_neg (by decide)] at matched
        rw [Reading.groups, List.length_nil] at open_eq
        omega
      | cons => cases step
    case and | or => cases step
    all_goals cases follows

/-- Tokens whose brackets match end no later than the last group, so at their end at most an operand is missing. -/
theorem outcome_finish {last : Token} {before : List Token} (stands : r.StandsAfter (last :: before))
    (nested : Token.Nested (last :: before))
    (balanced : Token.number .closeBracket (last :: before) = Token.number .openBracket (last :: before))
    (maxDepth : Nat) :
    Outcome maxDepth (before.reverse ++ [last]) (some <$> r.finish last) := by
  have open_eq := stands.open_eq
  have closed : r.groups.length = 0 := by omega
  cases r with
  | before p groups =>
    have operand : last.kind.endsOperand = false := stands.operand
    have below : Token.number .closeBracket before ≤ Token.number .openBracket before :=
      nested before (List.suffix_cons last before)
    rw [Token.number_cons, Token.number_cons] at balanced
    refine .unexpectedEnd rfl ?_
    cases kind : last.kind with
    | and => exact Or.inl rfl
    | or => exact Or.inr (Or.inl rfl)
    | not => exact Or.inr (Or.inr rfl)
    | openBracket =>
      rw [kind, if_neg nofun, if_pos rfl] at balanced
      omega
    | expression | closeBracket =>
      rw [kind] at operand
      cases operand
  | after disjunct conjunction groups =>
    cases List.eq_nil_of_length_eq_zero closed
    exact .read _

end StandsAfter

/-- The outcome of a run over `ts`, given that reading stands where it does after the tokens `seen`. -/
theorem outcome_of_run {maxDepth : Nat} {last : Token} {ts seen : List Token} {r : Reading}
    (stands : r.StandsAfter seen)
    (placed : Token.Placed (ts.reverse ++ seen)) (nested : Token.Nested (ts.reverse ++ seen))
    (balanced : Token.number .closeBracket (ts.reverse ++ seen) = Token.number .openBracket (ts.reverse ++ seen))
    (newest : ts = [] → seen.head? = some last) :
    Outcome maxDepth (seen.reverse ++ ts) (some <$> run maxDepth last ts r) := by
  induction ts generalizing seen last r with
  | nil =>
    obtain ⟨before, rfl⟩ := List.head?_eq_some_iff.mp (newest rfl)
    rw [List.append_nil, List.reverse_cons]
    exact stands.outcome_finish nested balanced maxDepth
  | cons t ts ih =>
    have order : (t :: ts).reverse ++ seen = ts.reverse ++ (t :: seen) := by simp
    rw [order] at placed nested balanced
    have inside : t :: seen <:+ ts.reverse ++ (t :: seen) := List.suffix_append _ _
    cases step : r.step maxDepth ts.isEmpty t with
    | ok next =>
      have newest : ts = [] → (t :: seen).head? = some t := fun _ => rfl
      have rest := ih (stands.step step) placed nested balanced newest
      rw [List.reverse_cons, List.append_assoc, List.singleton_append] at rest
      rwa [run_cons step]
    | error e =>
      have fails : some <$> run maxDepth last (t :: ts) r = .error e :=
        map_eq_error_iff.mpr (bind_eq_error_iff.mpr (Or.inl step))
      rw [fails]
      rcases stands.step_error (placed t seen inside) (nested _ inside) step with
        rfl | ⟨rfl, final, kind⟩ | ⟨rfl, kind, top⟩
      · exact .tooDeeplyNested
      · rw [List.isEmpty_iff.mp final]
        exact .unexpectedEnd rfl (Or.inr (Or.inr kind))
      · obtain ⟨bracket, first, behind⟩ := Option.map_eq_some_iff.mp top
        obtain ⟨before, rfl⟩ := List.head?_eq_some_iff.mp first
        rw [List.reverse_cons, List.append_assoc, List.singleton_append]
        exact .unexpectedFilter rfl behind kind

end Reading

theorem outcome_of_placeAll {query : Text} {l : Layout} (run : Layout.empty.placeAll 0 (Piece.ofText query) = .ok l)
    (brackets : Piece.depthAfter 0 (Piece.ofText query) = some 0) (maxDepth : Nat) :
    Outcome maxDepth l.tokens.reverse (ofTokens? maxDepth l.tokens.reverse) := by
  have placed := Layout.placed_of_placeAll run
  obtain ⟨nested, balanced⟩ := Layout.balanced_of_placeAll run brackets
  cases eq : l.tokens.reverse with
  | nil => exact .read none
  | cons t ts =>
    have order : (t :: ts).reverse ++ [] = l.tokens := by rw [← eq, List.reverse_reverse, List.append_nil]
    rw [← order] at placed nested balanced
    exact Reading.outcome_of_run Reading.standsAfter_nil placed nested balanced (absurd · (List.cons_ne_nil t ts))

/-- Once the brackets of a query match and its tokens are in order, every token stands in the query, the brackets
of the tokens match, and reading them fails only for a formula that is nested too deeply, a keyword at the end
or a filter behind a closing bracket. -/
theorem outcome_of_checkBrackets {query : Text} {ts : List Token} (checked : checkBrackets query = .ok ())
    (tokenized : tokenize query = .ok ts) :
    (∀ t ∈ ts, t.StandsIn query) ∧
      (∀ us, us <+: ts → Token.number .closeBracket us ≤ Token.number .openBracket us) ∧
      Token.number .closeBracket ts = Token.number .openBracket ts ∧
      ∀ maxDepth, Outcome maxDepth ts (ofTokens? maxDepth ts) := by
  have brackets := (Piece.checkBrackets_ok_iff query).mp checked
  obtain ⟨l, run, _⟩ := bind_eq_ok_iff.mp tokenized
  rw [tokenize_of_placeAll brackets run] at tokenized
  cases tokenized
  obtain ⟨nested, balanced⟩ := Layout.balanced_of_placeAll run brackets
  refine ⟨?_, ?_, ?_, outcome_of_placeAll run brackets⟩
  · exact fun t member => Layout.standsIn_of_placeAll run (List.mem_reverse.mp member)
  · intro us front
    have within := nested us.reverse (List.reverse_prefix.mp (by rwa [List.reverse_reverse]))
    rwa [Token.number, List.countP_reverse, Token.number, List.countP_reverse] at within
  · rwa [Token.number, List.countP_reverse, Token.number, List.countP_reverse]

set_option maxRecDepth 4000 in
/-- A filter behind a closing bracket, which is only seen if the group is not nested too deeply. -/
theorem outcome_of_checkBrackets_sample :
    ∃ ts, checkBrackets "(not #popular) votes: 1".toList = .ok () ∧
      tokenize "(not #popular) votes: 1".toList = .ok ts ∧ (∀ t ∈ ts, t.StandsIn "(not #popular) votes: 1".toList) ∧
      (∀ us, us <+: ts → Token.number .closeBracket us ≤ Token.number .openBracket us) ∧
      Token.number .closeBracket ts = Token.number .openBracket ts ∧
      (∀ maxDepth, Outcome maxDepth ts (ofTokens? maxDepth ts)) ∧
      ofTokens? 1 ts = .error (.tooDeeplyNested 1) ∧
      ofTokens? 2 ts = .error (.unexpectedToken "votes: 1".toList 15) := by
  have checked : checkBrackets "(not #popular) votes: 1".toList = .ok () := rfl
  have tokenized : tokenize "(not #popular) votes: 1".toList = .ok [⟨.openBracket, ['('], 0, 0⟩,
      ⟨.not, "not".toList, 1, 3⟩, ⟨.expression, "#popular".toList, 5, 12⟩, ⟨.closeBracket, [')'], 13, 13⟩,
      ⟨.expression, "votes: 1".toList, 15, 22⟩] := rfl
  obtain ⟨stand, nested, balanced, outcome⟩ := outcome_of_checkBrackets checked tokenized
  exact ⟨_, checked, tokenized, stand, nested, balanced, outcome, rfl, rfl⟩

end Formula

end IssueQuery
