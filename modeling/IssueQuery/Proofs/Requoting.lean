import IssueQuery.Proofs.ClauseShape
import IssueQuery.Proofs.Erasure
import IssueQuery.Proofs.Rendering

namespace IssueQuery

namespace Piece

/-- What stands around a quoted text does not depend on it: the pieces before it, the filter text that it is a
part of, and the pieces behind it. -/
theorem exists_ofText_quote {p : Text} (closed : p.IsClosed) (t : Text) :
    ∃ ps a b qs, ps.flatMap text ++ a = p ∧ ∀ s, '"' ∉ s →
      ofText (p ++ (Filter.quote s ++ t)) = ps ++ .filter (a ++ (Filter.quote s ++ b)) :: qs := by
  have letter : ∀ c ∈ ['"'], isBoundary c = false := List.forall_mem_singleton.mpr (by decide +kernel)
  obtain ⟨us, x, rfl, cut⟩ := Text.exists_words_append p (List.cons_ne_nil '"' []) letter
  obtain ⟨v, ws, behind⟩ := Text.exists_words_cons '"' t
  obtain ⟨ps, a, before, _, last⟩ := exists_ofWords_append false us
  obtain ⟨b, qs, joined⟩ := exists_consFilter (ofWords (Text.quotedAfter true ('"' :: v)) ws)
  have atX : Text.quotedAfter (Text.quotedAfter false us.flatten) x = false := by
    rw [← Text.quotedAfter_append]
    exact closed
  refine ⟨ps, a ++ x, v ++ b, qs, by rw [← List.append_assoc, before], fun s free => ?_⟩
  obtain ⟨v', ws', inside⟩ := Text.exists_words_cons '"' (s ++ '"' :: t)
  have quoted : ofText ('"' :: (s ++ '"' :: t)) =
      consFilter ('"' :: v') (ofWords (Text.quotedAfter false ('"' :: v')) ws') := by
    rw [ofText, inside, ofWords_filter (ofMark?_of_mem_quote List.mem_cons_self)]
  have word : ofWords (Text.quotedAfter false us.flatten) ((x ++ '"' :: v') :: ws') =
      .filter (x ++ ['"'] ++ s ++ '"' :: v ++ b) :: qs := by
    have mark : ofMark? (x ++ '"' :: v') = none :=
      ofMark?_of_mem_quote (List.mem_append_right x List.mem_cons_self)
    rw [ofWords_filter mark, Text.quotedAfter_append, atX, ← consFilter_consFilter, ← quoted, ofText_quote,
      consFilter_consFilter, ofWords_quoted_append free, behind, ofWords_quoted, consFilter_consFilter, joined]
  have whole := cut (s ++ '"' :: t) v' ws' inside
  have split : us.flatten ++ x ++ (Filter.quote s ++ t) = us.flatten ++ x ++ (['"'] ++ (s ++ '"' :: t)) := by
    simp [Filter.quote]
  rw [split, ofText, whole, List.singleton_append, last _ _ _ word]
  simp [Filter.quote]

end Piece

/-- Texts that are balanced alike behind the same text are so with it. Places do not matter. -/
theorem balanceFrom_sameOutcome {q : Bool} {p t t' : Text}
    (behind : ∀ depth i j, SameOutcome Eq (balanceFrom (Text.quotedAfter q p) depth i t)
      (balanceFrom (Text.quotedAfter q p) depth j t')) (depth i j : Nat) :
    SameOutcome Eq (balanceFrom q depth i (p ++ t)) (balanceFrom q depth j (p ++ t')) := by
  induction p generalizing q depth i j with
  | nil => exact behind depth i j
  | cons c p ih =>
    have plain (other : q = true ∨ c ≠ '(' ∧ c ≠ ')') :
        SameOutcome Eq (balanceFrom q depth i (c :: p ++ t)) (balanceFrom q depth j (c :: p ++ t')) := by
      rw [List.cons_append, List.cons_append, Piece.balanceFrom_cons other, Piece.balanceFrom_cons other]
      exact ih behind depth (i + 1) (j + 1)
    by_cases quoted : q = true
    · exact plain (Or.inl quoted)
    · rw [Bool.not_eq_true] at quoted
      subst quoted
      by_cases opening : c = '('
      · subst opening
        exact ih behind (depth + 1) (i + 1) (j + 1)
      · by_cases closing : c = ')'
        · subst closing
          cases depth with
          | zero => exact .error rfl
          | succ depth => exact ih behind depth (i + 1) (j + 1)
        · exact plain (Or.inr ⟨opening, closing⟩)

theorem balanceFrom_quote {s : Text} (free : '"' ∉ s) (depth position : Nat) (t : Text) :
    balanceFrom false depth position (Filter.quote s ++ t) =
      balanceFrom false depth (position + 1 + s.length + 1) t := by
  have inside (position : Nat) : balanceFrom true depth position (s ++ '"' :: t) =
      balanceFrom false depth (position + s.length + 1) t := by
    induction s generalizing position with
    | nil => exact Piece.balanceFrom_cons (Or.inl rfl) depth position t
    | cons c s ih =>
      rw [List.mem_cons, not_or] at free
      rw [List.cons_append, Piece.balanceFrom_cons (Or.inl rfl), Text.quoteStep_of_ne (Ne.symm free.1), ih free.2,
        List.length_cons, Nat.add_right_comm position, Nat.add_assoc position]
  have split : Filter.quote s ++ t = '"' :: (s ++ '"' :: t) := by simp [Filter.quote]
  rw [split, Piece.balanceFrom_cons (Or.inr (by decide)), ← inside]
  rfl

/-- Quoted text does not matter for the balance of the brackets. -/
theorem checkBrackets_quote {p s s' : Text} (closed : p.IsClosed) (free : '"' ∉ s) (free' : '"' ∉ s') (t : Text) :
    SameOutcome Eq (checkBrackets (p ++ (Filter.quote s ++ t))) (checkBrackets (p ++ (Filter.quote s' ++ t))) := by
  refine balanceFrom_sameOutcome (fun depth i j => ?_) 0 0 0
  rw [closed, balanceFrom_quote free, balanceFrom_quote free', ← List.append_nil t]
  have ends (q : Bool) (depth i j : Nat) : SameOutcome Eq (balanceFrom q depth i []) (balanceFrom q depth j []) := by
    rw [balanceFrom, balanceFrom]
    split
    · exact .ok rfl
    · exact .error rfl
  exact balanceFrom_sameOutcome (fun depth i j => ends _ depth i j) depth _ _

/-- A clause that has moved as the text behind a stretch does whose length changes from `n` to `n'`. -/
structure Clause.Moved (n n' : Nat) (c c' : Clause) : Prop where
  text : c'.text = c.text
  start : c'.start + n = c.start + n'
  stop : c'.stop + n = c.stop + n'

/-- A clause with the text `s` in quotes at `place`, and one with `s'` there. -/
structure Clause.Requoted (place : Nat) (s s' : Text) (c c' : Clause) : Prop where
  text : ∃ a b, c.text = a ++ (Filter.quote s ++ b) ∧ c'.text = a ++ (Filter.quote s' ++ b) ∧ c.start + a.length = place
  start : c'.start = c.start
  stop : c'.stop + s.length = c.stop + s'.length

namespace Token

structure Moved (n n' : Nat) (t t' : Token) : Prop where
  kind : t'.kind = t.kind
  clause : t.clause.Moved n n' t'.clause

structure Requoted (place : Nat) (s s' : Text) (t t' : Token) : Prop where
  kind : t.kind = .expression
  kind' : t'.kind = .expression
  clause : t.clause.Requoted place s s' t'.clause

end Token

/-- Trimming stops at a quoted text. -/
theorem Text.trim_quote (a s b : Text) :
    trim (a ++ (Filter.quote s ++ b)) = trimStart a ++ (Filter.quote s ++ trimEnd b) := by
  obtain ⟨before, atStart, blank⟩ := exists_trimStart a
  obtain ⟨after, atEnd, blank'⟩ := exists_trimEnd b
  have mark : isBlank '"' = false := by decide
  have trimmed : IsTrimmed (trimStart a ++ (Filter.quote s ++ trimEnd b)) := by
    constructor
    · cases eq : trimStart a with
      | nil => exact ⟨'"', _, rfl, mark⟩
      | cons c rest => exact ⟨c, _, rfl, visible_of_trimStart eq⟩
    · cases eq : trimStart b.reverse with
      | nil =>
        have none : trimEnd b = [] := by rw [trimEnd, ← trimStart, eq]; rfl
        exact ⟨'"', trimStart a ++ '"' :: s, by simp [none, Filter.quote], mark⟩
      | cons c rest =>
        have last : trimEnd b = rest.reverse ++ [c] := by rw [trimEnd, ← trimStart, eq, List.reverse_cons]
        exact ⟨c, trimStart a ++ (Filter.quote s ++ rest.reverse), by simp [last], visible_of_trimStart eq⟩
  have whole : a ++ (Filter.quote s ++ b) = before ++ (trimStart a ++ (Filter.quote s ++ trimEnd b) ++ after) := by
    conv_lhs => rw [atStart, atEnd]
    simp only [List.append_assoc]
  rw [whole, trimmed.trim_padded blank blank']

theorem Text.takeWhile_isBlank_quote (a s b : Text) :
    (a ++ (Filter.quote s ++ b)).takeWhile isBlank = a.takeWhile isBlank := by
  have stops : (Filter.quote s ++ b).takeWhile isBlank = [] := List.takeWhile_cons_of_neg (by decide)
  rw [List.takeWhile_append, stops, List.append_nil]
  split
  · rename_i blank
    exact ((List.takeWhile_prefix isBlank).eq_of_length blank).symm
  · rfl

/-- The token of filter text with a quoted text in it. -/
theorem Piece.token?_quote (a b : Text) (start : Nat) (s s' : Text) :
    ∃ t t', Token.Requoted (start + a.length) s s' t t' ∧
      (Piece.filter (a ++ (Filter.quote s ++ b))).token? start = some t ∧
      (Piece.filter (a ++ (Filter.quote s' ++ b))).token? start = some t' := by
  have leaves (s : Text) := token?_of_trim start (Text.trim_quote a s b) (by simp [Filter.quote])
  simp only [Text.takeWhile_isBlank_quote] at leaves
  have parts : (a.takeWhile isBlank).length + (Text.trimStart a).length = a.length := by
    rw [← List.length_append]
    exact congrArg List.length List.takeWhile_append_dropWhile
  have length (s : Text) : (Text.trimStart a ++ (Filter.quote s ++ Text.trimEnd b)).length =
      (Text.trimStart a).length + (s.length + 2 + (Text.trimEnd b).length) := by
    simp only [Filter.quote, List.length_append, List.length_cons, List.length_nil]
  refine ⟨_, _, ⟨rfl, rfl, ?_⟩, leaves s, leaves s'⟩
  refine ⟨⟨Text.trimStart a, Text.trimEnd b, rfl, rfl, ?_⟩, rfl, ?_⟩
  · rw [Token.clause, Nat.add_assoc, parts]
  · rw [Token.clause, Token.clause, length, length]
    simp only
    omega

namespace Layout

/-- Layouts that differ in one filter, which has the tokens of `old` below it, and in the places of the tokens
above it. -/
structure Requoted (n n' : Nat) (old : List Token) (filter filter' : Token) (l l' : Layout) : Prop where
  tokens : ∃ ts ts', l.tokens = ts ++ filter :: old ∧ l'.tokens = ts' ++ filter' :: old ∧
    List.Forall₂ (Token.Moved n n') ts ts'
  openBrackets : l'.openBrackets = l.openBrackets

namespace Requoted

variable {n n' : Nat} {old : List Token} {filter filter' : Token} {l l' : Layout}

theorem preceding (related : Requoted n n' old filter filter' l l') (same : filter'.kind = filter.kind) :
    l'.preceding = l.preceding := by
  obtain ⟨ts, ts', atL, atL', moved⟩ := related.tokens
  rw [Layout.preceding, Layout.preceding, atL, atL']
  cases moved with
  | nil => exact congrArg some same
  | cons first _ => exact congrArg some first.kind

theorem push (related : Requoted n n' old filter filter' l l') (kind : Token.Kind) (text : Text)
    {start stop start' stop' : Nat} (atStart : start' + n = start + n') (atStop : stop' + n = stop + n') :
    Requoted n n' old filter filter' (l.push kind text start stop) (l'.push kind text start' stop') := by
  obtain ⟨⟨ts, ts', atL, atL', moved⟩, brackets⟩ := related
  have first : Token.Moved n n' ⟨kind, text, start, stop⟩ ⟨kind, text, start', stop'⟩ := ⟨rfl, rfl, atStart, atStop⟩
  refine ⟨⟨_, _, ?_, ?_, .cons first moved⟩, brackets⟩
  · rw [Layout.push, atL, List.cons_append]
  · rw [Layout.push, atL', List.cons_append]

/-- A piece is placed or refused alike in both layouts. -/
theorem place (related : Requoted n n' old filter filter' l l') (kind : filter.kind = .expression)
    (kind' : filter'.kind = .expression) {start start' : Nat} (moved : start' + n = start + n') (inside : 0 < start)
    (inside' : 0 < start') (p : Piece) :
    SameOutcome (Requoted n n' old filter filter') (l.place start p) (l'.place start' p) := by
  have preceding := related.preceding (kind'.trans kind.symm)
  have operand : l'.afterOperand = l.afterOperand := by rw [Layout.afterOperand, preceding, Layout.afterOperand]
  cases p with
  | filter text =>
    simp only [Layout.place, pushFilter]
    cases Text.trim text with
    | nil => exact .ok related
    | cons c t => exact .ok (related.push _ _ (by omega) (by omega))
  | keyword k text =>
    simp only [Layout.place, pushKeyword, operand, preceding]
    split
    · exact .ok (related.push _ _ moved (by omega))
    · exact .error rfl
  | openBracket =>
    simp only [Layout.place, pushOpen, operand, preceding]
    split
    · exact .error rfl
    · refine .ok ⟨(related.push _ _ moved moved).tokens, ?_⟩
      rw [related.openBrackets]
  | closeBracket =>
    simp only [Layout.place, pushClose, operand, preceding]
    split
    · refine .ok ⟨(related.push _ _ moved moved).tokens, ?_⟩
      rw [related.openBrackets]
    · split
      · rename_i opens
        obtain ⟨⟨ts, ts', atL, atL', above⟩, brackets⟩ := related
        cases above with
        | nil =>
          rw [Layout.preceding, atL] at opens
          have eq : filter.kind = .openBracket := by simpa using opens
          rw [kind] at eq
          cases eq
        | cons _ above =>
          refine .ok ⟨⟨_, _, ?_, ?_, above⟩, ?_⟩
          · rw [atL]; rfl
          · rw [atL']; rfl
          · rw [brackets]
      · exact .error rfl

theorem placeAll (related : Requoted n n' old filter filter' l l') (kind : filter.kind = .expression)
    (kind' : filter'.kind = .expression) {start start' : Nat} (moved : start' + n = start + n') (inside : 0 < start)
    (inside' : 0 < start') (ps : List Piece) :
    SameOutcome (Requoted n n' old filter filter') (l.placeAll start ps) (l'.placeAll start' ps) := by
  induction ps generalizing l l' start start' with
  | nil => exact .ok related
  | cons p ps ih =>
    refine (related.place kind kind' moved inside inside' p).bind fun next next' _ _ later => ?_
    exact ih later (by omega) (by omega) (by omega)

end Requoted

end Layout

/-- Lists of tokens that differ in one filter and in the places of what stands behind it. -/
def Token.AllRequoted (place : Nat) (s s' : Text) (ts ts' : List Token) : Prop :=
  ∃ before t t' after after', ts = before ++ t :: after ∧ ts' = before ++ t' :: after' ∧
    t.Requoted place s s' t' ∧ List.Forall₂ (Token.Moved s.length s'.length) after after'

variable {p s s' : Text}

theorem Layout.Requoted.close {place stop stop' : Nat} {old : List Token} {u u' : Token} {l l' : Layout}
    (related : Requoted s.length s'.length old u u' l l') (requoted : Token.Requoted place s s' u u')
    (moved : stop' + s.length = stop + s'.length) : Token.AllRequoted place s s' (l.close stop) (l'.close stop') := by
  obtain ⟨⟨ts, ts', atL, atL', above⟩, brackets⟩ := related
  have added (k : Nat) : List.Forall₂ (Token.Moved s.length s'.length)
      (List.replicate k ⟨.closeBracket, [')'], stop, stop⟩)
      (List.replicate k ⟨.closeBracket, [')'], stop', stop'⟩) := by
    induction k with
    | zero => exact .nil
    | succ k ih => exact .cons ⟨rfl, rfl, moved, moved⟩ ih
  have after := List.rel_append (List.rel_reverse above) (added l.openBrackets)
  refine ⟨old.reverse, u, u', _, _, ?_, ?_, requoted, after⟩
  · rw [Layout.close, atL]
    simp
  · rw [Layout.close, atL', brackets]
    simp

/-- Quoted text does not matter for how a query is cut into tokens. -/
theorem tokenize_quote (closed : p.IsClosed) (free : '"' ∉ s) (free' : '"' ∉ s') (t : Text) :
    SameOutcome (Token.AllRequoted p.length s s') (tokenize (p ++ (Filter.quote s ++ t)))
      (tokenize (p ++ (Filter.quote s' ++ t))) := by
  obtain ⟨ps, a, b, qs, before, pieces⟩ := Piece.exists_ofText_quote closed t
  obtain ⟨u, u', requoted, atU, atU'⟩ := Piece.token?_quote a b (0 + (ps.flatMap Piece.text).length) s s'
  have place : 0 + (ps.flatMap Piece.text).length + a.length = p.length := by
    rw [← before, List.length_append, Nat.zero_add]
  rw [place] at requoted
  have run : SameOutcome (fun l l' => ∃ old, Layout.Requoted s.length s'.length old u u' l l')
      (Layout.empty.placeAll 0 (Piece.ofText (p ++ (Filter.quote s ++ t))))
      (Layout.empty.placeAll 0 (Piece.ofText (p ++ (Filter.quote s' ++ t)))) := by
    rw [pieces s free, pieces s' free', Layout.placeAll_append, Layout.placeAll_append]
    refine (SameOutcome.refl (fun _ => rfl) _).bind fun m m' _ _ same => ?_
    subst same
    have atFilter : Layout.Requoted s.length s'.length m.tokens u u'
        (m.pushFilter (0 + (ps.flatMap Piece.text).length) (a ++ (Filter.quote s ++ b)))
        (m.pushFilter (0 + (ps.flatMap Piece.text).length) (a ++ (Filter.quote s' ++ b))) := by
      rw [Layout.pushFilter_eq, Layout.pushFilter_eq, atU, atU']
      exact ⟨⟨[], [], rfl, rfl, .nil⟩, rfl⟩
    rw [Layout.placeAll_cons rfl, Layout.placeAll_cons rfl]
    have length (s : Text) : (Piece.filter (a ++ (Filter.quote s ++ b))).text.length =
        a.length + (s.length + 2 + b.length) := by
      simp only [Piece.text, Filter.quote, List.length_append, List.length_cons, List.length_nil]
    rw [length, length]
    have behind := atFilter.placeAll requoted.kind requoted.kind'
      (show 0 + (ps.flatMap Piece.text).length + (a.length + (s'.length + 2 + b.length)) + s.length =
        0 + (ps.flatMap Piece.text).length + (a.length + (s.length + 2 + b.length)) + s'.length by omega)
      (by omega) (by omega) qs
    exact behind.mono fun _ _ _ _ related => ⟨m.tokens, related⟩
  refine run.bind fun l l' _ _ related => .ok ?_
  obtain ⟨old, related⟩ := related
  refine related.close requoted ?_
  simp only [Filter.quote, List.length_append, List.length_cons, List.length_nil]
  omega

namespace Token

theorem AllRequoted.kinds {place : Nat} {ts ts' : List Token} (related : AllRequoted place s s' ts ts') :
    ts'.map kind = ts.map kind := by
  obtain ⟨before, u, u', after, after', rfl, rfl, requoted, moved⟩ := related
  have behind : after'.map kind = after.map kind := by
    induction moved with
    | nil => rfl
    | cons first _ ih => rw [List.map_cons, List.map_cons, first.kind, ih]
  rw [List.map_append, List.map_append, List.map_cons, List.map_cons, requoted.kind, requoted.kind', behind]

theorem Moved.clause? {n n' : Nat} {t t' : Token} (moved : t.Moved n n' t') :
    Option.Rel (Clause.Moved n n') t.clause? t'.clause? := by
  rw [Token.clause?, Token.clause?, moved.kind]
  split
  · exact .some moved.clause
  · exact .none

theorem AllRequoted.clauses {place : Nat} {ts ts' : List Token} (related : AllRequoted place s s' ts ts') :
    ∃ before c c' after after', ts.filterMap Token.clause? = before ++ c :: after ∧
      ts'.filterMap Token.clause? = before ++ c' :: after' ∧ c.Requoted place s s' c' ∧
      List.Forall₂ (Clause.Moved s.length s'.length) after after' := by
  obtain ⟨before, u, u', after, after', rfl, rfl, requoted, moved⟩ := related
  refine ⟨before.filterMap Token.clause?, u.clause, u'.clause, _, _, ?_, ?_, requoted.clause,
    List.rel_filterMap (fun _ _ first => first.clause?) moved⟩
  · have atU : u.clause? = some u.clause := if_pos requoted.kind
    rw [List.filterMap_append, List.filterMap_cons_some atU]
  · have atU' : u'.clause? = some u'.clause := if_pos requoted.kind'
    rw [List.filterMap_append, List.filterMap_cons_some atU']

end Token

namespace Formula

/-- Formulas of the same shape whose leaves differ in the text that one of them quotes at `place`: `s` in the
one, `s'` in the other. The leaves behind it have moved by the difference in length. -/
structure Requoted (place : Nat) (s s' : Text) (f f' : Formula Clause) : Prop where
  shape : f'.shape = f.shape
  leaves : ∃ before c c' after after', f.leaves = before ++ c :: after ∧ f'.leaves = before ++ c' :: after' ∧
    c.Requoted place s s' c' ∧ List.Forall₂ (Clause.Moved s.length s'.length) after after'

theorem ofTokens?_requoted {place : Nat} {ts ts' : List Token} (related : Token.AllRequoted place s s' ts ts')
    (maxDepth : Nat) :
    SameOutcome (fun f f' => ∃ g g', f = some g ∧ f' = some g' ∧ g.Requoted place s s' g')
      (ofTokens? maxDepth ts) (ofTokens? maxDepth ts') := by
  refine (ofTokens?_of_kinds maxDepth related.kinds).mono fun f f' read read' same => ?_
  obtain ⟨before, c, c', after, after', atTs, atTs', requoted⟩ := related.clauses
  have nonempty : ts ≠ [] := by
    rintro rfl
    simp at atTs
  have nonempty' : ts' ≠ [] := by
    rintro rfl
    simp at atTs'
  obtain ⟨g, rfl, leaves⟩ := exists_of_ofTokens? read nonempty
  obtain ⟨g', rfl, leaves'⟩ := exists_of_ofTokens? read' nonempty'
  exact ⟨g, g', rfl, rfl, (Option.some.inj same).symm, before, c, c', after, after', leaves.trans atTs,
    leaves'.trans atTs', requoted⟩

/-- Whether the mode allows a formula is decided by its shape. -/
theorem checkMode_requoted {place : Nat} {f f' : Formula Clause} (related : f.Requoted place s s' f') (mode : Mode) :
    SameOutcome (fun f f' => ∃ g g', f = some g ∧ f' = some g' ∧ g.Requoted place s s' g')
      (checkMode mode (some f)) (checkMode mode (some f')) := by
  have same : f'.containsOr = f.containsOr := by
    rw [← f'.containsOr_shape, related.shape, containsOr_shape]
  simp only [checkMode, Option.any_some, same]
  split
  · exact .error rfl
  · exact .ok ⟨f, f', rfl, rfl, related⟩

/-- Text in double quotes has no influence on how a query is read, whatever stands around it. With another text
in the quotes the query is refused with the same kind of error, or it is read as a formula of the same shape that
differs in the quoted text and in the places behind it. -/
theorem ofText?_requoted (closed : Even (p.count '"')) (free : '"' ∉ s) (free' : '"' ∉ s') (t : Text) (mode : Mode)
    (maxDepth : Nat) :
    SameOutcome (fun f f' => ∃ g g', f = some g ∧ f' = some g' ∧ g.Requoted p.length s s' g')
      (ofText? mode maxDepth (p ++ (Filter.quote s ++ t))) (ofText? mode maxDepth (p ++ (Filter.quote s' ++ t))) := by
  have closed := Text.isClosed_iff_even.mpr closed
  refine (checkBrackets_quote closed free free' t).bind fun _ _ _ _ _ => ?_
  refine (tokenize_quote closed free free' t).bind fun ts ts' _ _ tokens => ?_
  refine (ofTokens?_requoted tokens maxDepth).bind fun f f' _ _ read => ?_
  obtain ⟨g, g', rfl, rfl, requoted⟩ := read
  exact checkMode_requoted requoted mode

set_option maxRecDepth 4000 in
/-- A quoted text with a bracket and a keyword in it, and one without. -/
theorem ofText?_requoted_sample :
    Even ("title: ".toList.count '"') ∧ '"' ∉ ") or (".toList ∧ '"' ∉ "x".toList ∧
      SameOutcome (fun f f' => ∃ g g', f = some g ∧ f' = some g' ∧ g.Requoted 7 ") or (".toList "x".toList g')
        (ofText? .search 6 ("title: ".toList ++ (Filter.quote ") or (".toList ++ " and #popular".toList)))
        (ofText? .search 6 ("title: ".toList ++ (Filter.quote "x".toList ++ " and #popular".toList))) ∧
      ofText? .search 6 ("title: ".toList ++ (Filter.quote ") or (".toList ++ " and #popular".toList)) =
        .ok (some (.and (.leaf ⟨"title: \") or (\"".toList, 0, 14⟩) (.leaf ⟨"#popular".toList, 20, 27⟩))) ∧
      ofText? .search 6 ("title: ".toList ++ (Filter.quote "x".toList ++ " and #popular".toList)) =
        .ok (some (.and (.leaf ⟨"title: \"x\"".toList, 0, 9⟩) (.leaf ⟨"#popular".toList, 15, 22⟩))) := by
  have closed : Even ("title: ".toList.count '"') := by decide
  have free : '"' ∉ ") or (".toList := by decide
  have free' : '"' ∉ "x".toList := by decide
  exact ⟨closed, free, free', ofText?_requoted closed free free' " and #popular".toList .search 6, rfl, rfl⟩

end Formula

end IssueQuery
