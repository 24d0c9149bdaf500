import IssueQuery.Proofs.Grammar
import IssueQuery.Proofs.Pieces
import IssueQuery.Proofs.Success
import IssueQuery.Token.Layout

namespace IssueQuery

/-- The token that a piece leaves when it is laid out at `start`: none if it is blank filter text. -/
def Piece.token? (start : Nat) : Piece → Option Token
  | .filter text =>
    match Text.trim text with
    | [] => none
    | c :: t =>
      let first := start + (text.takeWhile isBlank).length
      some ⟨.expression, c :: t, first, first + t.length⟩
  | .keyword kind text => some ⟨kind, text, start, start + text.length - 1⟩
  | .openBracket => some ⟨.openBracket, ['('], start, start⟩
  | .closeBracket => some ⟨.closeBracket, [')'], start, start⟩

theorem Piece.token?_of_trim (start : Nat) {text t : Text} (trimmed : Text.trim text = t) (visible : t ≠ []) :
    (Piece.filter text).token? start = some ⟨.expression, t, start + (text.takeWhile isBlank).length,
      start + (text.takeWhile isBlank).length + t.length - 1⟩ := by
  rw [token?, trimmed]
  cases t with
  | nil => exact absurd rfl visible
  | cons => rfl

theorem Piece.token?_filter_cases (start : Nat) (text : Text) :
    (Text.trim text = [] ∧ (Piece.filter text).token? start = none) ∨
      (Text.trim text ≠ [] ∧ ∃ first stop,
        (Piece.filter text).token? start = some ⟨.expression, Text.trim text, first, stop⟩) := by
  by_cases blank : Text.trim text = []
  · refine Or.inl ⟨blank, ?_⟩
    rw [token?, blank]
  · exact Or.inr ⟨blank, _, _, token?_of_trim start rfl blank⟩

/-- Filter text is blank, or it is its token between blanks. -/
theorem Piece.token?_filter_split (start : Nat) (text : Text) :
    (text.IsBlank ∧ (Piece.filter text).token? start = none) ∨
      ∃ (a b : Text) (t : Token), (Piece.filter text).token? start = some t ∧ text = a ++ (t.text ++ b) ∧
        a.IsBlank ∧ b.IsBlank ∧ t.kind = .expression ∧ t.text.IsTrimmed ∧ t.start = start + a.length ∧
        t.stop + 1 = start + a.length + t.text.length := by
  rcases token?_filter_cases start text with ⟨blank, none⟩ | ⟨visible, _⟩
  · exact Or.inl ⟨Text.trim_eq_nil_iff.mp blank, none⟩
  · obtain ⟨b, atEnd, after⟩ := Text.exists_trimEnd (Text.trimStart text)
    have atStart : text.takeWhile isBlank ++ Text.trimStart text = text := List.takeWhile_append_dropWhile
    have before : Text.IsBlank (text.takeWhile isBlank) := List.all_eq_true.mp List.all_takeWhile
    have length := List.length_pos_iff.mpr visible
    refine Or.inr ⟨text.takeWhile isBlank, b, _, token?_of_trim start rfl visible, ?_, before, after, rfl,
      Text.isTrimmed_trim visible, rfl, ?_⟩
    · rw [Text.trim, ← atEnd, atStart]
    · simp only
      omega

/-- A token of a piece is a filter only if the piece is filter text. -/
theorem Piece.exists_filter_of_token? {p : Piece} {start : Nat} {t : Token} (leaves : p.token? start = some t)
    (keywords : ∀ k w, p = .keyword k w → k ≠ .expression) (kind : t.kind = .expression) :
    ∃ text, p = .filter text ∧ t.text = Text.trim text := by
  cases p with
  | filter text =>
    rcases token?_filter_cases start text with ⟨_, none⟩ | ⟨_, first, stop, some⟩
    · rw [none] at leaves
      cases leaves
    · rw [some] at leaves
      cases leaves
      exact ⟨text, rfl, rfl⟩
  | keyword k w =>
    cases leaves
    exact absurd kind (keywords k w rfl)
  | openBracket | closeBracket =>
    cases leaves
    cases kind

namespace Layout

theorem placeAll_cons {l next : Layout} {start : Nat} {p : Piece} (step : l.place start p = .ok next)
    (ps : List Piece) : l.placeAll start (p :: ps) = next.placeAll (start + p.text.length) ps := by
  rw [placeAll, step]
  rfl

/-- Pieces behind others start where these end. -/
theorem placeAll_append (l : Layout) (start : Nat) (ps qs : List Piece) :
    l.placeAll start (ps ++ qs) =
      l.placeAll start ps >>= fun m => m.placeAll (start + (ps.flatMap Piece.text).length) qs := by
  induction ps generalizing l start with
  | nil => rfl
  | cons p ps ih =>
    rw [List.cons_append, placeAll, placeAll]
    cases l.place start p with
    | error => rfl
    | ok next =>
      rw [ok_bind, ok_bind, ih, List.flatMap_cons, List.length_append, Nat.add_assoc]

theorem exists_placeAll_append {l middle : Layout} {start : Nat} {ps : List Piece}
    (run : l.placeAll start ps = .ok middle) (qs : List Piece) :
    ∃ start', l.placeAll start (ps ++ qs) = middle.placeAll start' qs :=
  ⟨_, by rw [placeAll_append, run, ok_bind]⟩

theorem pushFilter_eq (l : Layout) (start : Nat) (text : Text) :
    l.pushFilter start text = { l with tokens := ((Piece.filter text).token? start).toList ++ l.tokens } := by
  rw [pushFilter, Piece.token?]
  cases Text.trim text <;> rfl

/-- The token that filter text leaves: none if the text is blank. -/
theorem pushFilter_cases (l : Layout) (start : Nat) (text : Text) :
    (Text.trim text = [] ∧ l.pushFilter start text = l) ∨
      (Text.trim text ≠ [] ∧
        ∃ first stop, l.pushFilter start text = l.push .expression (Text.trim text) first stop) := by
  rw [pushFilter_eq]
  rcases Piece.token?_filter_cases start text with ⟨blank, none⟩ | ⟨visible, first, stop, some⟩
  · exact Or.inl ⟨blank, by rw [none]; rfl⟩
  · exact Or.inr ⟨visible, first, stop, by rw [some]; rfl⟩

theorem pushKeyword_ok_iff {l next : Layout} {start : Nat} {kind : Token.Kind} {text : Text} :
    l.pushKeyword start kind text = .ok next ↔
      l.afterOperand = (kind != .not) ∧ l.push kind text start (start + text.length - 1) = next := by
  unfold pushKeyword
  split <;> simp_all

theorem pushOpen_ok_iff {l next : Layout} {start : Nat} :
    l.pushOpen start = .ok next ↔ l.afterOperand = false ∧
      { l.push .openBracket ['('] start start with openBrackets := l.openBrackets + 1 } = next := by
  unfold pushOpen
  split <;> simp_all

theorem pushClose_ok_iff {l next : Layout} {start : Nat} :
    l.pushClose start = .ok next ↔
      (l.afterOperand = true ∧
        { l.push .closeBracket [')'] start start with openBrackets := l.openBrackets - 1 } = next) ∨
      (l.preceding = some .openBracket ∧ ⟨l.tokens.tail, l.openBrackets - 1⟩ = next) := by
  unfold pushClose
  split
  · rename_i operand
    have other : l.preceding ≠ some .openBracket := by
      intro eq
      simp [afterOperand, eq, Token.Kind.endsOperand] at operand
    simp [operand, other]
  · split <;> simp_all

/-- A closing bracket that matches closes an open one. -/
theorem matched_of_depthAfter {l : Layout} {p : Piece} {ps : List Piece} {after : Nat}
    (depth : Piece.depthAfter l.openBrackets (p :: ps) = some after) (close : p = .closeBracket) :
    0 < l.openBrackets := by
  subst close
  cases eq : l.openBrackets with
  | zero =>
    rw [eq] at depth
    cases depth
  | succ d => exact Nat.succ_pos d

/-- The brackets that a layout keeps open are those that the pieces leave open. -/
theorem place_openBrackets {l next : Layout} {start : Nat} {p : Piece} (step : l.place start p = .ok next)
    {after : Nat} {ps : List Piece} (depth : Piece.depthAfter l.openBrackets (p :: ps) = some after) :
    Piece.depthAfter next.openBrackets ps = some after := by
  cases p with
  | filter t =>
    cases step
    rcases l.pushFilter_cases start t with ⟨_, eq⟩ | ⟨_, first, stop, eq⟩ <;> rw [eq] <;> exact depth
  | keyword kind t =>
    obtain ⟨_, rfl⟩ := pushKeyword_ok_iff.mp step
    exact depth
  | openBracket =>
    obtain ⟨_, rfl⟩ := pushOpen_ok_iff.mp step
    exact depth
  | closeBracket =>
    cases eq : l.openBrackets with
    | zero =>
      rw [eq] at depth
      cases depth
    | succ d =>
      rw [eq] at depth
      rcases pushClose_ok_iff.mp step with ⟨_, rfl⟩ | ⟨_, rfl⟩ <;> rw [eq] <;> exact depth

theorem placeAll_openBrackets {l final : Layout} {start : Nat} {ps : List Piece}
    (run : l.placeAll start ps = .ok final) {after : Nat}
    (depth : Piece.depthAfter l.openBrackets ps = some after) : final.openBrackets = after := by
  induction ps generalizing l start with
  | nil =>
    cases run
    exact Option.some.inj depth
  | cons p ps ih =>
    obtain ⟨next, step, rest⟩ := bind_eq_ok_iff.mp run
    exact ih rest (place_openBrackets step depth)

/-- What a step does to the tokens: it puts the token of the piece on top, or it takes off the opening
bracket that a closing one follows. -/
theorem place_tokens {l next : Layout} {start : Nat} {p : Piece} (step : l.place start p = .ok next) :
    next.tokens = (p.token? start).toList ++ l.tokens ∨
      p = .closeBracket ∧ ∃ t, t.kind = .openBracket ∧ l.tokens = t :: next.tokens := by
  cases p with
  | filter text =>
    cases step
    exact Or.inl (by rw [pushFilter_eq])
  | keyword =>
    obtain ⟨_, rfl⟩ := pushKeyword_ok_iff.mp step
    exact Or.inl rfl
  | openBracket =>
    obtain ⟨_, rfl⟩ := pushOpen_ok_iff.mp step
    exact Or.inl rfl
  | closeBracket =>
    rcases pushClose_ok_iff.mp step with ⟨_, rfl⟩ | ⟨opens, rfl⟩
    · exact Or.inl rfl
    · cases eq : l.tokens with
      | nil => simp [preceding, eq] at opens
      | cons t ts => exact Or.inr ⟨rfl, t, by simpa [preceding, eq] using opens, rfl⟩

/-- A step keeps every token that has been laid out, unless it is an opening bracket. -/
theorem place_keeps {l next : Layout} {start : Nat} {p : Piece} (step : l.place start p = .ok next)
    {t : Token} (member : t ∈ l.tokens) (kind : t.kind ≠ .openBracket) : t ∈ next.tokens := by
  rcases place_tokens step with tokens | ⟨_, u, opens, tokens⟩
  · rw [tokens]
    exact List.mem_append_right _ member
  · rw [tokens] at member
    rcases List.mem_cons.mp member with rfl | member
    · exact absurd opens kind
    · exact member

theorem placeAll_keeps {l final : Layout} {start : Nat} {ps : List Piece}
    (run : l.placeAll start ps = .ok final) {t : Token} (member : t ∈ l.tokens)
    (kind : t.kind ≠ .openBracket) : t ∈ final.tokens := by
  induction ps generalizing l start with
  | nil =>
    cases run
    exact member
  | cons p ps ih =>
    obtain ⟨next, step, rest⟩ := bind_eq_ok_iff.mp run
    exact ih rest (place_keeps step member kind)

/-- A piece that is no bracket and leaves a token leaves it for good. -/
theorem exists_token_of_placeAll {l final : Layout} {start : Nat} {ps : List Piece}
    (run : l.placeAll start ps = .ok final) {p : Piece} (member : p ∈ ps) (other : p ≠ .closeBracket)
    (leaves : ∀ start, ∃ t, p.token? start = some t ∧ t.kind ≠ .openBracket) :
    ∃ t ∈ final.tokens, ∃ start, p.token? start = some t := by
  induction ps generalizing l start with
  | nil => cases member
  | cons q ps ih =>
    obtain ⟨next, step, rest⟩ := bind_eq_ok_iff.mp run
    rcases List.mem_cons.mp member with rfl | member
    · obtain ⟨t, here, kind⟩ := leaves start
      rcases place_tokens step with tokens | ⟨closes, _⟩
      · rw [here] at tokens
        have onTop : t ∈ next.tokens := by
          rw [tokens]
          exact List.mem_cons_self
        exact ⟨t, placeAll_keeps rest onTop kind, start, here⟩
      · exact absurd closes other
    · exact ih rest member

/-- Filter text that is not blank becomes a token without the blanks around it. -/
theorem exists_filter_of_placeAll {l final : Layout} {start : Nat} {ps : List Piece}
    (run : l.placeAll start ps = .ok final) {text : Text} (member : .filter text ∈ ps)
    (visible : Text.trim text ≠ []) :
    ∃ t ∈ final.tokens, t.kind = .expression ∧ t.text = Text.trim text := by
  have leaves (start : Nat) : ∃ t, (Piece.filter text).token? start = some t ∧ t.kind ≠ .openBracket :=
    ⟨_, Piece.token?_of_trim start rfl visible, nofun⟩
  obtain ⟨t, inTokens, start, left⟩ := exists_token_of_placeAll run member nofun leaves
  rw [Piece.token?_of_trim start rfl visible] at left
  cases left
  exact ⟨_, inTokens, rfl, rfl⟩

/-- A token that has been laid out was there before or is that of a piece. -/
theorem exists_piece_of_placeAll {l final : Layout} {start : Nat} {ps : List Piece}
    (run : l.placeAll start ps = .ok final) {t : Token} (member : t ∈ final.tokens) :
    t ∈ l.tokens ∨ ∃ before p after, ps = before ++ p :: after ∧
      p.token? (start + (before.flatMap Piece.text).length) = some t := by
  induction ps generalizing l start with
  | nil =>
    cases run
    exact Or.inl member
  | cons p ps ih =>
    obtain ⟨next, step, rest⟩ := bind_eq_ok_iff.mp run
    rcases ih rest with here | ⟨before, q, after, rfl, leaves⟩
    · rcases place_tokens step with tokens | ⟨_, u, _, tokens⟩
      · rw [tokens] at here
        rcases List.mem_append.mp here with new | old
        · exact Or.inr ⟨[], p, ps, rfl, Option.mem_toList.mp new⟩
        · exact Or.inl old
      · exact Or.inl (tokens ▸ List.mem_cons_of_mem u here)
    · refine Or.inr ⟨p :: before, q, after, rfl, ?_⟩
      rwa [List.flatMap_cons, List.length_append, ← Nat.add_assoc]

/-- Layout `m` has the tokens of `l`, possibly at other places, on top of those of `base`. -/
structure Above (base l m : Layout) : Prop where
  tokens : ∃ ts, m.tokens = ts ++ base.tokens ∧ ts.map Token.spelling = l.tokens.map Token.spelling
  openBrackets : m.openBrackets = l.openBrackets + base.openBrackets

theorem above_empty (base : Layout) : Above base empty base :=
  ⟨⟨[], rfl, rfl⟩, (Nat.zero_add _).symm⟩

namespace Above

variable {base l m : Layout}

theorem preceding (above : Above base l m) (nonempty : l.tokens ≠ []) : m.preceding = l.preceding := by
  obtain ⟨ts, eq, same⟩ := above.tokens
  obtain ⟨t, us, atL⟩ := List.exists_cons_of_ne_nil nonempty
  rw [atL, List.map_cons] at same
  obtain ⟨u, vs, rfl, first, _⟩ := List.map_eq_cons_iff.mp same
  rw [Layout.preceding, Layout.preceding, eq, atL]
  exact congrArg some (congrArg Prod.fst first)

theorem afterOperand (above : Above base l m) (ready : base.afterOperand = false) :
    m.afterOperand = l.afterOperand := by
  cases eq : l.tokens with
  | nil =>
    obtain ⟨ts, atM, same⟩ := above.tokens
    rw [eq, List.map_nil, List.map_eq_nil_iff] at same
    rw [same, List.nil_append] at atM
    have below : m.preceding = base.preceding := by rw [Layout.preceding, atM]; rfl
    rw [Layout.afterOperand] at ready
    rw [Layout.afterOperand, below, ready]
    simp [Layout.afterOperand, Layout.preceding, eq]
  | cons => rw [Layout.afterOperand, above.preceding (by simp [eq]), Layout.afterOperand]

theorem push (above : Above base l m) (kind : Token.Kind) (text : Text) (start stop start' stop' : Nat) :
    Above base (l.push kind text start stop) (m.push kind text start' stop') := by
  obtain ⟨⟨ts, eq, same⟩, brackets⟩ := above
  refine ⟨⟨⟨kind, text, start', stop'⟩ :: ts, ?_, ?_⟩, brackets⟩
  · rw [Layout.push, eq]
    rfl
  · rw [Layout.push, List.map_cons, List.map_cons, same]
    rfl

/-- A piece that can be placed alone can be placed on top of a layout that waits for an operand. A
closing bracket must not close what the layout below has opened. -/
theorem place (above : Above base l m) (ready : base.afterOperand = false) {next : Layout}
    {start : Nat} {p : Piece} (step : l.place start p = .ok next)
    (matched : p = .closeBracket → 0 < l.openBrackets) (start' : Nat) :
    ∃ next', m.place start' p = .ok next' ∧ Above base next next' := by
  have operand := above.afterOperand ready
  cases p with
  | filter t =>
    cases step
    refine ⟨_, rfl, ?_⟩
    rcases l.pushFilter_cases start t with ⟨blank, eq⟩ | ⟨visible, first, stop, eq⟩
    · rcases m.pushFilter_cases start' t with ⟨_, eq'⟩ | ⟨visible, _⟩
      · rwa [eq, eq']
      · exact absurd blank visible
    · rcases m.pushFilter_cases start' t with ⟨blank, _⟩ | ⟨_, first', stop', eq'⟩
      · exact absurd blank visible
      · rw [eq, eq']
        exact above.push _ _ _ _ _ _
  | keyword kind t =>
    obtain ⟨allowed, rfl⟩ := pushKeyword_ok_iff.mp step
    exact ⟨_, pushKeyword_ok_iff.mpr ⟨operand.trans allowed, rfl⟩, above.push _ _ _ _ _ _⟩
  | openBracket =>
    obtain ⟨allowed, rfl⟩ := pushOpen_ok_iff.mp step
    refine ⟨_, pushOpen_ok_iff.mpr ⟨operand.trans allowed, rfl⟩, (above.push _ _ start start _ _).tokens, ?_⟩
    have brackets := above.openBrackets
    simp only
    omega
  | closeBracket =>
    have brackets := above.openBrackets
    have positive := matched rfl
    rcases pushClose_ok_iff.mp step with ⟨allowed, rfl⟩ | ⟨opens, rfl⟩
    · refine ⟨_, pushClose_ok_iff.mpr (Or.inl ⟨operand.trans allowed, rfl⟩),
        (above.push _ _ start start _ _).tokens, ?_⟩
      simp only
      omega
    · have nonempty : l.tokens ≠ [] := by
        intro eq
        simp [Layout.preceding, eq] at opens
      refine ⟨_, pushClose_ok_iff.mpr (Or.inr ⟨(above.preceding nonempty).trans opens, rfl⟩), ?_, ?_⟩
      · obtain ⟨ts, eq, same⟩ := above.tokens
        obtain ⟨t, us, atL⟩ := List.exists_cons_of_ne_nil nonempty
        rw [atL, List.map_cons] at same
        obtain ⟨u, vs, rfl, _, rest⟩ := List.map_eq_cons_iff.mp same
        exact ⟨vs, by rw [eq]; rfl, by rw [rest, atL]; rfl⟩
      · simp only
        omega

/-- Pieces whose brackets match are placed on top of another layout as they are placed alone. -/
theorem placeAll (above : Above base l m) (ready : base.afterOperand = false) {final : Layout}
    {start after : Nat} {ps : List Piece} (run : l.placeAll start ps = .ok final)
    (depth : Piece.depthAfter l.openBrackets ps = some after) (start' : Nat) :
    ∃ final', m.placeAll start' ps = .ok final' ∧ Above base final final' := by
  induction ps generalizing l m start start' with
  | nil =>
    cases run
    exact ⟨m, rfl, above⟩
  | cons p ps ih =>
    obtain ⟨next, step, rest⟩ := bind_eq_ok_iff.mp run
    obtain ⟨next', step', above'⟩ := above.place ready step (matched_of_depthAfter depth) start'
    rw [placeAll_cons step']
    exact ih above' rest (place_openBrackets step depth) _

end Above

end Layout

end IssueQuery
