import IssueQuery.Proofs.QueryText

namespace IssueQuery

namespace Token

/-- Whether a token of this kind may follow one of the kind `before`, or start a query. -/
def Kind.MayFollow (before : Option Kind) : Kind → Prop
  | .expression => before ≠ some .expression
  | .and | .or | .closeBracket => before.any endsOperand = true
  | .not | .openBracket => before.any endsOperand = false

/-- Every token may follow the one before it. The newest token stands first, so what comes before a token
is a suffix. -/
def Placed (ts : List Token) : Prop := ∀ t us, t :: us <:+ ts → t.kind.MayFollow (us.head?.map kind)

theorem placed_nil : Placed [] := fun _ _ inside => absurd (List.suffix_nil.mp inside) (List.cons_ne_nil _ _)

theorem placed_cons {t : Token} {ts : List Token} :
    Placed (t :: ts) ↔ t.kind.MayFollow (ts.head?.map kind) ∧ Placed ts := by
  constructor
  · exact fun placed => ⟨placed t ts List.suffix_rfl, fun u us inside =>
      placed u us (inside.trans (List.suffix_cons t ts))⟩
  · rintro ⟨first, rest⟩ u us inside
    rcases List.suffix_cons_iff.mp inside with same | inside
    · cases same
      exact first
    · exact rest u us inside

/-- How many tokens are of this kind. -/
def number (k : Kind) (ts : List Token) : Nat := ts.countP fun t => t.kind == k

theorem number_cons (k : Kind) (t : Token) (ts : List Token) :
    number k (t :: ts) = number k ts + if t.kind = k then 1 else 0 := by
  simp only [number, List.countP_cons, beq_iff_eq]

/-- Every closing bracket has its opening bracket before it. The newest token stands first. -/
def Nested (ts : List Token) : Prop := ∀ us, us <:+ ts → number .closeBracket us ≤ number .openBracket us

theorem nested_nil : Nested [] := by
  intro us inside
  rw [List.suffix_nil.mp inside]
  exact Nat.le_refl _

theorem nested_cons {t : Token} {ts : List Token} :
    Nested (t :: ts) ↔ number .closeBracket (t :: ts) ≤ number .openBracket (t :: ts) ∧ Nested ts := by
  constructor
  · exact fun nested => ⟨nested _ List.suffix_rfl, fun us inside => nested us (inside.trans (List.suffix_cons t ts))⟩
  · rintro ⟨whole, rest⟩ us inside
    rcases List.suffix_cons_iff.mp inside with rfl | inside
    · exact whole
    · exact rest us inside

end Token

namespace Piece

/-- Filter text never stands next to filter text. -/
def Alternating : List Piece → Prop
  | [] => True
  | p :: ps => (∀ t u, p = .filter t → ps.head? ≠ some (.filter u)) ∧ Alternating ps

theorem Alternating.left {ps qs : List Piece} (alternating : Alternating (ps ++ qs)) : Alternating ps := by
  induction ps with
  | nil => trivial
  | cons p ps ih =>
    obtain ⟨apart, rest⟩ := alternating
    refine ⟨fun t u filter first => apart t u filter ?_, ih rest⟩
    rw [List.append_eq, List.head?_append, first, Option.some_or]

theorem Alternating.consFilter {ps : List Piece} (alternating : Alternating ps) (w : Text) :
    Alternating (consFilter w ps) := by
  cases ps with
  | nil => exact ⟨by simp, trivial⟩
  | cons p ps =>
    cases p with
    | filter t => exact ⟨fun _ u _ => alternating.1 t u rfl, alternating.2⟩
    | keyword | openBracket | closeBracket => exact ⟨by simp, alternating⟩

theorem alternating_ofWords (q : Bool) (ws : List Text) : Alternating (ofWords q ws) := by
  induction ws generalizing q with
  | nil => trivial
  | cons w ws ih =>
    cases q with
    | true => exact (ih _).consFilter w
    | false =>
      cases mark : ofMark? w with
      | none =>
        rw [ofWords_filter mark]
        exact (ih _).consFilter w
      | some p =>
        rw [ofWords_mark mark]
        exact ⟨fun t _ eq => absurd eq (ne_filter_of_mark mark t), ih false⟩

end Piece

namespace Layout

/-- A step keeps the tokens in order, if filter text is not laid out next to filter text. Only filter text
leaves a filter on top. -/
theorem place_placed {l next : Layout} {start : Nat} {p : Piece} (step : l.place start p = .ok next)
    (placed : Token.Placed l.tokens) (keywords : ∀ k w, p = .keyword k w → k = .and ∨ k = .or ∨ k = .not)
    (apart : ∀ t, p = .filter t → l.preceding ≠ some .expression) :
    Token.Placed next.tokens ∧ ((∀ t, p ≠ .filter t) → next.preceding ≠ some .expression) := by
  cases p with
  | filter t =>
    cases step
    refine ⟨?_, fun other => absurd rfl (other t)⟩
    rcases l.pushFilter_cases start t with ⟨_, eq⟩ | ⟨_, first, stop, eq⟩ <;> rw [eq]
    · exact placed
    · exact Token.placed_cons.mpr ⟨apart t rfl, placed⟩
  | keyword k w =>
    obtain ⟨allowed, rfl⟩ := pushKeyword_ok_iff.mp step
    rcases keywords k w rfl with rfl | rfl | rfl
    all_goals exact ⟨Token.placed_cons.mpr ⟨allowed, placed⟩, fun _ => by simp [preceding, push]⟩
  | openBracket =>
    obtain ⟨allowed, rfl⟩ := pushOpen_ok_iff.mp step
    exact ⟨Token.placed_cons.mpr ⟨allowed, placed⟩, fun _ => by simp [preceding, push]⟩
  | closeBracket =>
    rcases pushClose_ok_iff.mp step with ⟨allowed, rfl⟩ | ⟨opens, rfl⟩
    · exact ⟨Token.placed_cons.mpr ⟨allowed, placed⟩, fun _ => by simp [preceding, push]⟩
    · cases eq : l.tokens with
      | nil => simp [preceding, eq] at opens
      | cons t ts =>
        -- What the pair stood on may be followed by an opening bracket, so it is no filter.
        have kind : t.kind = .openBracket := by simpa [preceding, eq] using opens
        rw [eq, Token.placed_cons, kind] at placed
        refine ⟨placed.2, fun _ filter => ?_⟩
        have follows : (ts.head?.map Token.kind).any Token.Kind.endsOperand = false := placed.1
        have top : ts.head?.map Token.kind = some .expression := filter
        rw [top] at follows
        cases follows

theorem placeAll_placed {l final : Layout} {start : Nat} {ps : List Piece} (run : l.placeAll start ps = .ok final)
    (placed : Token.Placed l.tokens) (alternating : Piece.Alternating ps)
    (keywords : ∀ k w, .keyword k w ∈ ps → k = .and ∨ k = .or ∨ k = .not)
    (apart : ∀ t, ps.head? = some (.filter t) → l.preceding ≠ some .expression) : Token.Placed final.tokens := by
  induction ps generalizing l start with
  | nil =>
    cases run
    exact placed
  | cons p ps ih =>
    obtain ⟨next, step, rest⟩ := bind_eq_ok_iff.mp run
    obtain ⟨placed', top⟩ := place_placed step placed (fun k w eq => keywords k w (eq ▸ List.mem_cons_self))
      fun t eq => apart t (congrArg some eq)
    refine ih rest placed' alternating.2 (fun k w member => keywords k w (List.mem_cons_of_mem p member)) ?_
    exact fun t first => top fun u eq => alternating.1 u t eq first

/-- The tokens are in order however far a query has been laid out. -/
theorem placed_of_pieces {query : Text} {ps qs : List Piece} (pieces : Piece.ofText query = ps ++ qs) {l : Layout}
    (run : empty.placeAll 0 ps = .ok l) : Token.Placed l.tokens := by
  have alternating : Piece.Alternating (ps ++ qs) := pieces ▸ Piece.alternating_ofWords false query.words
  have keywords (k : Token.Kind) (w : Text) (member : .keyword k w ∈ ps) : k = .and ∨ k = .or ∨ k = .not := by
    have whole : .keyword k w ∈ Piece.ofText query := pieces ▸ List.mem_append_left qs member
    exact Piece.kind_of_mem_ofWords whole
  exact placeAll_placed run Token.placed_nil alternating.left keywords fun _ _ => nofun

theorem placed_of_placeAll {query : Text} {l : Layout} (run : empty.placeAll 0 (Piece.ofText query) = .ok l) :
    Token.Placed l.tokens :=
  placed_of_pieces (List.append_nil _).symm run

/-- Whether the brackets of a layout are nested, and as many of them are open as it counts. -/
structure Counts (l : Layout) : Prop where
  nested : Token.Nested l.tokens
  open_eq : Token.number .openBracket l.tokens = Token.number .closeBracket l.tokens + l.openBrackets

theorem counts_empty : Counts empty := ⟨Token.nested_nil, rfl⟩

/-- A token on top keeps the count, if the number of open brackets follows it. -/
theorem Counts.cons {l next : Layout} (counts : l.Counts) {t : Token} (tokens : next.tokens = t :: l.tokens)
    (openBrackets : l.openBrackets + (if t.kind = .openBracket then 1 else 0) =
      next.openBrackets + if t.kind = .closeBracket then 1 else 0) : next.Counts := by
  have open_eq := counts.open_eq
  have whole : Token.number .openBracket next.tokens = Token.number .closeBracket next.tokens + next.openBrackets := by
    rw [tokens, Token.number_cons, Token.number_cons]
    omega
  refine ⟨?_, whole⟩
  rw [tokens] at whole ⊢
  exact Token.nested_cons.mpr ⟨by omega, counts.nested⟩

theorem Counts.place {l next : Layout} (counts : l.Counts) {start : Nat} {p : Piece}
    (step : l.place start p = .ok next) (keywords : ∀ k w, p = .keyword k w → k = .and ∨ k = .or ∨ k = .not)
    (matched : p = .closeBracket → 0 < l.openBrackets) : next.Counts := by
  cases p with
  | filter t =>
    cases step
    rcases l.pushFilter_cases start t with ⟨_, eq⟩ | ⟨_, first, stop, eq⟩ <;> rw [eq]
    · exact counts
    · exact counts.cons rfl rfl
  | keyword k w =>
    obtain ⟨_, rfl⟩ := pushKeyword_ok_iff.mp step
    rcases keywords k w rfl with rfl | rfl | rfl <;> exact counts.cons rfl rfl
  | openBracket =>
    obtain ⟨_, rfl⟩ := pushOpen_ok_iff.mp step
    exact counts.cons rfl rfl
  | closeBracket =>
    have positive := matched rfl
    rcases pushClose_ok_iff.mp step with ⟨_, rfl⟩ | ⟨opens, rfl⟩
    · exact counts.cons rfl (Nat.sub_add_cancel positive).symm
    · cases eq : l.tokens with
      | nil => simp [preceding, eq] at opens
      | cons t ts =>
        have kind : t.kind = .openBracket := by simpa [preceding, eq] using opens
        obtain ⟨nested, open_eq⟩ := counts
        rw [eq, Token.nested_cons] at nested
        rw [eq, Token.number_cons, Token.number_cons, kind, if_pos rfl, if_neg (by decide)] at open_eq
        have rest : Token.number .openBracket ts = Token.number .closeBracket ts + (l.openBrackets - 1) := by omega
        exact ⟨nested.2, rest⟩

/-- The brackets of the tokens are nested if those of the pieces match. -/
theorem Counts.placeAll {l final : Layout} (counts : l.Counts) {start after : Nat} {ps : List Piece}
    (run : l.placeAll start ps = .ok final) (keywords : ∀ k w, .keyword k w ∈ ps → k = .and ∨ k = .or ∨ k = .not)
    (depth : Piece.depthAfter l.openBrackets ps = some after) : final.Counts := by
  induction ps generalizing l start with
  | nil =>
    cases run
    exact counts
  | cons p ps ih =>
    obtain ⟨next, step, rest⟩ := bind_eq_ok_iff.mp run
    have counts' := counts.place step (fun k w eq => keywords k w (eq ▸ List.mem_cons_self))
      (matched_of_depthAfter depth)
    have later : ∀ k w, .keyword k w ∈ ps → k = .and ∨ k = .or ∨ k = .not :=
      fun k w member => keywords k w (List.mem_cons_of_mem p member)
    exact ih counts' rest later (place_openBrackets step depth)

end Layout

end IssueQuery
