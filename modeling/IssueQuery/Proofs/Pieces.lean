import IssueQuery.Proofs.Blanks
import IssueQuery.Proofs.Words
import IssueQuery.Token.Balance

namespace IssueQuery

theorem map_toLower_of_ofKeyword? {w : Text} {k : Token.Kind} (keyword : Token.Kind.ofKeyword? w = some k) :
    w.map Char.toLower ∈ ["and".toList, "or".toList, "not".toList] := by
  unfold Token.Kind.ofKeyword? Text.sameLetters at keyword
  split at keyword
  · rename_i same
    exact List.mem_cons.mpr (Or.inl (eq_of_beq same))
  · split at keyword
    · rename_i same
      exact List.mem_cons_of_mem _ (List.mem_cons.mpr (Or.inl (eq_of_beq same)))
    · split at keyword
      · rename_i same
        exact List.mem_cons_of_mem _ (List.mem_cons_of_mem _ (List.mem_singleton.mpr (eq_of_beq same)))
      · cases keyword

theorem kind_of_ofKeyword? {w : Text} {k : Token.Kind} (keyword : Token.Kind.ofKeyword? w = some k) :
    k = .and ∨ k = .or ∨ k = .not := by
  unfold Token.Kind.ofKeyword? at keyword
  split at keyword
  · exact Or.inl (Option.some.inj keyword).symm
  · split at keyword
    · exact Or.inr (Or.inl (Option.some.inj keyword).symm)
    · split at keyword
      · exact Or.inr (Or.inr (Option.some.inj keyword).symm)
      · cases keyword

theorem length_of_ofKeyword? {w : Text} {k : Token.Kind} (keyword : Token.Kind.ofKeyword? w = some k) :
    w.length = 2 ∨ w.length = 3 := by
  have lengths : ∀ word ∈ ["and".toList, "or".toList, "not".toList], word.length = 2 ∨ word.length = 3 := by decide
  have length := lengths _ (map_toLower_of_ofKeyword? keyword)
  rwa [List.length_map] at length

/-- The letters of a keyword are those of `and`, `or` and `not`. -/
theorem toLower_mem_of_ofKeyword? {w : Text} {k : Token.Kind} (keyword : Token.Kind.ofKeyword? w = some k)
    {c : Char} (member : c ∈ w) : c.toLower ∈ ['a', 'n', 'd', 'o', 'r', 't'] := by
  have letters : ["and".toList, "or".toList, "not".toList].all (fun word => word.all fun d =>
      ['a', 'n', 'd', 'o', 'r', 't'].contains d) = true := by decide
  have spelling := List.all_eq_true.mp letters _ (map_toLower_of_ofKeyword? keyword)
  exact List.contains_iff_mem.mp (List.all_eq_true.mp spelling _ (List.mem_map_of_mem member))

theorem ofKeyword?_eq_none_of_mem {w : Text} {c : Char} (member : c ∈ w)
    (other : c.toLower ∉ ['a', 'n', 'd', 'o', 'r', 't']) : Token.Kind.ofKeyword? w = none := by
  cases keyword : Token.Kind.ofKeyword? w with
  | none => rfl
  | some k => exact absurd (toLower_mem_of_ofKeyword? keyword member) other

theorem not_mem_quote_of_ofKeyword? {w : Text} {k : Token.Kind} (keyword : Token.Kind.ofKeyword? w = some k) :
    '"' ∉ w := by
  intro member
  rw [ofKeyword?_eq_none_of_mem member (by decide)] at keyword
  cases keyword

namespace Piece

/-- The piece that a word outside quotes stands for on its own: a bracket or a keyword. -/
def ofMark? (w : Text) : Option Piece :=
  if w = ['('] then some .openBracket
  else if w = [')'] then some .closeBracket
  else (Token.Kind.ofKeyword? w).map fun k => .keyword k w

theorem mark_cases {w : Text} {p : Piece} (mark : ofMark? w = some p) :
    (w = ['('] ∧ p = .openBracket) ∨ (w = [')'] ∧ p = .closeBracket) ∨
      (w ≠ ['('] ∧ w ≠ [')'] ∧ ∃ k, Token.Kind.ofKeyword? w = some k ∧ p = .keyword k w) := by
  unfold ofMark? at mark
  split at mark
  · rename_i opens
    exact Or.inl ⟨opens, (Option.some.inj mark).symm⟩
  · rename_i notOpening
    split at mark
    · rename_i closes
      exact Or.inr (Or.inl ⟨closes, (Option.some.inj mark).symm⟩)
    · rename_i notClosing
      obtain ⟨k, keyword, eq⟩ := Option.map_eq_some_iff.mp mark
      exact Or.inr (Or.inr ⟨notOpening, notClosing, k, keyword, eq.symm⟩)

theorem ofMark?_eq_none_iff {w : Text} :
    ofMark? w = none ↔ w ≠ ['('] ∧ w ≠ [')'] ∧ Token.Kind.ofKeyword? w = none := by
  unfold ofMark?
  split
  · simp_all
  · split <;> simp_all

theorem ofMark?_of_blank {c : Char} (blank : isBlank c = true) : ofMark? [c] = none := by
  refine ofMark?_eq_none_iff.mpr ⟨?_, ?_, ?_⟩
  · intro eq
    cases eq
    cases blank
  · intro eq
    cases eq
    cases blank
  · cases keyword : Token.Kind.ofKeyword? [c] with
    | none => rfl
    | some k => simpa using length_of_ofKeyword? keyword

theorem ofMark?_of_long {w : Text} (long : 4 ≤ w.length) : ofMark? w = none := by
  refine ofMark?_eq_none_iff.mpr ⟨?_, ?_, ?_⟩
  · rintro rfl
    simp at long
  · rintro rfl
    simp at long
  · cases keyword : Token.Kind.ofKeyword? w with
    | none => rfl
    | some k =>
      have length := length_of_ofKeyword? keyword
      omega

theorem ofWords_quoted (w : Text) (ws : List Text) :
    ofWords true (w :: ws) = consFilter w (ofWords (Text.quotedAfter true w) ws) := rfl

theorem ofWords_mark {w : Text} {p : Piece} (mark : ofMark? w = some p) (ws : List Text) :
    ofWords false (w :: ws) = p :: ofWords false ws := by
  rw [ofWords, if_neg Bool.false_ne_true]
  rcases mark_cases mark with ⟨rfl, rfl⟩ | ⟨rfl, rfl⟩ | ⟨notOpening, notClosing, k, keyword, rfl⟩
  · rfl
  · rfl
  · rw [if_neg notOpening, if_neg notClosing, keyword]

theorem ofWords_filter {q : Bool} {w : Text} (plain : ofMark? w = none) (ws : List Text) :
    ofWords q (w :: ws) = consFilter w (ofWords (Text.quotedAfter q w) ws) := by
  cases q with
  | true => exact ofWords_quoted w ws
  | false =>
    obtain ⟨notOpening, notClosing, noKeyword⟩ := ofMark?_eq_none_iff.mp plain
    rw [ofWords, if_neg Bool.false_ne_true, if_neg notOpening, if_neg notClosing, noKeyword]

theorem not_mem_quote_of_mark {w : Text} {p : Piece} (mark : ofMark? w = some p) : '"' ∉ w := by
  rcases mark_cases mark with ⟨rfl, _⟩ | ⟨rfl, _⟩ | ⟨_, _, k, keyword, _⟩
  · decide
  · decide
  · exact not_mem_quote_of_ofKeyword? keyword

theorem ofMark?_of_mem_quote {w : Text} (member : '"' ∈ w) : ofMark? w = none := by
  cases mark : ofMark? w with
  | none => rfl
  | some p => exact absurd member (not_mem_quote_of_mark mark)

theorem ne_filter_of_mark {w : Text} {p : Piece} (mark : ofMark? w = some p) (t : Text) : p ≠ .filter t := by
  rcases mark_cases mark with ⟨_, rfl⟩ | ⟨_, rfl⟩ | ⟨_, _, k, _, rfl⟩ <;> exact Piece.noConfusion

theorem text_mark {w : Text} {p : Piece} (mark : ofMark? w = some p) : p.text = w := by
  rcases mark_cases mark with ⟨rfl, rfl⟩ | ⟨rfl, rfl⟩ | ⟨_, _, k, _, rfl⟩ <;> rfl

theorem consFilter_consFilter (v w : Text) (ps : List Piece) :
    consFilter v (consFilter w ps) = consFilter (v ++ w) ps := by
  cases ps with
  | nil => rfl
  | cons p ps => cases p <;> simp [consFilter]

/-- What filter text runs into does not depend on the text. -/
theorem exists_consFilter (ps : List Piece) : ∃ t qs, ∀ w, consFilter w ps = .filter (w ++ t) :: qs := by
  cases ps with
  | nil => exact ⟨[], [], fun w => by rw [List.append_nil]; rfl⟩
  | cons p ps =>
    cases p with
    | filter t => exact ⟨t, ps, fun w => rfl⟩
    | keyword | openBracket | closeBracket => exact ⟨[], _, fun w => by rw [List.append_nil]; rfl⟩

theorem consFilter_append {p : Piece} (other : ∀ t, p ≠ .filter t) (w : Text) (ps qs : List Piece) :
    consFilter w (ps ++ p :: qs) = consFilter w ps ++ p :: qs := by
  cases ps with
  | nil => cases p <;> simp [consFilter] at other ⊢
  | cons r ps => cases r <;> rfl

theorem text_consFilter (w : Text) (ps : List Piece) :
    (consFilter w ps).flatMap text = w ++ ps.flatMap text := by
  cases ps with
  | nil => simp [consFilter, text]
  | cons p ps => cases p <;> simp [consFilter, text]

theorem text_ofWords (q : Bool) (ws : List Text) : (ofWords q ws).flatMap text = ws.flatten := by
  induction ws generalizing q with
  | nil => rfl
  | cons w ws ih =>
    cases q with
    | true => rw [ofWords_quoted, text_consFilter, ih, List.flatten_cons]
    | false =>
      cases mark : ofMark? w with
      | none => rw [ofWords_filter mark, text_consFilter, ih, List.flatten_cons]
      | some p => rw [ofWords_mark mark, List.flatMap_cons, text_mark mark, ih, List.flatten_cons]

/-- The pieces of a query are the whole query. -/
theorem text_ofText (t : Text) : (ofText t).flatMap text = t := by
  rw [ofText, text_ofWords, Text.flatten_words]

/-- A bracket or a keyword outside quotes ends the filter text before it. -/
theorem ofWords_append_mark {q : Bool} {ws : List Text} (closed : Text.quotedAfter q ws.flatten = false)
    {w : Text} {p : Piece} (mark : ofMark? w = some p) (vs : List Text) :
    ofWords q (ws ++ w :: vs) = ofWords q ws ++ p :: ofWords false vs := by
  induction ws generalizing q with
  | nil =>
    cases closed
    exact ofWords_mark mark vs
  | cons v ws ih =>
    rw [List.flatten_cons, Text.quotedAfter_append] at closed
    cases q with
    | true =>
      rw [List.cons_append, ofWords_quoted, ih closed, consFilter_append (ne_filter_of_mark mark), ofWords_quoted]
    | false =>
      cases own : ofMark? v with
      | none =>
        rw [List.cons_append, ofWords_filter own, ih closed, consFilter_append (ne_filter_of_mark mark),
          ofWords_filter own]
      | some r =>
        rw [Text.quotedAfter_of_not_mem (not_mem_quote_of_mark own)] at closed
        rw [List.cons_append, ofWords_mark own, ih closed, ofWords_mark own, List.cons_append]

/-- Filter text that the last words start begins with the end of the words before them, whatever the last words
are. What stands before the filter leaves no quotes open. -/
theorem exists_ofWords_append (q : Bool) (us : List Text) :
    ∃ ps a, ps.flatMap text ++ a = us.flatten ∧ (ps ≠ [] → Text.quotedAfter q (ps.flatMap text) = false) ∧
      ∀ ws t qs, ofWords (Text.quotedAfter q us.flatten) ws = .filter t :: qs →
        ofWords q (us ++ ws) = ps ++ .filter (a ++ t) :: qs := by
  induction us generalizing q with
  | nil => exact ⟨[], [], rfl, absurd rfl, fun ws t qs last => last⟩
  | cons u us ih =>
    rw [List.flatten_cons, Text.quotedAfter_append]
    obtain ⟨ps, a, text, closed, last⟩ := ih (Text.quotedAfter q u)
    have joined (plain : q = true ∨ ofMark? u = none) :
        ∃ ps a, ps.flatMap Piece.text ++ a = u ++ us.flatten ∧
          (ps ≠ [] → Text.quotedAfter q (ps.flatMap Piece.text) = false) ∧
          ∀ ws t qs, ofWords (Text.quotedAfter (Text.quotedAfter q u) us.flatten) ws = .filter t :: qs →
            ofWords q (u :: us ++ ws) = ps ++ .filter (a ++ t) :: qs := by
      have step (ws : List Text) : ofWords q (u :: us ++ ws) = consFilter u (ofWords (Text.quotedAfter q u) (us ++ ws)) := by
        rcases plain with rfl | mark
        · exact ofWords_quoted u (us ++ ws)
        · exact ofWords_filter mark (us ++ ws)
      cases ps with
      | nil =>
        refine ⟨[], u ++ a, by rw [← text]; rfl, absurd rfl, fun ws t qs here => ?_⟩
        rw [step, last ws t qs here, List.nil_append, consFilter, List.append_assoc]
        rfl
      | cons p ps =>
        refine ⟨consFilter u (p :: ps), a, ?_, fun _ => ?_, fun ws t qs here => ?_⟩
        · rw [text_consFilter, List.append_assoc, text]
        · rw [text_consFilter, Text.quotedAfter_append]
          exact closed (List.cons_ne_nil p ps)
        · rw [step, last ws t qs here]
          cases p <;> rfl
    cases q with
    | true => exact joined (Or.inl rfl)
    | false =>
      cases mark : ofMark? u with
      | none => exact joined (Or.inr mark)
      | some p =>
        have free := Text.quotedAfter_of_not_mem (not_mem_quote_of_mark mark) false
        rw [free] at closed last ⊢
        refine ⟨p :: ps, a, ?_, fun _ => ?_, fun ws t qs here => ?_⟩
        · rw [List.flatMap_cons, text_mark mark, List.append_assoc, text]
        · rw [List.flatMap_cons, text_mark mark, Text.quotedAfter_append, free]
          cases ps with
          | nil => rfl
          | cons p ps => exact closed (List.cons_ne_nil p ps)
        · rw [List.cons_append, ofWords_mark mark, last ws t qs here, List.cons_append]

/-- Filter text that the last words start is part of a longer one. -/
theorem exists_filter_of_tail {us ws : List Text} {t : Text} {ps : List Piece}
    (tail : ofWords (Text.quotedAfter false us.flatten) ws = .filter t :: ps) :
    ∃ p, .filter (p ++ t) ∈ ofWords false (us ++ ws) ∧ Text.quotedAfter false p = Text.quotedAfter false us.flatten := by
  obtain ⟨before, a, text, closed, last⟩ := exists_ofWords_append false us
  have first : Text.quotedAfter false (before.flatMap Piece.text) = false := by
    cases before with
    | nil => rfl
    | cons p before => exact closed (List.cons_ne_nil p before)
  refine ⟨a, ?_, ?_⟩
  · rw [last ws t ps tail]
    exact List.mem_append_right before List.mem_cons_self
  · rw [← text, Text.quotedAfter_append, first]

theorem ofText_append_mark {t w u : Text} {p : Piece} (closed : Text.IsClosed t)
    (mark : ofMark? w = some p) (cut : Text.words (t ++ (w ++ u)) = Text.words t ++ w :: Text.words u) :
    ofText (t ++ (w ++ u)) = ofText t ++ p :: ofText u := by
  have closed : Text.quotedAfter false (Text.words t).flatten = false := by rwa [Text.flatten_words]
  rw [ofText, cut, ofWords_append_mark closed mark]
  rfl

theorem ofText_append_open {t : Text} (closed : Text.IsClosed t) (u : Text) :
    ofText (t ++ '(' :: u) = ofText t ++ .openBracket :: ofText u :=
  ofText_append_mark (w := ['(']) closed rfl (Text.words_append_boundary (by decide) t u)

theorem ofText_append_close {t : Text} (closed : Text.IsClosed t) (u : Text) :
    ofText (t ++ ')' :: u) = ofText t ++ .closeBracket :: ofText u :=
  ofText_append_mark (w := [')']) closed rfl (Text.words_append_boundary (by decide) t u)

theorem ofText_cons_blank {c : Char} (blank : isBlank c = true) (t : Text) :
    ofText (c :: t) = consFilter [c] (ofText t) := by
  have other : c ≠ '"' := by
    rintro rfl
    cases blank
  rw [ofText, Text.words_cons_boundary (by simp [isBoundary, blank]), ofWords_filter (ofMark?_of_blank blank),
    Text.quotedAfter_of_not_mem (by simpa using other.symm)]
  rfl

theorem ofText_append_blanks {v : Text} (blank : v.IsBlank) (w t : Text) :
    consFilter w (ofText (v ++ t)) = consFilter (w ++ v) (ofText t) := by
  induction v generalizing w with
  | nil => rw [List.nil_append, List.append_nil]
  | cons c v ih =>
    rw [List.cons_append, ofText_cons_blank (blank c List.mem_cons_self), consFilter_consFilter,
      ih fun d member => blank d (List.mem_cons_of_mem c member), List.append_assoc, List.singleton_append]

/-- A keyword stands apart from the text around it. -/
theorem ofText_append_keyword {t w u : Text} {k : Token.Kind} (closed : Text.IsClosed t)
    (ends : Text.EndsApart t) (starts : Text.StartsApart u) (alone : Text.words w = [w])
    (keyword : ofMark? w = some (.keyword k w)) :
    ofText (t ++ (w ++ u)) = ofText t ++ .keyword k w :: ofText u := by
  refine ofText_append_mark closed keyword ?_
  rw [Text.words_append_of_endsApart ends, Text.words_append_of_startsApart starts, alone]
  rfl

/-- How many brackets are open after the pieces, if `depth` are open before them and every closing
bracket has its opening bracket. -/
def depthAfter (depth : Nat) : List Piece → Option Nat
  | [] => some depth
  | .openBracket :: ps => depthAfter (depth + 1) ps
  | .closeBracket :: ps =>
    match depth with
    | 0 => none
    | d + 1 => depthAfter d ps
  | .filter _ :: ps | .keyword _ _ :: ps => depthAfter depth ps

theorem depthAfter_append (depth : Nat) (ps qs : List Piece) :
    depthAfter depth (ps ++ qs) = (depthAfter depth ps).bind fun d => depthAfter d qs := by
  induction ps generalizing depth with
  | nil => rfl
  | cons p ps ih =>
    cases p with
    | filter | keyword | openBracket => exact ih _
    | closeBracket =>
      cases depth with
      | zero => rfl
      | succ d => exact ih d

/-- Brackets that are open further out do not matter. -/
theorem depthAfter_add {depth after : Nat} {ps : List Piece} (run : depthAfter depth ps = some after)
    (outer : Nat) : depthAfter (depth + outer) ps = some (after + outer) := by
  induction ps generalizing depth with
  | nil =>
    cases run
    rfl
  | cons p ps ih =>
    cases p with
    | filter | keyword => exact ih run
    | openBracket =>
      rw [depthAfter, Nat.add_right_comm]
      exact ih run
    | closeBracket =>
      cases depth with
      | zero => cases run
      | succ d =>
        rw [Nat.add_right_comm]
        exact ih run

/-- A pair of brackets around pieces that match leaves the brackets outside as they are. -/
theorem depthAfter_group {ps : List Piece} (matched : depthAfter 0 ps = some 0) (depth : Nat) (qs : List Piece) :
    depthAfter depth (.openBracket :: (ps ++ .closeBracket :: qs)) = depthAfter depth qs := by
  have inner := depthAfter_add matched (depth + 1)
  rw [Nat.zero_add] at inner
  rw [depthAfter, depthAfter_append, inner]
  rfl

theorem depthAfter_consFilter (depth : Nat) (w : Text) (ps : List Piece) :
    depthAfter depth (consFilter w ps) = depthAfter depth ps := by
  cases ps with
  | nil => rfl
  | cons p ps => cases p <;> rfl

theorem balanceFrom_cons {q : Bool} {c : Char} (other : q = true ∨ c ≠ '(' ∧ c ≠ ')') (depth position : Nat)
    (t : Text) : balanceFrom q depth position (c :: t) =
      balanceFrom (Text.quoteStep q c) depth (position + 1) t := by
  rcases other with rfl | ⟨notOpening, notClosing⟩
  · rfl
  · rw [balanceFrom.eq_def]
    simp only [if_neg notOpening, if_neg notClosing, ite_self]

theorem balanceFrom_append {q : Bool} {w : Text} (other : ∀ c ∈ w, c ≠ '(' ∧ c ≠ ')') (depth position : Nat)
    (t : Text) : balanceFrom q depth position (w ++ t) =
      balanceFrom (Text.quotedAfter q w) depth (position + w.length) t := by
  induction w generalizing q position with
  | nil => rfl
  | cons c w ih =>
    rw [List.cons_append, balanceFrom_cons (Or.inr (other c List.mem_cons_self)),
      ih fun d member => other d (List.mem_cons_of_mem _ member), Text.quotedAfter_cons, List.length_cons,
      Nat.add_right_comm, Nat.add_assoc]

/-- A word that is no bracket leaves the open brackets as they are, and so does every word in quotes. -/
theorem balanceFrom_word {q : Bool} {w : Text} (word : w.IsWord) (plain : q = true ∨ w ≠ ['('] ∧ w ≠ [')'])
    (depth position : Nat) (t : Text) : balanceFrom q depth position (w ++ t) =
      balanceFrom (Text.quotedAfter q w) depth (position + w.length) t := by
  rcases word with ⟨c, rfl, _⟩ | ⟨_, letters⟩
  · exact balanceFrom_cons (by simpa using plain) depth position t
  · refine balanceFrom_append (fun c member => ?_) depth position t
    have letter := letters c member
    constructor <;> rintro rfl <;> simp [isBoundary] at letter

theorem balanceFrom_words {q : Bool} {ws : List Text} (words : ∀ w ∈ ws, w.IsWord) (depth position : Nat) :
    balanceFrom q depth position ws.flatten = .ok () ↔ depthAfter depth (ofWords q ws) = some 0 := by
  induction ws generalizing q depth position with
  | nil =>
    rw [List.flatten_nil, balanceFrom, ofWords, depthAfter]
    split <;> simp_all
  | cons w ws ih =>
    have word := words w List.mem_cons_self
    have rest : ∀ v ∈ ws, v.IsWord := fun v member => words v (List.mem_cons_of_mem _ member)
    rw [List.flatten_cons]
    cases q with
    | true =>
      rw [balanceFrom_word word (Or.inl rfl), ih rest, ofWords_quoted, depthAfter_consFilter]
    | false =>
      cases mark : ofMark? w with
      | none =>
        obtain ⟨notOpening, notClosing, _⟩ := ofMark?_eq_none_iff.mp mark
        rw [balanceFrom_word word (Or.inr ⟨notOpening, notClosing⟩), ih rest, ofWords_filter mark,
          depthAfter_consFilter]
      | some p =>
        rw [ofWords_mark mark]
        rcases mark_cases mark with ⟨rfl, rfl⟩ | ⟨rfl, rfl⟩ | ⟨notOpening, notClosing, k, keyword, rfl⟩
        · exact ih rest _ _
        · cases depth with
          | zero => simp [balanceFrom, depthAfter]
          | succ d => exact ih rest d _
        · rw [balanceFrom_word word (Or.inr ⟨notOpening, notClosing⟩),
            Text.quotedAfter_of_not_mem (not_mem_quote_of_ofKeyword? keyword), ih rest, depthAfter]

/-- The brackets of a query match if those of its pieces do. -/
theorem checkBrackets_ok_iff (t : Text) : checkBrackets t = .ok () ↔ depthAfter 0 (ofText t) = some 0 := by
  have whole := balanceFrom_words (q := false) (fun w => Text.isWord_of_mem_words (t := t)) 0 0
  rwa [Text.flatten_words] at whole

end Piece

end IssueQuery
