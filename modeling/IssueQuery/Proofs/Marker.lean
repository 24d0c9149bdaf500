import IssueQuery.Proofs.Gaps
import IssueQuery.Search

namespace IssueQuery

/-- Whether the text ends within a word or at the end of one. -/
def Text.endsWord (t : Text) : Bool := t.getLast?.any isWordChar

/-- A word boundary lies between two texts: a word ends there or starts there, but not both. -/
def Text.WordBoundary (before after : Text) : Prop := before.endsWord ≠ after.head?.any isWordChar

theorem toNat_of_ofNat_eq {n : Nat} {c : Char} (same : Char.ofNat n = c) (visible : c ≠ '\x00') : n = c.toNat := by
  by_cases valid : n.isValidChar
  · rw [Char.ofNat, dif_pos valid] at same
    exact congrArg Char.toNat same
  · rw [Char.ofNat, dif_neg valid] at same
    exact absurd same.symm visible

/-- The letters that are `s` up to case are letters of words. -/
theorem isWordChar_of_foldCase {c : Char} (letter : foldCase c = 's') : isWordChar c = true := by
  -- A range of the table leads to one code point from one code point only, so each range is tried once.
  have table : foldRanges.all (fun entry =>
      let n := ((0x73 : Int) - entry.2.2.2).toNat
      !(entry.1 ≤ n && n ≤ entry.2.1 && (n - entry.1) % entry.2.2.1 == 0) || isWordChar (Char.ofNat n)) = true := by
    decide +kernel
  unfold foldCase at letter
  dsimp only at letter
  split at letter
  · rename_i lo hi step shift found
    have range := List.find?_some found
    have code := toNat_of_ofNat_eq letter (by decide)
    have same : ((0x73 : Int) - shift).toNat = c.toNat := by
      have atS : 's'.toNat = 0x73 := rfl
      omega
    have entry := List.all_eq_true.mp table _ (List.mem_of_find?_eq_some found)
    simp only [same, range, Bool.not_true, Bool.false_or, Char.ofNat_toNat] at entry
    exact entry
  · rw [letter]
    decide +kernel

namespace Search

theorem afterWord?_eq_some {word t rest : Text} (after : afterWord? word t = some rest) :
    ∃ w, t = w ++ rest ∧ w.map foldCase = word := by
  unfold afterWord? at after
  split at after
  · rename_i same
    cases after
    exact ⟨t.take word.length, (List.take_append_drop _ _).symm, same⟩
  · cases after

theorem afterWord?_append {word w : Text} (letters : w.map foldCase = word) (rest : Text) :
    afterWord? word (w ++ rest) = some rest := by
  have length : word.length = w.length := by rw [← letters, List.length_map]
  rw [afterWord?, length, List.take_left, List.drop_left, if_pos letters]

/-- The letters of the marker are not blank. -/
theorem isBlank_of_foldCase {c : Char} (letter : foldCase c ∈ ['s', 'o', 'r', 't', 'b']) : isBlank c = false := by
  have table : blanks.all (fun d => !(['s', 'o', 'r', 't', 'b'].contains (foldCase d))) = true := by decide +kernel
  refine Bool.eq_false_iff.mpr fun blank => ?_
  have other := List.all_eq_true.mp table c (mem_blanks_of_isBlank blank)
  rw [List.contains_iff_mem.mpr letter] at other
  cases other

theorem foldCase_mem {w : Text} (letters : w.map foldCase = "sort".toList) {c : Char} (member : c ∈ w) :
    foldCase c ∈ ['s', 'o', 'r', 't'] := by
  rw [show ['s', 'o', 'r', 't'] = w.map foldCase from letters.symm]
  exact List.mem_map_of_mem member

/-- A marker: the words `sort` and `by` in any case, blanks between them, and a colon, before which
blanks may stand. -/
def IsMarker (m : Text) : Prop :=
  ∃ sort blanks word more, m = sort ++ (blanks ++ (word ++ (more ++ [':']))) ∧
    sort.map foldCase = "sort".toList ∧ word.map foldCase = "by".toList ∧ blanks ≠ [] ∧
    ∀ c ∈ blanks ++ more, isBlank c = true

/-- The marker that is looked for is found wherever it stands, and nothing else is taken for it. -/
theorem afterMarker?_eq_some_iff {t clause : Text} :
    afterMarker? t = some clause ↔ ∃ m, t = m ++ clause ∧ IsMarker m := by
  constructor
  · intro marker
    unfold afterMarker? at marker
    split at marker
    · rename_i b rest after
      obtain ⟨sort, rfl, letters⟩ := afterWord?_eq_some after
      split at marker
      · rename_i blank
        split at marker
        · rename_i eq
          cases marker
          obtain ⟨v, by', colon⟩ := Option.map_eq_some_iff.mp eq
          obtain ⟨word, split, folded⟩ := afterWord?_eq_some by'
          obtain ⟨blanks, atRest, blankRest⟩ := Text.exists_trimStart rest
          obtain ⟨more, atV, blankMore⟩ := Text.exists_trimStart v
          refine ⟨_, ?_, sort, b :: blanks, word, more, rfl, letters, folded, List.cons_ne_nil _ _, ?_⟩
          · rw [atRest, split, atV, colon]
            simp
          · simpa [blank] using fun c => Or.rec (blankRest c) (blankMore c)
        · cases marker
      · cases marker
    · cases marker
  · rintro ⟨_, rfl, sort, blanks, word, more, rfl, letters, folded, nonempty, blank⟩
    obtain ⟨b, blanks, rfl⟩ := List.exists_cons_of_ne_nil nonempty
    obtain ⟨c, word, rfl⟩ := List.exists_cons_of_ne_nil (l := word) (by rintro rfl; cases folded)
    have visible : isBlank c = false := by
      have first : foldCase c = 'b' := (List.cons.inj folded).1
      exact isBlank_of_foldCase (by simp [first])
    have blankBefore : Text.IsBlank blanks := fun d member => blank d (by simp [member])
    have blankAfter : Text.IsBlank more := fun d member => blank d (by simp [member])
    have start (u : Text) : Text.trimStart (blanks ++ (c :: word ++ u)) = c :: word ++ u :=
      blankBefore.trimStart_append visible (word ++ u)
    have colon (u : Text) : Text.trimStart (more ++ ':' :: u) = ':' :: u :=
      blankAfter.trimStart_append (by decide) u
    have whole : sort ++ (b :: blanks ++ (c :: word ++ (more ++ [':']))) ++ clause =
        sort ++ b :: (blanks ++ (c :: word ++ (more ++ ':' :: clause))) := by simp
    rw [whole, afterMarker?, afterWord?_append letters]
    simp only [blank b (by simp), if_true, start, afterWord?_append folded, Option.map_some, colon]

/-- A marker starts with the word `sort`, a blank, and what goes on with `by`. -/
theorem IsMarker.exists_by {m : Text} (marker : IsMarker m) (clause : Text) :
    ∃ w b rest, m ++ clause = w ++ b :: rest ∧ w.map foldCase = "sort".toList ∧ isBlank b = true ∧
      ∃ c ∈ Text.firstVisible? rest, foldCase c = 'b' := by
  obtain ⟨sort, blanks, word, more, rfl, letters, folded, nonempty, blank⟩ := marker
  obtain ⟨b, blanks, rfl⟩ := List.exists_cons_of_ne_nil nonempty
  obtain ⟨c, word, rfl⟩ := List.exists_cons_of_ne_nil (l := word) (by rintro rfl; cases folded)
  have first : foldCase c = 'b' := (List.cons.inj folded).1
  refine ⟨sort, b, blanks ++ (c :: (word ++ (more ++ ':' :: clause))), by simp, letters, blank b (by simp), c, ?_, first⟩
  rw [Text.firstVisible?_append, Text.firstVisible?_of_blank fun d member => blank d (by simp [member]),
    Text.firstVisible?_cons (isBlank_of_foldCase (by simp [first]))]
  rfl

theorem IsMarker.head?_isWordChar {m : Text} (marker : IsMarker m) : m.head?.any isWordChar = true := by
  obtain ⟨sort, blanks, word, more, rfl, letters, _⟩ := marker
  obtain ⟨c, rest, rfl⟩ := List.exists_cons_of_ne_nil (l := sort) (by rintro rfl; cases letters)
  have first : foldCase c = 's' := (List.cons.inj letters).1
  simpa using isWordChar_of_foldCase first

/-- There are no quotes in a marker. -/
theorem IsMarker.not_mem {m : Text} (marker : IsMarker m) : '"' ∉ m := by
  obtain ⟨sort, blanks, word, more, rfl, letters, folded, _, blank⟩ := marker
  have free {w u : Text} (same : w.map foldCase = u) (other : foldCase '"' ∉ u) : '"' ∉ w := by
    intro member
    rw [← same] at other
    exact other (List.mem_map_of_mem member)
  have inSort : '"' ∉ sort := free letters (by decide +kernel)
  have inWord : '"' ∉ word := free folded (by decide +kernel)
  have inBlanks : '"' ∉ blanks ++ more := Text.IsBlank.not_mem blank
  rw [List.mem_append, not_or] at inBlanks
  simp [inSort, inWord, inBlanks]

/-- A marker stands in a text between two others, and not at the end of a longer word. -/
structure MarkedAt (t before m after : Text) : Prop where
  split : t = before ++ (m ++ after)
  marker : IsMarker m
  boundary : Text.WordBoundary before m

/-- A marker stands behind a text if it is what comes next and the text does not end with a word. -/
theorem exists_markedAt_iff {before rest after : Text} :
    (∃ m, MarkedAt (before ++ rest) before m after) ↔ before.endsWord = false ∧ afterMarker? rest = some after := by
  rw [afterMarker?_eq_some_iff]
  constructor
  · rintro ⟨m, split, marker, boundary⟩
    rw [Text.WordBoundary, marker.head?_isWordChar] at boundary
    exact ⟨Bool.eq_false_iff.mpr boundary, m, List.append_cancel_left split, marker⟩
  · rintro ⟨apart, m, rfl, marker⟩
    refine ⟨m, rfl, marker, ?_⟩
    rw [Text.WordBoundary, marker.head?_isWordChar, apart]
    exact Bool.false_ne_true

theorem ite_afterMarker?_eq_some_iff {before rest after : Text} :
    (if before.endsWord then none else afterMarker? rest) = some after ↔
      ∃ m, MarkedAt (before ++ rest) before m after := by
  rw [exists_markedAt_iff]
  cases before.endsWord <;> simp

/-- The marker that is written is one. -/
theorem exists_markedAt_sort (before clause : Text) (apart : before.endsWord = false) :
    ∃ m, MarkedAt (before ++ ("sort by: ".toList ++ clause)) before m (' ' :: clause) :=
  exists_markedAt_iff.mpr ⟨apart, rfl⟩

namespace MarkedAt

variable {t before m after : Text}

theorem starts (marked : MarkedAt t before m after) : before <+: t := marked.split ▸ List.prefix_append before _

theorem length_pos (marked : MarkedAt t before m after) : 0 < m.length := by
  refine List.length_pos_iff.mpr ?_
  rintro rfl
  cases marked.marker.head?_isWordChar

theorem length_eq (marked : MarkedAt t before m after) : t.length = before.length + m.length + after.length := by
  rw [marked.split]
  simp only [List.length_append, Nat.add_assoc]

theorem length_lt (marked : MarkedAt t before m after) : before.length < t.length := by
  have nonempty := marked.length_pos
  have size := marked.length_eq
  omega

end MarkedAt

end Search

end IssueQuery
