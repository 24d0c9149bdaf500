import IssueQuery.Proofs.Marker
import IssueQuery.Proofs.Rendering

namespace IssueQuery.Search

/-- The markers that a search through a text meets from a place on. The next one is the first to start there or
later, and the search goes on where it ends. -/
inductive Walk (t : Text) : Nat → List Marker → Prop
  | done {place} : (∀ a m b, MarkedAt t a m b → a.length < place) → Walk t place []
  | next {place a m b ms} : MarkedAt t a m b → place ≤ a.length →
      (∀ a' m' b', MarkedAt t a' m' b' → place ≤ a'.length → a.length ≤ a'.length) →
      Walk t (a.length + m.length) ms → Walk t place (⟨a.length, a.length + m.length⟩ :: ms)

/-- A place where no marker starts can be passed over. -/
theorem Walk.pass {t : Text} {place : Nat} {ms : List Marker} (walk : Walk t (place + 1) ms)
    (unmarked : ∀ a m b, MarkedAt t a m b → a.length ≠ place) : Walk t place ms := by
  cases walk with
  | done none =>
    refine .done fun a m b marked => ?_
    have before := none a m b marked
    have other := unmarked a m b marked
    omega
  | next marked later first rest =>
    refine .next marked (Nat.le_of_succ_le later) (fun a m b marked' start => first a m b marked' ?_) rest
    have other := unmarked a m b marked'
    omega

/-- The markers of the rest of a text are those that a search through the whole text meets, from the end of the marker
that has started before the rest. -/
theorem walk_markersFrom {a t : Text} {inside : Nat} (room : inside ≤ t.length) :
    Walk (a ++ t) (a.length + inside) (markersFrom a.length inside a.endsWord t) := by
  induction t generalizing a inside with
  | nil =>
    cases Nat.le_zero.mp room
    refine .done fun b m after marked => ?_
    simpa using marked.length_lt
  | cons c t ih =>
    have whole : a ++ c :: t = (a ++ [c]) ++ t := by simp
    have word : (a ++ [c]).endsWord = isWordChar c := by simp [Text.endsWord]
    have length : (a ++ [c]).length = a.length + 1 := by simp
    have rest (inside : Nat) (room : inside ≤ t.length) :
        Walk (a ++ c :: t) (a.length + 1 + inside) (markersFrom (a.length + 1) inside (isWordChar c) t) := by
      rw [whole, ← length, ← word]
      exact ih room
    -- Characters of a marker that has started are passed over, whatever else they are; behind it, each place is tried.
    cases inside with
    | succ inside =>
      have next := rest inside (Nat.le_of_succ_le_succ room)
      rw [Nat.add_right_comm] at next
      exact next
    | zero =>
      rw [markersFrom]
      cases found : if a.endsWord then none else afterMarker? (c :: t) with
      | none =>
        refine (rest 0 (Nat.zero_le _)).pass fun b m after marked same => ?_
        obtain ⟨rfl, _⟩ := List.append_inj marked.split same.symm
        cases found.symm.trans (ite_afterMarker?_eq_some_iff.mpr ⟨m, marked⟩)
      | some after =>
        obtain ⟨m, marked⟩ := ite_afterMarker?_eq_some_iff.mp found
        have nonempty := marked.length_pos
        have size := marked.length_eq
        simp only [List.length_append, List.length_cons] at size
        have ends : t.length + 1 - after.length = m.length := by omega
        have next := rest (m.length - 1) (by omega)
        have stop : a.length + 1 + (m.length - 1) = a.length + m.length := by omega
        rw [stop] at next
        simp only [List.length_cons, ends]
        exact .next marked (Nat.le_refl _) (fun _ _ _ _ start => start) next

theorem walk_markers (t : Text) : Walk t 0 (markers t) := walk_markersFrom (a := []) (Nat.zero_le _)

/-- How a text is cut at its first marker that has an even number of quotes before it: into what stands before the
marker and what stands behind it. A text without such a marker is left whole. -/
inductive CutAtMarker (t : Text) : Text × Option Text → Prop
  | found {before m after} : MarkedAt t before m after → Even (before.count '"') →
      (∀ a m' b, MarkedAt t a m' b → Even (a.count '"') → before.length ≤ a.length) → CutAtMarker t (before, some after)
  | absent : (∀ a m b, MarkedAt t a m b → ¬ Even (a.count '"')) → CutAtMarker t (t, none)

/-- A marker within quotes hides none outside: whatever starts before its end is within quotes as well, since there
are no quotes in a marker. -/
theorem MarkedAt.stop_le {t a m b a' m' b' : Text} (marked : MarkedAt t a m b) (quoted : ¬ Even (a.count '"'))
    (marked' : MarkedAt t a' m' b') (even : Even (a'.count '"')) (later : a.length ≤ a'.length) :
    a.length + m.length ≤ a'.length := by
  by_contra short
  have stop : a ++ m <+: t := marked.split ▸ List.append_assoc a m b ▸ List.prefix_append (a ++ m) b
  have stopLength : (a ++ m).length = a.length + m.length := List.length_append
  obtain ⟨d, rfl⟩ := List.prefix_of_prefix_length_le marked.starts marked'.starts later
  have inside : d <+: m :=
    (List.prefix_append_right_inj a).mp (List.prefix_of_prefix_length_le marked'.starts stop (by omega))
  have free : '"' ∉ d := fun member => marked.marker.not_mem (inside.subset member)
  rw [List.count_append, List.count_eq_zero.mpr free, Nat.add_zero] at even
  exact quoted even

theorem cutAtMarker_cutAt {t : Text} {place : Nat} {ms : List Marker} (walk : Walk t place ms)
    (earlier : ∀ a m b, MarkedAt t a m b → Even (a.count '"') → place ≤ a.length) : CutAtMarker t (cutAt t ms) := by
  induction walk with
  | done none =>
    exact .absent fun a m b marked even => Nat.not_le_of_lt (none a m b marked) (earlier a m b marked even)
  | @next place a m b ms marked _ first _ ih =>
    have before : t.take a.length = a := by rw [marked.split, List.take_left]
    have behind : t.drop (a.length + m.length) = b := by
      rw [marked.split, ← List.append_assoc, ← List.length_append, List.drop_left]
    rw [cutAt]
    dsimp only
    rw [before, behind]
    split
    · rename_i even
      exact .found marked (Nat.even_iff.mpr even) fun a' m' b' marked' even' =>
        first a' m' b' marked' (earlier a' m' b' marked' even')
    · rename_i odd
      refine ih fun a' m' b' marked' even' => ?_
      have later := first a' m' b' marked' (earlier a' m' b' marked' even')
      exact marked.stop_le (fun even => odd (Nat.even_iff.mp even)) marked' even' later

/-- The first marker of all with an even number of quotes before it is among those that the search meets. -/
theorem cutAtMarker_split (t : Text) : CutAtMarker t (split t) :=
  cutAtMarker_cutAt (walk_markers t) fun _ _ _ _ _ => Nat.zero_le _

/-- A text with a marker outside quotes has a sort clause. -/
theorem MarkedAt.isSome_split {t a m b : Text} (marked : MarkedAt t a m b) (closed : a.IsClosed) :
    (Search.split t).2.isSome = true := by
  have cut := cutAtMarker_split t
  generalize Search.split t = parts at cut ⊢
  cases cut with
  | found => rfl
  | absent none => exact absurd (Text.isClosed_iff_even.mp closed) (none a m b marked)

/-- A text is cut in one way. -/
theorem CutAtMarker.unique {t : Text} {parts parts' : Text × Option Text} (cut : CutAtMarker t parts)
    (cut' : CutAtMarker t parts') : parts = parts' := by
  cases cut with
  | @found a m s marked even first =>
    cases cut' with
    | @found b m' s' marked' even' first' =>
      have same : a.length = b.length := Nat.le_antisymm (first b m' s' marked' even') (first' a m s marked even)
      obtain ⟨rfl, rest⟩ := List.append_inj (marked.split.symm.trans marked'.split) same
      have found : afterMarker? (m ++ s) = some s := afterMarker?_eq_some_iff.mpr ⟨m, rfl, marked.marker⟩
      have found' : afterMarker? (m ++ s) = some s' := afterMarker?_eq_some_iff.mpr ⟨m', rest, marked'.marker⟩
      rw [Option.some.inj (found.symm.trans found')]
    | absent none => exact absurd even (none a m s marked)
  | absent none =>
    cases cut' with
    | found marked even => exact absurd even (none _ _ _ marked)
    | absent => rfl

/-- A text that starts with a marker is a sort clause alone. -/
theorem split_sort (clause : Text) : split ("sort by: ".toList ++ clause) = ([], some (' ' :: clause)) := by
  obtain ⟨m, marked⟩ := exists_markedAt_sort [] clause rfl
  exact (cutAtMarker_split _).unique (.found marked ⟨0, rfl⟩ fun _ _ _ _ _ => Nat.zero_le _)

/-- A text is cut at its first marker outside quotes, and nowhere else. -/
theorem split_eq_iff {t : Text} {parts : Text × Option Text} : split t = parts ↔ CutAtMarker t parts := by
  constructor
  · rintro rfl
    exact cutAtMarker_split t
  · exact (cutAtMarker_split t).unique

/-- A marker within quotes is passed over. -/
example : split "a: \"sort by: x\" SORT  BY : -b".toList = ("a: \"sort by: x\" ".toList, some " -b".toList) := by
  decide +kernel

end IssueQuery.Search
