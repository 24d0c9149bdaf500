import IssueQuery.Filter.Reading

namespace IssueQuery.Filter

/-- The parts of a text that is cut at its separators, each at the first place that is left. -/
inductive Segments : Text → List Text → Prop
  | last {t} : ¬ pathSeparator <:+: t → Segments t [t]
  | next {s t path} : ¬ pathSeparator <:+: s ++ ['_'] → Segments t path →
      Segments (s ++ (pathSeparator ++ t)) (s :: path)

/-- A mark that does not start a text and is not in the rest of it is not in the text. -/
theorem not_infix_cons {mark : Text} {c : Char} {t : Text} (other : ¬ mark <+: c :: t) (free : ¬ mark <:+: t) :
    ¬ mark <:+: c :: t := by
  rw [List.infix_cons_iff, not_or]
  exact ⟨other, free⟩

/-- A character in front belongs to the first part, unless it starts a separator. -/
theorem Segments.cons {c : Char} {t : Text} {path : List Text} (segments : Segments t path)
    (other : ¬ pathSeparator <+: c :: t) : Segments (c :: t) (Text.consHead c path) := by
  cases segments with
  | last free => exact .last (not_infix_cons other free)
  | @next s t path free rest =>
    refine .next (s := c :: s) (not_infix_cons (fun start => other ?_) free) rest
    have whole : c :: (s ++ (pathSeparator ++ t)) = c :: (s ++ ['_']) ++ '_' :: t := by simp [pathSeparator]
    rw [whole]
    exact start.trans (List.prefix_append _ _)

theorem segments_splitPath (t : Text) : Segments t (splitPath t) := by
  fun_induction splitPath t with
  | case1 t ih => exact .next (s := []) (by decide) ih
  | case2 c t other ih =>
    refine ih.cons ?_
    rintro ⟨u, same⟩
    obtain ⟨rfl, rest⟩ := List.cons.inj same
    exact other u rfl rest.symm
  | case3 => exact .last (by decide)

theorem splitPath_cons {c : Char} {t : Text} (other : ¬ pathSeparator <+: c :: t) :
    splitPath (c :: t) = Text.consHead c (splitPath t) := by
  rw [splitPath]
  rintro u rfl rfl
  exact other ⟨u, rfl⟩

theorem splitPath_of_free {t : Text} (free : ¬ pathSeparator <:+: t) : splitPath t = [t] := by
  induction t with
  | nil => rfl
  | cons c t ih =>
    rw [List.infix_cons_iff, not_or] at free
    rw [splitPath_cons free.1, ih free.2]
    rfl

theorem splitPath_append {s : Text} (free : ¬ pathSeparator <:+: s ++ ['_']) (t : Text) :
    splitPath (s ++ (pathSeparator ++ t)) = s :: splitPath t := by
  induction s with
  | nil => rfl
  | cons c s ih =>
    rw [List.cons_append, List.infix_cons_iff, not_or] at free
    have other : ¬ pathSeparator <+: c :: (s ++ (pathSeparator ++ t)) := by
      intro start
      refine free.1 (List.prefix_of_prefix_length_le start ⟨'_' :: t, by simp [pathSeparator]⟩ ?_)
      simp [pathSeparator]
    rw [List.cons_append, splitPath_cons other, ih free.2]
    rfl

theorem splitPath_eq_iff {t : Text} {path : List Text} : splitPath t = path ↔ Segments t path := by
  constructor
  · rintro rfl
    exact segments_splitPath t
  · intro segments
    induction segments with
    | last free => exact splitPath_of_free free
    | next free _ ih => rw [splitPath_append free, ih]

theorem Segments.ne_nil {t : Text} {path : List Text} (segments : Segments t path) : path ≠ [] := by
  cases segments <;> exact List.cons_ne_nil _ _

theorem pathText_singleton (name : Text) : pathText [name] = name := by
  rw [pathText, Text.join, List.intercalate_singleton]

theorem pathText_cons {rest : List Text} (nonempty : rest ≠ []) (name : Text) :
    pathText (name :: rest) = name ++ (pathSeparator ++ pathText rest) := by
  rw [pathText, Text.join, List.intercalate_cons_of_ne_nil nonempty, List.append_assoc]
  rfl

/-- Only a path of one segment is written as its first segment. -/
theorem eq_nil_of_pathText_eq {name : Text} {rest : List Text} (same : pathText (name :: rest) = name) : rest = [] := by
  cases rest with
  | nil => rfl
  | cons second rest =>
    have length := congrArg List.length same
    rw [pathText_cons (List.cons_ne_nil _ _)] at length
    simp only [List.length_append, pathSeparator, List.length_cons, List.length_nil] at length
    omega

/-- A path that is cut from a text is written as that text. -/
theorem Segments.pathText {t : Text} {path : List Text} (segments : Segments t path) : pathText path = t := by
  induction segments with
  | last => exact pathText_singleton _
  | next _ rest ih => rw [pathText_cons rest.ne_nil, ih]

/-- The parts of a text before and after the last operator mark in it. -/
structure LastMark (t before after : Text) : Prop where
  eq : t = before ++ (operatorMark ++ after)
  last : ∀ b a, t = b ++ (operatorMark ++ a) → b.length ≤ before.length

theorem afterMark?_eq_some_iff {t u : Text} : afterMark? t = some u ↔ t = operatorMark ++ u := by
  constructor
  · intro after
    unfold afterMark? at after
    split at after
    · rw [Option.some.inj after]
      rfl
    · cases after
  · rintro rfl
    rfl

theorem afterMark?_eq_none_iff {t : Text} : afterMark? t = none ↔ ¬ operatorMark <+: t := by
  constructor
  · rintro none ⟨u, rfl⟩
    cases none
  · intro other
    cases found : afterMark? t with
    | none => rfl
    | some u => exact absurd ⟨u, (afterMark?_eq_some_iff.mp found).symm⟩ other

theorem splitOperator?_eq_none_iff {t : Text} : splitOperator? t = none ↔ ¬ operatorMark <:+: t := by
  induction t with
  | nil => simp [splitOperator?, operatorMark]
  | cons c t ih =>
    rw [splitOperator?, List.infix_cons_iff, not_or, ← ih, ← afterMark?_eq_none_iff]
    cases splitOperator? t <;> simp

theorem lastMark_of_splitOperator? {t before after : Text} (cut : splitOperator? t = some (before, after)) :
    LastMark t before after := by
  induction t generalizing before with
  | nil => cases cut
  | cons c t ih =>
    rw [splitOperator?] at cut
    split at cut
    · rename_i path name rest
      cases cut
      obtain ⟨eq, last⟩ := ih rest
      refine ⟨by rw [eq]; rfl, fun b a same => ?_⟩
      cases b with
      | nil => exact Nat.zero_le _
      | cons d b => exact Nat.succ_le_succ (last b a (List.cons.inj same).2)
    · rename_i free
      obtain ⟨name, here, pair⟩ := Option.map_eq_some_iff.mp cut
      cases pair
      refine ⟨afterMark?_eq_some_iff.mp here, fun b a same => ?_⟩
      cases b with
      | nil => exact Nat.le_refl _
      | cons d b =>
        refine absurd ⟨b, a, ?_⟩ (splitOperator?_eq_none_iff.mp free)
        rw [(List.cons.inj same).2, List.append_assoc]
        rfl

theorem splitOperator?_eq_some_iff {t before after : Text} :
    splitOperator? t = some (before, after) ↔ LastMark t before after := by
  refine ⟨lastMark_of_splitOperator?, fun mark => ?_⟩
  cases cut : splitOperator? t with
  | none =>
    refine absurd ⟨before, after, ?_⟩ (splitOperator?_eq_none_iff.mp cut)
    rw [mark.eq, List.append_assoc]
  | some parts =>
    obtain ⟨b, a⟩ := parts
    have found := lastMark_of_splitOperator? cut
    have length := Nat.le_antisymm (mark.last b a found.eq) (found.last before after mark.eq)
    obtain ⟨rfl, rest⟩ := List.append_inj (found.eq.symm.trans mark.eq) length
    rw [List.append_cancel_left rest]

example : splitOperator? "a____lt".toList = some ("a_".toList, "lt".toList) := rfl

/-- A mark is the last one if no underscore comes after it. -/
theorem lastMark_append {after : Text} (free : '_' ∉ after) (before : Text) :
    LastMark (before ++ (operatorMark ++ after)) before after := by
  refine ⟨rfl, fun b a same => ?_⟩
  have shifted : (before ++ operatorMark) ++ after = (b ++ ['_', '_']) ++ '_' :: a := by
    rw [List.append_assoc, same, List.append_assoc]
    rfl
  rcases List.append_eq_append_iff.mp shifted with ⟨x, _, atEnd⟩ | ⟨x, atFront, atRest⟩
  · exact absurd (by simp [atEnd]) free
  · have length := congrArg List.length atFront
    have nonempty : x ≠ [] := by
      rintro rfl
      obtain rfl : '_' :: a = after := atRest
      exact free List.mem_cons_self
    have positive := List.length_pos_iff.mpr nonempty
    simp only [List.length_append, operatorMark, List.length_cons, List.length_nil] at length
    omega

end IssueQuery.Filter
