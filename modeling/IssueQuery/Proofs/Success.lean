import Mathlib.Data.List.Forall2

namespace IssueQuery

variable {ε α β γ : Type}

theorem ok_bind (a : α) (f : α → Except ε β) : (Except.ok a >>= f) = f a := rfl

/-- A sequence of two steps succeeds if both do. -/
theorem bind_eq_ok_iff {x : Except ε α} {f : α → Except ε β} {b : β} :
    x >>= f = .ok b ↔ ∃ a, x = .ok a ∧ f a = .ok b := by
  cases x with
  | error e => simp [bind, Except.bind]
  | ok a => simp [bind, Except.bind]

/-- A sequence of two steps fails if the first one does, or else the second one. -/
theorem bind_eq_error_iff {x : Except ε α} {f : α → Except ε β} {e : ε} :
    x >>= f = .error e ↔ x = .error e ∨ ∃ a, x = .ok a ∧ f a = .error e := by
  cases x with
  | error e' => simp [bind, Except.bind]
  | ok a => simp [bind, Except.bind]

theorem map_eq_ok_iff {x : Except ε α} {f : α → β} {b : β} :
    x.map f = .ok b ↔ ∃ a, x = .ok a ∧ f a = b := by
  cases x with
  | error e => simp [Except.map]
  | ok a => simp [Except.map]

theorem map_eq_error_iff {x : Except ε α} {f : α → β} {e : ε} : x.map f = .error e ↔ x = .error e := by
  cases x with
  | error e' => simp [Except.map]
  | ok a => simp [Except.map]

theorem both_eq_ok_iff {x : Except ε α} {y : Except ε β} {f : α → β → γ} {c : γ} :
    (do return f (← x) (← y)) = .ok c ↔ ∃ a b, x = .ok a ∧ y = .ok b ∧ f a b = c := by
  cases x with
  | error e => simp [bind, Except.bind]
  | ok a => cases y <;> simp [bind, Except.bind, pure, Except.pure]

/-- Two pairs of steps with the same views are combined to results with the same view, if combining
respects views. -/
theorem both_map_congr {α' β' γ' δ : Type} {x : Except ε α} {x' : Except ε α'} {y : Except ε β}
    {y' : Except ε β'} {f : α → β → γ} {f' : α' → β' → γ'} {u : α → δ} {u' : α' → δ} {v : β → δ} {v' : β' → δ}
    {w : γ → δ} {w' : γ' → δ} (first : x.map u = x'.map u') (second : y.map v = y'.map v')
    (combine : ∀ a b a' b', u a = u' a' → v b = v' b' → w (f a b) = w' (f' a' b')) :
    (do return f (← x) (← y)).map w = (do return f' (← x') (← y')).map w' := by
  cases x with
  | error e =>
    cases x' with
    | error e' => simpa [Except.map, bind, Except.bind] using first
    | ok a' => cases first
  | ok a =>
    cases x' with
    | error e' => cases first
    | ok a' =>
      cases y with
      | error e =>
        cases y' with
        | error e' => simpa [Except.map, bind, Except.bind] using second
        | ok b' => cases second
      | ok b =>
        cases y' with
        | error e' => cases second
        | ok b' => exact congrArg Except.ok (combine a b a' b' (Except.ok.inj first) (Except.ok.inj second))

theorem toOption_eq_some_iff {x : Except ε α} {a : α} : x.toOption = some a ↔ x = .ok a := by
  cases x <;> simp [Except.toOption]

theorem exists_forall₂ {r : α → β → Prop} {xs : List α} (related : ∀ x ∈ xs, ∃ y, r x y) :
    ∃ ys, List.Forall₂ r xs ys := by
  induction xs with
  | nil => exact ⟨[], .nil⟩
  | cons x xs ih =>
    obtain ⟨y, first⟩ := related x List.mem_cons_self
    obtain ⟨ys, rest⟩ := ih fun z member => related z (List.mem_cons_of_mem x member)
    exact ⟨y :: ys, .cons first rest⟩

/-- A list of steps succeeds if every step does. -/
theorem mapM_eq_ok_iff {step : α → Except ε β} {xs : List α} {ys : List β} :
    xs.mapM step = .ok ys ↔ List.Forall₂ (fun x y => step x = .ok y) xs ys := by
  induction xs generalizing ys with
  | nil => cases ys <;> simp [pure, Except.pure]
  | cons x xs ih =>
    rw [List.mapM_cons, both_eq_ok_iff, List.forall₂_cons_left_iff]
    constructor
    · rintro ⟨y, rest, first, more, rfl⟩
      exact ⟨y, rest, first, ih.mp more, rfl⟩
    · rintro ⟨y, rest, first, more, rfl⟩
      exact ⟨y, rest, first, ih.mpr more, rfl⟩

/-- The first step that fails fails with `e`. -/
def FirstFails (step : α → Except ε β) (xs : List α) (e : ε) : Prop :=
  ∃ before x after, xs = before ++ x :: after ∧ (∀ b ∈ before, ∃ y, step b = .ok y) ∧ step x = .error e

theorem firstFails_cons_iff {step : α → Except ε β} {x : α} {xs : List α} {e : ε} :
    FirstFails step (x :: xs) e ↔ step x = .error e ∨ ∃ y, step x = .ok y ∧ FirstFails step xs e := by
  constructor
  · rintro ⟨before, x', after, split, done, failed⟩
    rcases List.cons_eq_append_iff.mp split with ⟨rfl, eq⟩ | ⟨before, rfl, rfl⟩
    · cases eq
      exact Or.inl failed
    · obtain ⟨here, rest⟩ := List.forall_mem_cons.mp done
      obtain ⟨y, here⟩ := here
      exact Or.inr ⟨y, here, before, x', after, rfl, rest, failed⟩
  · rintro (failed | ⟨y, here, before, x', after, rfl, done, failed⟩)
    · exact ⟨[], x, xs, rfl, nofun, failed⟩
    · exact ⟨x :: before, x', after, rfl, List.forall_mem_cons.mpr ⟨⟨y, here⟩, done⟩, failed⟩

/-- A list of steps fails as the first step that does. -/
theorem mapM_eq_error_iff {step : α → Except ε β} {xs : List α} {e : ε} :
    xs.mapM step = .error e ↔ FirstFails step xs e := by
  induction xs with
  | nil => simp [FirstFails, pure, Except.pure]
  | cons x xs ih =>
    rw [List.mapM_cons, bind_eq_error_iff, firstFails_cons_iff, ← ih]
    simp only [bind_eq_error_iff, pure, Except.pure, reduceCtorEq, and_false, exists_false, or_false]

/-- Some step is the first to fail if any step fails. -/
theorem exists_firstFails_iff {step : α → Except ε β} {xs : List α} :
    (∃ e, FirstFails step xs e) ↔ ∃ x ∈ xs, ∃ e, step x = .error e := by
  constructor
  · rintro ⟨e, before, x, after, rfl, _, failed⟩
    exact ⟨x, by simp, e, failed⟩
  · rintro ⟨x, member, e, failed⟩
    induction xs with
    | nil => cases member
    | cons x' xs ih =>
      simp only [firstFails_cons_iff]
      cases here : step x' with
      | error e' => exact ⟨e', Or.inl rfl⟩
      | ok y =>
        rcases List.mem_cons.mp member with rfl | member
        · rw [here] at failed
          cases failed
        · obtain ⟨e', rest⟩ := ih member
          exact ⟨e', Or.inr ⟨y, rfl, rest⟩⟩

theorem mapM_congr_forall₂ {step : α → Except ε γ} {step' : β → Except ε γ} {xs : List α} {ys : List β}
    (same : List.Forall₂ (fun x y => step' y = step x) xs ys) : ys.mapM step' = xs.mapM step := by
  induction same with
  | nil => rfl
  | cons first _ ih => rw [List.mapM_cons, List.mapM_cons, first, ih]

/-- Once the first halves of all steps have succeeded, the second halves decide. -/
theorem mapM_bind_of_ok {first : α → Except ε β} {xs : List α} {ys : List β} (done : xs.mapM first = .ok ys)
    (second : β → Except ε γ) : xs.mapM (fun x => first x >>= second) = ys.mapM second := by
  induction mapM_eq_ok_iff.mp done with
  | nil => rfl
  | cons atHead rest ih =>
    rw [List.mapM_cons, List.mapM_cons, atHead, ih (mapM_eq_ok_iff.mpr rest)]
    rfl

/-- What relates two lists in two steps has a list in between. -/
theorem forall₂_exists_iff {first : α → β → Prop} {second : β → γ → Prop} {xs : List α} {zs : List γ} :
    List.Forall₂ (fun x z => ∃ y, first x y ∧ second y z) xs zs ↔
      ∃ ys, List.Forall₂ first xs ys ∧ List.Forall₂ second ys zs := by
  constructor
  · intro related
    induction related with
    | nil => exact ⟨[], .nil, .nil⟩
    | cons atHead _ ih =>
      obtain ⟨y, before, after⟩ := atHead
      obtain ⟨ys, allBefore, allAfter⟩ := ih
      exact ⟨y :: ys, .cons before allBefore, .cons after allAfter⟩
  · rintro ⟨ys, allBefore, allAfter⟩
    induction allBefore generalizing zs with
    | nil =>
      cases allAfter
      exact .nil
    | cons before _ ih =>
      cases allAfter with
      | cons after allAfter => exact .cons ⟨_, before, after⟩ (ih allAfter)

/-- Steps that succeed have first halves that succeed. -/
theorem exists_of_mapM_bind {first : α → Except ε β} {second : β → Except ε γ} {xs : List α} {zs : List γ}
    (done : xs.mapM (fun x => first x >>= second) = .ok zs) :
    ∃ ys, xs.mapM first = .ok ys ∧ ys.mapM second = .ok zs := by
  obtain ⟨ys, before, after⟩ :=
    forall₂_exists_iff.mp ((mapM_eq_ok_iff.mp done).imp fun _ _ => bind_eq_ok_iff.mp)
  exact ⟨ys, mapM_eq_ok_iff.mpr before, mapM_eq_ok_iff.mpr after⟩

theorem exists_of_mem_forall₂ {r : α → β → Prop} {xs : List α} {ys : List β} (related : List.Forall₂ r xs ys)
    {y : β} (member : y ∈ ys) : ∃ x ∈ xs, r x y := by
  induction related with
  | nil => cases member
  | @cons x _ _ _ first _ ih =>
    rcases List.mem_cons.mp member with rfl | member
    · exact ⟨x, List.mem_cons_self, first⟩
    · obtain ⟨x', inRest, step⟩ := ih member
      exact ⟨x', List.mem_cons_of_mem x inRest, step⟩

theorem exists_getElem?_of_forall₂ {r : α → β → Prop} {xs : List α} {ys : List β} (related : List.Forall₂ r xs ys)
    {i : Nat} {x : α} (place : xs[i]? = some x) : ∃ y, ys[i]? = some y ∧ r x y := by
  induction related generalizing i with
  | nil => simp at place
  | @cons _ y _ _ first _ ih =>
    cases i with
    | zero =>
      cases place
      exact ⟨y, rfl, first⟩
    | succ i => exact ih place

end IssueQuery
