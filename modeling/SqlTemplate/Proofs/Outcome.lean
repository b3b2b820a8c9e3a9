import Mathlib.Control.Monad.Basic

/-! Outcomes that are mapped or that go on with a next step, taken apart. -/
namespace SqlTemplate.Outcome

variable {ε α β : Type} {f : α → β} {x : Except ε α}

theorem map_eq_ok_iff {b : β} : f <$> x = .ok b ↔ ∃ a, x = .ok a ∧ f a = b := by
  cases x <;> simp

theorem map_eq_error_iff {e : ε} : f <$> x = .error e ↔ x = .error e := by
  cases x <;> simp

theorem ne_error_of_map {e : ε} (h : f <$> x ≠ .error e) : x ≠ .error e :=
  fun herror => h (map_eq_error_iff.mpr herror)

@[simp] theorem ok_bind (a : α) (next : α → Except ε β) : (.ok a >>= next) = next a := rfl

@[simp] theorem error_bind (e : ε) (next : α → Except ε β) : (.error e >>= next) = .error e := rfl

theorem bind_eq_ok_iff {next : α → Except ε β} {b : β} :
    (x >>= next) = .ok b ↔ ∃ a, x = .ok a ∧ next a = .ok b := by
  cases x <;> simp

theorem bind_eq_error_iff {next : α → Except ε β} {e : ε} :
    (x >>= next) = .error e ↔ x = .error e ∨ ∃ a, x = .ok a ∧ next a = .error e := by
  cases x <;> simp

/-- What is done to the first part is done after the second part is left out. -/
theorem fst_map {γ : Type} (f : α → β) (x : Except ε (α × γ)) :
    (·.1) <$> (fun r => (f r.1, r.2)) <$> x = f <$> (·.1) <$> x := by
  cases x <;> rfl

theorem toOption_eq_some_iff {a : α} : x.toOption = some a ↔ x = .ok a := by
  cases x <;> simp [Except.toOption]

/-- A row of steps fails with the first one that fails. -/
theorem mapM_eq_error_iff {step : α → Except ε β} {xs : List α} {e : ε} :
    xs.mapM step = .error e ↔ ∃ before x after, xs = before ++ x :: after ∧
      (∀ y ∈ before, ∃ b, step y = .ok b) ∧ step x = .error e := by
  induction xs with
  | nil => simp [pure, Except.pure]
  | cons y ys ih =>
    rw [List.mapM_cons, bind_eq_error_iff]
    constructor
    · rintro (hfirst | ⟨b, hb, hrest⟩)
      · exact ⟨[], y, ys, rfl, nofun, hfirst⟩
      · rw [bind_pure_comp, map_eq_error_iff, ih] at hrest
        obtain ⟨before, x, after, rfl, hbefore, hx⟩ := hrest
        exact ⟨y :: before, x, after, rfl, List.forall_mem_cons.mpr ⟨⟨b, hb⟩, hbefore⟩, hx⟩
    · rintro ⟨before, x, after, hsplit, hbefore, hx⟩
      cases before with
      | nil =>
        cases hsplit
        exact .inl hx
      | cons z before =>
        cases hsplit
        obtain ⟨⟨b, hb⟩, hbefore⟩ := List.forall_mem_cons.mp hbefore
        refine .inr ⟨b, hb, ?_⟩
        rw [bind_pure_comp, map_eq_error_iff, ih]
        exact ⟨before, x, after, rfl, hbefore, hx⟩

/-- A row of steps succeeds if and only if each of them does. -/
theorem exists_mapM_ok_iff {step : α → Except ε β} {xs : List α} :
    (∃ ys, xs.mapM step = .ok ys) ↔ ∀ x ∈ xs, ∃ y, step x = .ok y := by
  induction xs with
  | nil => simp [pure, Except.pure]
  | cons x xs ih =>
    rw [List.mapM_cons, List.forall_mem_cons, ← ih]
    cases hx : step x with
    | error e => simp
    | ok y => cases xs.mapM step <;> simp

/-- What a row of steps gives is what each of them gives, in the same order. -/
theorem mapM_eq_ok_iff {step : α → Except ε β} {xs : List α} {ys : List β} :
    xs.mapM step = .ok ys ↔ xs.map step = ys.map .ok := by
  induction xs generalizing ys with
  | nil => simp [pure, Except.pure, eq_comm]
  | cons x xs ih =>
    rw [List.mapM_cons, bind_eq_ok_iff]
    constructor
    · rintro ⟨y, hy, hrest⟩
      rw [bind_pure_comp, map_eq_ok_iff] at hrest
      obtain ⟨more, hmore, rfl⟩ := hrest
      rw [List.map_cons, List.map_cons, hy, ih.mp hmore]
    · intro heach
      cases ys with
      | nil => cases heach
      | cons y ys =>
        obtain ⟨hy, hrest⟩ := List.cons.inj heach
        refine ⟨y, hy, ?_⟩
        rw [ih.mpr hrest]
        rfl

theorem exists_of_mem_mapM {step : α → Except ε β} {xs : List α} {ys : List β}
    (h : xs.mapM step = .ok ys) {y : β} (hy : y ∈ ys) : ∃ x ∈ xs, step x = .ok y := by
  have hmem : Except.ok y ∈ xs.map step := by
    rw [mapM_eq_ok_iff.mp h]
    exact List.mem_map_of_mem hy
  exact List.mem_map.mp hmem

end SqlTemplate.Outcome
