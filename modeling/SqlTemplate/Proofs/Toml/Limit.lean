import Mathlib.Tactic.SplitIfs
import SqlTemplate.Proofs.Outcome
import SqlTemplate.Toml.Reader

/-! An integer for which a TOML document is refused has more digits than the limit. -/
namespace SqlTemplate.Toml

theorem orInvalid_ne_integerTooLong {α : Type} (x : Option α) (digits : Nat) :
    orInvalid x ≠ .error (.integerTooLong digits) := by
  cases x <;> exact nofun

/-- After a step that is invalid or succeeds, an integer that is too long is met later. -/
theorem exists_of_orInvalid_bind {α β : Type} {x : Option α} {next : α → Except Error β}
    {digits : Nat} (h : (orInvalid x >>= next) = .error (.integerTooLong digits)) :
    ∃ a, next a = .error (.integerTooLong digits) := by
  rcases Outcome.bind_eq_error_iff.mp h with hfirst | ⟨a, -, hnext⟩
  · cases orInvalid_ne_integerTooLong x digits hfirst
  · exact ⟨a, hnext⟩

section
variable {digits : Nat} {text : Text}

theorem digitLimit_lt_of_number (h : number text = .error (.integerTooLong digits)) :
    Numeral.digitLimit < digits := by
  rw [number.eq_def] at h
  split at h
  · cases h
  · split_ifs at h with hinteger hlimit
    cases h
    exact Nat.not_le.mp hlimit
  · split at h <;> cases h

theorem digitLimit_lt_of_scalar (h : scalar text = .error (.integerTooLong digits)) :
    Numeral.digitLimit < digits := by
  rw [scalar.eq_def] at h
  split at h
  · cases h
  · cases hcalendar : calendar? text with
    | none =>
      rw [hcalendar] at h
      exact digitLimit_lt_of_number h
    | some r =>
      rw [hcalendar] at h
      obtain rfl : r = .error (.integerTooLong digits) := h
      rw [calendar?.eq_def] at hcalendar
      split at hcalendar
      · have hvalue := Option.some.inj hcalendar
        split at hvalue <;> cases hvalue
      · obtain ⟨_, -, hvalue⟩ := Option.map_eq_some_iff.mp hcalendar
        cases hvalue

/-- Values, the items of an array and the entries of an inline table, by induction on the fuel. -/
theorem digitLimit_lt_of_fuel (fuel : Nat) :
    (∀ text digits, value fuel text = .error (.integerTooLong digits) →
        Numeral.digitLimit < digits) ∧
      (∀ text digits, items fuel text = .error (.integerTooLong digits) →
        Numeral.digitLimit < digits) ∧
      ∀ entries text digits, inline fuel entries text = .error (.integerTooLong digits) →
        Numeral.digitLimit < digits := by
  induction fuel with
  | zero => exact ⟨nofun, nofun, nofun⟩
  | succ fuel ih =>
    obtain ⟨hvalue, hitems, hinline⟩ := ih
    refine ⟨fun text digits h => ?_, fun text digits h => ?_, fun entries text digits h => ?_⟩
    · rw [value.eq_def] at h
      dsimp only at h
      split at h
      · obtain ⟨filled, h⟩ := exists_of_orInvalid_bind h
        rcases Outcome.bind_eq_error_iff.mp h with h | ⟨_, -, ⟨⟩⟩
        exact hitems _ _ h
      · split at h
        · cases h
        · rcases Outcome.bind_eq_error_iff.mp h with h | ⟨_, -, ⟨⟩⟩
          exact hinline _ _ _ h
      · split_ifs at h
        · obtain ⟨_, ⟨⟩⟩ := exists_of_orInvalid_bind h
        · exact digitLimit_lt_of_scalar h
      · cases h
    · rw [items.eq_def] at h
      dsimp only at h
      split at h
      · cases h
      · rcases Outcome.bind_eq_error_iff.mp h with h | ⟨_, -, h⟩
        · exact hvalue _ _ h
        obtain ⟨filled, h⟩ := exists_of_orInvalid_bind h
        split at h
        · cases h
        · obtain ⟨filled, h⟩ := exists_of_orInvalid_bind h
          rcases Outcome.bind_eq_error_iff.mp h with h | ⟨_, -, ⟨⟩⟩
          exact hitems _ _ h
        · cases h
    · rw [inline.eq_def] at h
      dsimp only at h
      obtain ⟨start, h⟩ := exists_of_orInvalid_bind h
      rcases Outcome.bind_eq_error_iff.mp h with h | ⟨_, -, h⟩
      · exact hvalue _ _ h
      obtain ⟨entries, h⟩ := exists_of_orInvalid_bind h
      split at h
      · cases h
      · exact hinline _ _ _ h
      · cases h

theorem header_ne_integerTooLong {change : List Text → Document → Option Document} {closing : Text}
    {d : Document} : header change closing d text ≠ .error (.integerTooLong digits) := by
  intro h
  obtain ⟨path, h⟩ := exists_of_orInvalid_bind h
  obtain ⟨changed, h⟩ := exists_of_orInvalid_bind h
  split_ifs at h <;> cases h

theorem digitLimit_lt_of_statement {d : Document}
    (h : statement d text = .error (.integerTooLong digits)) : Numeral.digitLimit < digits := by
  rw [statement.eq_def] at h
  split at h
  · cases header_ne_integerTooLong h
  · cases header_ne_integerTooLong h
  · split_ifs at h
    obtain ⟨start, h⟩ := exists_of_orInvalid_bind h
    rcases Outcome.bind_eq_error_iff.mp h with h | ⟨_, -, h⟩
    · exact (digitLimit_lt_of_fuel _).1 _ _ h
    · obtain ⟨_, ⟨⟩⟩ := exists_of_orInvalid_bind h
  · cases h

theorem digitLimit_lt_of_lines {fuel : Nat} {d : Document}
    (h : lines fuel d text = .error (.integerTooLong digits)) : Numeral.digitLimit < digits := by
  induction fuel generalizing d text with
  | zero => cases h
  | succ fuel ih =>
    rcases Outcome.bind_eq_error_iff.mp h with h | ⟨_, -, h⟩
    · exact digitLimit_lt_of_statement h
    obtain ⟨after, h⟩ := exists_of_orInvalid_bind h
    split at h
    · cases h
    · exact ih h
    · cases h

/-- A document is refused for an integer only if that has more digits than the limit. -/
theorem digitLimit_lt_of_read (h : read text = .error (.integerTooLong digits)) :
    Numeral.digitLimit < digits := by
  rcases Outcome.bind_eq_error_iff.mp h with h | ⟨_, -, ⟨⟩⟩
  exact digitLimit_lt_of_lines h

end

end SqlTemplate.Toml
