import SqlTemplate.Proofs.Outcome
import SqlTemplate.Value.Calendar

/-! The shape of values that words and files give: a container among them is a list or a mapping. -/
namespace SqlTemplate

/-- A value in which the token is looked for: a list, a mapping, or no container at all. -/
inductive Resolvable : Value → Prop
  | list (items : List Value) : Resolvable (.list items)
  | dict (entries : List (Value × Value)) : Resolvable (.dict entries)
  | other {v : Value} (sequence : v.sequence? = none) (mapping : v.mapping? = none) : Resolvable v

/-- A value in which the token is looked for, and if it is a list in each of its items. -/
inductive Shallow : Value → Prop
  | list {items : List Value} (each : ∀ v ∈ items, Resolvable v) : Shallow (.list items)
  | dict (entries : List (Value × Value)) : Shallow (.dict entries)
  | other {v : Value} (sequence : v.sequence? = none) (mapping : v.mapping? = none) : Shallow v

theorem Shallow.resolvable {v : Value} (h : Shallow v) : Resolvable v := by
  cases h with
  | list each => exact .list _
  | dict entries => exact .dict entries
  | other sequence mapping => exact .other sequence mapping

theorem Shallow.items {vs : List Value} (h : Shallow (.list vs)) : ∀ v ∈ vs, Resolvable v := by
  cases h with
  | list each => exact each
  | other sequence => cases sequence

theorem Shallow.str (text : Text) : Shallow (.str text) := .other rfl rfl

/-! Dates and times are no containers. -/

theorem shallow_moment {d : Calendar.Date} {time : Option (Calendar.Time × Option Int)} {v : Value}
    (h : Calendar.value d time = .ok v) : Shallow v := by
  rw [Calendar.value.eq_def] at h
  split at h
  · split at h
    · cases h
    · cases h
      exact .other rfl rfl
  · next t offset =>
    split at h
    · cases h
    · cases h
      cases offset <;> exact .other rfl rfl

end SqlTemplate
