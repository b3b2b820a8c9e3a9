import SqlTemplate.Value.Basic

/-! Which arguments drop the conditional block around their placeholder. -/
namespace SqlTemplate.Value

/-- The skip mark itself, or a container with the mark as an item or as the value of an entry. -/
def needsSkip (v : Value) : Bool :=
  v.isSkip ||
    match v.mapping?, v.sequence? with
    | some entries, _ => entries.any (·.2.isSkip)
    | none, some items => items.any isSkip
    | none, none => false

@[simp] theorem needsSkip_skip : needsSkip .skip = true := rfl
@[simp] theorem needsSkip_str (t : Text) : needsSkip (.str t) = false := rfl

/-- Only one level of a container counts. -/
example : needsSkip (.list [.null, .skip]) = true ∧ needsSkip (.list [.list [.skip]]) = false :=
  ⟨rfl, rfl⟩

end SqlTemplate.Value
