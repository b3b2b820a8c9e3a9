import Mathlib.Tactic.SplitIfs
import SqlTemplate.Json.Reader
import SqlTemplate.Proofs.Value.Shape

/-! The shape of what is read as JSON. -/
namespace SqlTemplate

namespace Json

theorem shallow_atom {c after : Cursor} {v : Value} (h : atom c = .ok (v, after)) : Shallow v := by
  rw [atom] at h
  split at h
  · next name w hfound =>
    cases h
    have hall : ∀ entry ∈ names, entry.2.sequence? = none ∧ entry.2.mapping? = none := by
      simp [names, Value.sequence?, Value.mapping?]
    obtain ⟨hsequence, hmapping⟩ := hall _ (List.mem_of_find?_eq_some hfound)
    exact .other hsequence hmapping
  · rw [number] at h
    split at h
    · cases h
    · dsimp only at h
      split_ifs at h <;> cases h <;> exact .other rfl rfl

theorem shallow_value_items (fuel : Nat) :
    (∀ c v after, value fuel c = .ok (v, after) → Shallow v) ∧
      ∀ c vs after, items fuel c = .ok (vs, after) → ∀ v ∈ vs, Resolvable v := by
  induction fuel with
  | zero => exact ⟨nofun, nofun⟩
  | succ fuel ih =>
    obtain ⟨hvalue, hitems⟩ := ih
    refine ⟨fun c v after h => ?_, fun c vs after h => ?_⟩
    · rw [value] at h
      split at h
      · obtain ⟨⟨text, _⟩, -, ⟨⟩⟩ := Outcome.bind_eq_ok_iff.mp h
        exact .str text
      · dsimp only at h
        split at h
        · cases h
          exact .list nofun
        · obtain ⟨⟨items, _⟩, hread, ⟨⟩⟩ := Outcome.bind_eq_ok_iff.mp h
          exact .list (hitems _ _ _ hread)
      · dsimp only at h
        split at h
        · cases h
          exact .dict []
        · obtain ⟨⟨pairs, _⟩, -, ⟨⟩⟩ := Outcome.bind_eq_ok_iff.mp h
          exact .dict _
      · exact shallow_atom h
    · rw [items] at h
      obtain ⟨⟨item, next⟩, hread, hrest⟩ := Outcome.bind_eq_ok_iff.mp h
      have hfirst := (hvalue _ _ _ hread).resolvable
      dsimp only at hrest
      split at hrest
      · cases hrest
        exact List.forall_mem_singleton.mpr hfirst
      · obtain ⟨⟨more, _⟩, hmore, ⟨⟩⟩ := Outcome.bind_eq_ok_iff.mp hrest
        exact List.forall_mem_cons.mpr ⟨hfirst, hitems _ _ _ hmore⟩
      · cases hrest

theorem shallow_read {text : Text} {v : Value} (h : read text = .ok v) : Shallow v := by
  rw [read.eq_def] at h
  split at h
  · cases h
  · obtain ⟨⟨w, after⟩, hvalue, hlast⟩ := Outcome.bind_eq_ok_iff.mp h
    dsimp only at hlast
    split_ifs at hlast
    · cases hlast
      exact (shallow_value_items _).1 _ _ _ hvalue
    · cases hlast

end Json

end SqlTemplate
