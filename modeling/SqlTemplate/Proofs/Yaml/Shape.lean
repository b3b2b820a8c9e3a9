import Mathlib.Tactic.SplitIfs
import SqlTemplate.Arguments.File
import SqlTemplate.Proofs.Value.Shape

/-! The shape of the items of a YAML document. Those of a document of pairs are tuples. -/
namespace SqlTemplate

namespace Yaml

/-- The two parts of an entry in a document of pairs. -/
def IsPair (v : Value) : Prop := ∃ first second, v = .sequence .tuple [first, second]

/-- A reader whose lists hold lists, mappings and values that are no containers. Only as an entry of
a document of pairs is an item a tuple. -/
def Constructs (readYaml : YamlReader) : Prop :=
  ∀ text vs, readYaml text = .ok (.list vs) → ∀ v ∈ vs, Resolvable v ∨ IsPair v

section
variable {depth : Nat} {v : Value}

theorem exists_double_of_doubleValue {text : Text} (h : doubleValue text = .ok v) :
    ∃ d, v = .double d := by
  rw [doubleValue] at h
  split at h
  · cases h
  split at h
  · exact ⟨_, (Except.ok.inj h).symm⟩
  split at h
  · exact ⟨_, (Except.ok.inj h).symm⟩
  split at h
  · obtain ⟨parts, -, rfl⟩ := Outcome.map_eq_ok_iff.mp h
    exact ⟨_, rfl⟩
  · obtain ⟨d, -, rfl⟩ := Outcome.map_eq_ok_iff.mp h
    exact ⟨_, rfl⟩

theorem shallow_scalarValue {kind : Kind} {text : Text} (h : scalarValue depth kind text = .ok v) :
    Shallow v := by
  rw [scalarValue.eq_def] at h
  dsimp only at h
  split at h
  · next w hconverted =>
    cases h
    split at hconverted
    · cases hconverted
      exact .other rfl rfl
    · rw [booleanValue] at hconverted
      split_ifs at hconverted <;> cases hconverted <;> exact .other rfl rfl
    · obtain ⟨i, -, rfl⟩ := Outcome.map_eq_ok_iff.mp hconverted
      exact .other rfl rfl
    · obtain ⟨d, rfl⟩ := exists_double_of_doubleValue hconverted
      exact .other rfl rfl
    · rw [momentValue] at hconverted
      split at hconverted
      · cases hconverted
      · split at hconverted
        · next w hmoment =>
          cases hconverted
          exact shallow_moment hmoment
        · cases hconverted
    · cases hconverted
      exact .str text
    · cases hconverted
  · cases h

theorem shallow_misfit {kind : Kind} {text : Option Text} (h : misfit depth kind text = .ok v) :
    Shallow v := by
  rw [misfit.eq_def] at h
  split_ifs at h
  · cases h
  · split at h
    · exact shallow_scalarValue h
    · cases h

/-- What is gathered came out of one of the parts. -/
theorem mem_gather {α : Type} {outcomes : List (Outcome α)} {all : List α}
    (h : gather outcomes = .ok all) {a : α} (ha : a ∈ all) : .ok a ∈ outcomes := by
  induction outcomes generalizing all with
  | nil =>
    cases h
    cases ha
  | cons first rest ih =>
    cases first with
    | ok b =>
      obtain ⟨more, hmore, rfl⟩ := Outcome.map_eq_ok_iff.mp h
      rcases List.mem_cons.mp ha with rfl | hmem
      · exact List.mem_cons_self
      · exact List.mem_cons_of_mem _ (ih hmore hmem)
    | error e =>
      rw [gather] at h
      split at h
      · split_ifs at h
      · cases h

theorem resolvable_valueOf {node : Node} (h : valueOf depth node = .ok v) : Resolvable v := by
  rw [valueOf.eq_def] at h
  split at h
  · exact (shallow_scalarValue h).resolvable
  · obtain ⟨items, -, rfl⟩ := Outcome.map_eq_ok_iff.mp h
    exact .list items
  · obtain ⟨items, -, rfl⟩ := Outcome.map_eq_ok_iff.mp h
    exact .list items
  · exact (shallow_misfit h).resolvable
  · obtain ⟨pairs, -, rfl⟩ := Outcome.map_eq_ok_iff.mp h
    exact .dict _
  · obtain ⟨pairs, -, rfl⟩ := Outcome.map_eq_ok_iff.mp h
    exact .other rfl rfl
  · exact (shallow_misfit h).resolvable

theorem exists_valueOf_of_mem {nodes : List Node} (h : .ok v ∈ valuesOf depth nodes) :
    ∃ node, valueOf depth node = .ok v := by
  induction nodes with
  | nil => cases h
  | cons node rest ih =>
    rw [valuesOf] at h
    rcases List.mem_cons.mp h with heq | hmem
    · exact ⟨node, heq.symm⟩
    · exact ih hmem

theorem isPair_of_mem {nodes : List Node} (h : .ok v ∈ tuplesOf depth nodes) : IsPair v := by
  induction nodes with
  | nil => cases h
  | cons node rest ih =>
    rw [tuplesOf.eq_def] at h
    split at h
    · cases h
    · next heq =>
      cases heq
      rcases List.mem_cons.mp h with hfirst | hmem
      · obtain ⟨⟨first, second⟩, -, rfl⟩ := Outcome.map_eq_ok_iff.mp hfirst.symm
        exact ⟨first, second, rfl⟩
      · exact ih hmem
    · next heq =>
      cases heq
      rcases List.mem_cons.mp h with hfirst | hmem
      · cases hfirst
      · exact ih hmem

theorem constructs_read : Constructs read := by
  intro text vs h v hv
  have hshallow (hlist : Shallow (.list vs)) : Resolvable v ∨ IsPair v := .inl (hlist.items v hv)
  rw [read] at h
  split at h
  · cases h
  · cases h
  · next root hroot =>
    split at h
    · next w hvalue =>
      cases h
      rw [valueOf.eq_def] at hvalue
      split at hvalue
      · exact hshallow (shallow_scalarValue hvalue)
      · obtain ⟨items, hitems, ⟨⟩⟩ := Outcome.map_eq_ok_iff.mp hvalue
        obtain ⟨node, hnode⟩ := exists_valueOf_of_mem (mem_gather hitems hv)
        exact .inl (resolvable_valueOf hnode)
      · obtain ⟨items, hitems, ⟨⟩⟩ := Outcome.map_eq_ok_iff.mp hvalue
        exact .inr (isPair_of_mem (mem_gather hitems hv))
      · exact hshallow (shallow_misfit hvalue)
      · obtain ⟨pairs, -, ⟨⟩⟩ := Outcome.map_eq_ok_iff.mp hvalue
      · obtain ⟨pairs, -, ⟨⟩⟩ := Outcome.map_eq_ok_iff.mp hvalue
      · exact hshallow (shallow_misfit hvalue)
    · cases h

end

end Yaml

end SqlTemplate
