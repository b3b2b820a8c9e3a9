import Mathlib.Tactic.SplitIfs
import SqlTemplate.File.Path
import SqlTemplate.Proofs.Text.Separated

/-! The characters of a path as it is written out again, and those that the system does not take. -/
namespace SqlTemplate

/-- A path is written with the characters that it was read from, slashes and points apart. -/
theorem Path.mem_text_ofText {name : Text} {c : Char} (h : c ∈ (ofText name).text) :
    c = '/' ∨ c = '.' ∨ c ∈ name := by
  have hbody (hc : c ∈ Text.join ['/'] (ofText name).parts) : c = '/' ∨ c ∈ name := by
    refine (Text.mem_join hc).imp List.mem_singleton.mp ?_
    rintro ⟨part, hpart, hc⟩
    have hsplit : c ∈ Text.join ['/'] (name.splitOn '/') :=
      Text.mem_join_of_mem (List.mem_filter.mp hpart).1 hc
    rwa [Text.join, List.intercalate_splitOn] at hsplit
  rw [text] at h
  split_ifs at h
  · rcases List.mem_cons.mp h with rfl | h
    · exact .inl rfl
    · exact (hbody h).imp_right .inr
  · exact .inr (.inl (List.mem_singleton.mp h))
  · exact (hbody h).imp_right .inr

/-- A path without null characters and stray halves is taken. -/
theorem Path.exists_fault_iff {path : Path} : (∃ message, path.fault? = some message) ↔
    (∃ c ∈ path.text, Text.isStrayHalf c = true) ∨ '\x00' ∈ path.text := by
  rw [fault?, ← List.any_eq_true]
  split_ifs with hstray hnull
  · simp [hstray]
  · simp [hnull]
  · simp [hstray, hnull]

end SqlTemplate
