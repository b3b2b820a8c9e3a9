import SqlTemplate.Text.Newline

/-! Line endings. However they are written, they are read as line feeds, and of these one at most is
taken from the end of a text. -/
namespace SqlTemplate.Text

theorem return_not_mem_normalizeNewlines (text : Text) : '\r' ∉ normalizeNewlines text := by
  fun_induction normalizeNewlines text with
  | case1 => exact List.not_mem_nil
  | case2 rest ih => simp [ih]
  | case3 rest _ ih => simp [ih]
  | case4 c rest _ hreturn ih =>
    rw [List.mem_cons, not_or]
    exact ⟨fun heq => hreturn heq.symm, ih⟩

theorem normalizeNewlines_cons {c : Char} (hc : c ≠ '\r') (rest : Text) :
    normalizeNewlines (c :: rest) = c :: normalizeNewlines rest := by
  rw [normalizeNewlines]
  · rintro _ rfl
    exact fun _ => hc rfl
  · exact hc

/-- A text without carriage returns has no other line endings. -/
theorem normalizeNewlines_of_not_mem {text : Text} (h : '\r' ∉ text) :
    normalizeNewlines text = text := by
  induction text with
  | nil => rfl
  | cons c text ih =>
    rw [List.mem_cons, not_or] at h
    rw [normalizeNewlines_cons (Ne.symm h.1), ih h.2]

/-- A carriage return that no line feed follows is a line ending. -/
theorem normalizeNewlines_return {rest : Text} (h : rest.head? ≠ some '\n') :
    normalizeNewlines ('\r' :: rest) = '\n' :: normalizeNewlines rest := by
  rw [normalizeNewlines]
  rintro more rfl
  exact h rfl

/-- The text with its line feeds written as the given line ending. -/
def withLineEnds (ending text : Text) : Text :=
  text.flatMap fun c => if c = '\n' then ending else [c]

section
variable {ending text : Text}

theorem withLineEnds_newline (ending text : Text) :
    withLineEnds ending ('\n' :: text) = ending ++ withLineEnds ending text := rfl

theorem withLineEnds_cons {c : Char} (hc : c ≠ '\n') (ending text : Text) :
    withLineEnds ending (c :: text) = c :: withLineEnds ending text := by
  rw [withLineEnds, List.flatMap_cons, if_neg hc]
  rfl

theorem newline_not_mem_withLineEnds (h : '\n' ∉ ending) (text : Text) :
    '\n' ∉ withLineEnds ending text := by
  intro hmem
  obtain ⟨c, -, hc⟩ := List.mem_flatMap.mp hmem
  by_cases hnewline : c = '\n'
  · rw [if_pos hnewline] at hc
    exact h hc
  · rw [if_neg hnewline, List.mem_singleton] at hc
    exact hnewline hc.symm

/-- Line endings are read back whichever of the three they are written as. -/
theorem normalizeNewlines_withLineEnds (hending : ending ∈ [['\n'], ['\r', '\n'], ['\r']])
    (h : '\r' ∉ text) : normalizeNewlines (withLineEnds ending text) = text := by
  have hnewline (rest : Text) : normalizeNewlines (ending ++ withLineEnds ending rest) =
      '\n' :: normalizeNewlines (withLineEnds ending rest) := by
    simp only [List.mem_cons, List.not_mem_nil, or_false] at hending
    rcases hending with rfl | rfl | rfl
    · rfl
    · rfl
    · -- What follows a lone return has no line feeds at all.
      refine normalizeNewlines_return fun hhead => ?_
      exact newline_not_mem_withLineEnds (by decide) rest (List.mem_of_mem_head? hhead)
  induction text with
  | nil => rfl
  | cons c text ih =>
    rw [List.mem_cons, not_or] at h
    by_cases hc : c = '\n'
    · rw [hc, withLineEnds_newline, hnewline, ih h.2]
    · rw [withLineEnds_cons hc, normalizeNewlines_cons (Ne.symm h.1), ih h.2]

theorem dropFinalNewline_append_newline (h : '\r' ∉ text) :
    dropFinalNewline (text ++ ['\n']) = text := by
  rw [dropFinalNewline, List.reverse_append, List.reverse_singleton, List.singleton_append]
  split
  · next rest heq =>
    have hmem : '\r' ∈ text.reverse := (List.cons.inj heq).2 ▸ List.mem_cons_self
    exact (h (List.mem_reverse.mp hmem)).elim
  · next rest _ heq => rw [← (List.cons.inj heq).2, List.reverse_reverse]
  · next hother => exact (hother text.reverse rfl).elim

theorem dropFinalNewline_of_getLast? (h : text.getLast? ≠ some '\n') :
    dropFinalNewline text = text := by
  rw [← List.head?_reverse] at h
  rw [dropFinalNewline]
  split
  · next heq => exact (h (congrArg List.head? heq)).elim
  · next heq => exact (h (congrArg List.head? heq)).elim
  · rfl

/-- One line feed is dropped if the text ends with one, and nothing otherwise. -/
theorem eq_dropFinalNewline (h : '\r' ∉ text) :
    if text.getLast? = some '\n' then text = dropFinalNewline text ++ ['\n']
    else text = dropFinalNewline text := by
  split
  · next hlast =>
    obtain ⟨front, rfl⟩ := List.getLast?_eq_some_iff.mp hlast
    have hfront : '\r' ∉ front := fun hmem => h (List.mem_append_left _ hmem)
    rw [dropFinalNewline_append_newline hfront]
  · next hlast => exact (dropFinalNewline_of_getLast? hlast).symm

end

end SqlTemplate.Text
