import SqlTemplate.Binding.Skip
import SqlTemplate.Proofs.Binding.Refusal

/-! An argument that needs a skip cannot be written, whatever the placeholder. What drops a block
and what formatting takes are decided apart from each other, and no value is both. -/
namespace SqlTemplate

namespace Value

theorem isSkip_iff {v : Value} : v.isSkip = true ↔ v = .skip := by
  cases v <;> simp [isSkip]

/-- The ways to need a skip: to be the mark, or to hold it as an item or as an entry's value. -/
theorem needsSkip_iff {v : Value} : v.needsSkip = true ↔ v = .skip ∨
    (∃ items, v.sequence? = some items ∧ .skip ∈ items) ∨
      ∃ entries, v.mapping? = some entries ∧ .skip ∈ entries.map (·.2) := by
  rw [needsSkip, Bool.or_eq_true, isSkip_iff]
  cases v <;> simp [mapping?, sequence?, isSkip_iff]

/-- An integer too long for its decimal text stands before the mark in a container: as an item, as
the key of an entry or as its value. Nothing before the integer is refused. -/
inductive LongBeforeSkip (v : Value) : Prop
  | item {before after : List Value} {i : Int}
      (items : v.sequence? = some (before ++ .int i :: after)) (mark : .skip ∈ after)
      (written : ∀ x ∈ before, ∃ text, scalarText x = .ok text)
      (long : 10 ^ Numeral.digitLimit ≤ i.natAbs)
  | key {before after : List (Value × Value)} {i : Int} {value : Value}
      (entries : v.mapping? = some (before ++ (.int i, value) :: after))
      (mark : .skip ∈ value :: after.map (·.2))
      (written : ∀ entry ∈ before, ∃ text, entryText entry = .ok text)
      (long : 10 ^ Numeral.digitLimit ≤ i.natAbs)
  | value {before after : List (Value × Value)} {key : Value} {i : Int}
      (entries : v.mapping? = some (before ++ (key, .int i) :: after))
      (mark : .skip ∈ after.map (·.2))
      (written : ∀ entry ∈ before, ∃ text, entryText entry = .ok text)
      (keyWritten : ∃ text, keyText key = .ok text)
      (long : 10 ^ Numeral.digitLimit ≤ i.natAbs)

theorem LongBeforeSkip.holdsLongInteger {v : Value} (h : v.LongBeforeSkip) :
    HoldsLongInteger v := by
  cases h with
  | item items _ written long => exact .item items written long
  | key entries _ written long => exact .key entries written long
  | value entries _ written keyWritten long => exact .value entries written keyWritten long

end Value

theorem entryText_skip (key : Value) : ¬ ∃ text, entryText (key, .skip) = .ok text := by
  rintro ⟨text, htext⟩
  cases hkey : keyText key with
  | error e => simp [entryText, hkey] at htext
  | ok name => simp [entryText, hkey, quoteScalar, scalarText] at htext

/-- The mark is refused, so what is written before a long integer does not hold it. -/
theorem HoldsLongInteger.longBeforeSkip {v : Value} (h : HoldsLongInteger v)
    (hskip : v.needsSkip = true) : v.LongBeforeSkip := by
  have hmapping {before : List (Value × Value)}
      (hwritten : ∀ entry ∈ before, ∃ text, entryText entry = .ok text) :
      .skip ∉ before.map (·.2) := by
    intro hmem
    obtain ⟨⟨key, value⟩, hentry, rfl⟩ := List.mem_map.mp hmem
    exact entryText_skip key (hwritten _ hentry)
  rcases Value.needsSkip_iff.mp hskip with rfl | ⟨items, hitems, hmem⟩ | ⟨entries, hentries, hmem⟩
  · have hcontainer := h.isContainer
    cases hcontainer
  · cases h with
    | @item before after i again written long =>
      cases hitems.symm.trans again
      refine .item again ?_ written long
      rcases List.mem_append.mp hmem with hbefore | hafter
      · obtain ⟨text, htext⟩ := written _ hbefore
        cases htext
      · simpa using hafter
    | key again => cases (Value.mapping?_of_sequence hitems).symm.trans again
    | value again => cases (Value.mapping?_of_sequence hitems).symm.trans again
  · cases h with
    | item again => cases (Value.mapping?_of_sequence again).symm.trans hentries
    | key again written long =>
      cases hentries.symm.trans again
      refine .key again ?_ written long
      rw [List.map_append] at hmem
      exact (List.mem_append.mp hmem).resolve_left (hmapping written)
    | value again written keyWritten long =>
      cases hentries.symm.trans again
      refine .value again ?_ written keyWritten long
      rw [List.map_append] at hmem
      have hafter := (List.mem_append.mp hmem).resolve_left (hmapping written)
      simpa using hafter

/-- A container that holds the mark is not written out. -/
theorem expand_of_needsSkip {quote : Text} {v : Value}
    (hcontainer : (v.isSequence || v.isMapping) = true) (h : v.needsSkip = true) :
    ¬ ∃ text, expand quote v = .ok text := by
  rintro ⟨text, htext⟩
  rcases Value.needsSkip_iff.mp h with rfl | ⟨items, hitems, hmem⟩ | ⟨entries, hentries, hmem⟩
  · cases hcontainer
  · rw [expand_of_sequence hitems] at htext
    obtain ⟨texts, htexts, -⟩ := Outcome.map_eq_ok_iff.mp htext
    obtain ⟨mark, hmark⟩ := Outcome.exists_mapM_ok_iff.mp ⟨texts, htexts⟩ _ hmem
    cases hmark
  · rw [expand_of_mapping hentries] at htext
    obtain ⟨texts, htexts, -⟩ := Outcome.map_eq_ok_iff.mp htext
    obtain ⟨⟨key, value⟩, hentry, rfl⟩ := List.mem_map.mp hmem
    exact entryText_skip key (Outcome.exists_mapM_ok_iff.mp ⟨texts, htexts⟩ _ hentry)

/-- A container is no scalar, with the mark in it or without. -/
theorem formatValue_of_container {s : Specifier} (hs : s ∉ [.array, .identifier]) {v : Value}
    (hcontainer : (v.isSequence || v.isMapping) = true) :
    formatValue s v = .error (reject v) := by
  cases v with
  | sequence | range | mapping =>
    cases s with
    | plain | int | double => rfl
    | array | identifier => simp at hs
  | null | bool | int | double | str | skip | bytes | set | foreign => cases hcontainer

theorem formatValue_ne_ok_of_needsSkip (s : Specifier) {v : Value} (h : v.needsSkip = true) :
    ¬ ∃ text, formatValue s v = .ok text := by
  by_cases hcontainer : (v.isSequence || v.isMapping) = true
  · cases s with
    | array =>
      rw [formatValue, if_pos hcontainer]
      exact expand_of_needsSkip hcontainer h
    | identifier =>
      rw [formatValue, if_pos hcontainer]
      exact expand_of_needsSkip hcontainer h
    | plain | int | double =>
      rw [formatValue_of_container (by decide) hcontainer]
      rintro ⟨text, ⟨⟩⟩
  · have hmark : v = .skip := by
      rcases Value.needsSkip_iff.mp h with hmark | ⟨items, hitems, -⟩ | ⟨entries, hentries, -⟩
      · exact hmark
      · exact (hcontainer (by simp [Value.isSequence, hitems])).elim
      · exact (hcontainer (by simp [Value.isMapping, hentries])).elim
    subst hmark
    rintro ⟨text, htext⟩
    cases s <;> cases htext

/-- An argument that needs a skip is refused as unsupported. Only a container whose text breaks off
at an integer that is too long, before the mark is reached, fails because of that integer. -/
theorem exists_error_of_needsSkip (s : Specifier) {v : Value} (h : v.needsSkip = true) :
    ∃ cause, formatValue s v = .error cause ∧
      ((cause.IsUnsupported ∧ ¬ (s ∈ [.array, .identifier] ∧ v.LongBeforeSkip)) ∨
        (cause = .integerTooLong ∧ s ∈ [.array, .identifier] ∧ v.LongBeforeSkip)) := by
  cases hformat : formatValue s v with
  | ok text => exact (formatValue_ne_ok_of_needsSkip s h ⟨text, hformat⟩).elim
  | error cause =>
    refine ⟨cause, rfl, ?_⟩
    rcases isUnsupported_or_overLimit hformat with hunsupported | hover
    · refine .inl ⟨hunsupported, ?_⟩
      rintro ⟨hcontainer, hlong⟩
      obtain ⟨hfails, hkind⟩ := (OverLimit.contained hcontainer hlong.holdsLongInteger).escapes
      cases hformat.symm.trans hfails
      exact hunsupported.kind_ne_none hkind
    · cases hover with
      | integer => cases h
      | numeral => cases h
      | magnitude => cases h
      | contained container holds => exact .inr ⟨rfl, container, holds.longBeforeSkip h⟩

end SqlTemplate
