import SqlTemplate.Proofs.Binding.Limit

/-! What formatting refuses. Whatever is not written is unsupported or over the limit of a
conversion. -/
namespace SqlTemplate

/-- The error of an argument that is not supported, or of a kind that belongs to these errors. -/
def FormatError.IsUnsupported (e : FormatError) : Prop :=
  ∃ kind, e.kind? = some kind ∧ .unsupportedArgument ∈ kind.lineage

/-- An outcome whose error, if it is one, is of an unsupported argument or outside the family. -/
def Refuses {α : Type} (x : Except FormatError α) : Prop :=
  ∀ e, x = .error e → e.kind? = none ∨ e.kind? = some .unsupportedArgument

section
variable {α β : Type} {x : Except FormatError α}

theorem refuses_ok (a : α) : Refuses (.ok a) := by
  rintro e ⟨⟩

theorem refuses_error {e : FormatError}
    (h : e.kind? = none ∨ e.kind? = some .unsupportedArgument) :
    Refuses (.error e : Except FormatError α) := by
  rintro _ ⟨⟩
  exact h

theorem Refuses.map (h : Refuses x) (f : α → β) : Refuses (f <$> x) :=
  fun e he => h e (Outcome.map_eq_error_iff.mp he)

theorem Refuses.bind {next : α → Except FormatError β} (h : Refuses x)
    (hnext : ∀ a, Refuses (next a)) : Refuses (x >>= next) := by
  intro e he
  rcases Outcome.bind_eq_error_iff.mp he with hx | ⟨a, -, ha⟩
  · exact h e hx
  · exact hnext a e ha

theorem Refuses.mapM {step : α → Except FormatError β} (h : ∀ a, Refuses (step a))
    (xs : List α) : Refuses (xs.mapM step) := by
  intro e he
  obtain ⟨_, a, _, -, -, ha⟩ := Outcome.mapM_eq_error_iff.mp he
  exact h a e ha

end

namespace FormatError

theorem isUnsupported_of_kind {e : FormatError} (h : e.kind? = some .unsupportedArgument) :
    e.IsUnsupported := ⟨_, h, by decide⟩

theorem isUnsupported_notContainer (name : String) : (notContainer name).IsUnsupported :=
  ⟨_, rfl, by decide⟩

theorem IsUnsupported.kind_ne_none {e : FormatError} (h : e.IsUnsupported) : e.kind? ≠ none := by
  obtain ⟨kind, hkind, -⟩ := h
  rw [hkind]
  nofun

end FormatError

open FormatError

theorem refuses_intText (i : Int) : Refuses (intText i) := by
  rw [intText]
  split
  · exact refuses_ok _
  · exact refuses_error (.inl rfl)

theorem refuses_doubleText (d : Double) : Refuses (doubleText d) := by
  rw [doubleText]
  split
  · split <;> exact refuses_ok _
  · exact refuses_error (.inr rfl)

theorem refuses_castDouble (d : Double) : Refuses (castDouble d) := by
  rw [castDouble]
  split
  · exact refuses_ok _
  · exact refuses_error (.inr rfl)

theorem refuses_scalarText (v : Value) : Refuses (scalarText v) := by
  match v with
  | .null | .bool _ | .str _ => exact refuses_ok _
  | .int i => exact refuses_intText i
  | .double d => exact refuses_doubleText d
  | .sequence .. | .range .. | .mapping .. | .skip | .bytes .. | .set _ | .foreign .. =>
    exact refuses_error (.inr (kind_reject _))

/-- Quotes make no difference to whether a scalar is refused. -/
theorem quoteScalar_eq_error_iff {quote : Text} {v : Value} {e : FormatError} :
    quoteScalar quote v = .error e ↔ scalarText v = .error e := by
  cases v <;> simp [quoteScalar, scalarText]

theorem refuses_quoteScalar (quote : Text) (v : Value) : Refuses (quoteScalar quote v) :=
  fun e he => refuses_scalarText v e (quoteScalar_eq_error_iff.mp he)

theorem refuses_keyText (v : Value) : Refuses (keyText v) := by
  match v with
  | .str _ => exact refuses_ok _
  | .int i => exact refuses_intText i
  | .null | .bool _ | .double _ | .sequence .. | .range .. | .mapping .. | .skip | .bytes ..
  | .set _ | .foreign .. => exact refuses_error (.inr rfl)

theorem refuses_entryText (entry : Value × Value) : Refuses (entryText entry) :=
  (refuses_keyText entry.1).bind fun _ =>
    (refuses_quoteScalar dataQuote entry.2).bind fun _ => refuses_ok _

theorem refuses_expand (quote : Text) (v : Value) : Refuses (expand quote v) := by
  rw [expand]
  split
  · exact (Refuses.mapM refuses_entryText _).map _
  · exact (Refuses.mapM (refuses_quoteScalar quote) _).map _
  · exact refuses_error (.inl rfl)

theorem refuses_toDouble (v : Value) : Refuses (toDouble v) := by
  match v with
  | .null | .bool _ | .str _ | .double _ => exact refuses_ok _
  | .int i =>
    rw [toDouble]
    split
    · exact refuses_ok _
    · exact refuses_error (.inl rfl)
  | .sequence .. | .range .. | .mapping .. | .skip | .bytes .. | .set _ | .foreign .. =>
    exact refuses_error (.inr (kind_reject _))

theorem refuses_toInt (v : Value) : Refuses (toInt v) := by
  match v with
  | .bool _ | .int _ => exact refuses_ok _
  | .str text =>
    rw [toInt]
    split
    · split
      · exact refuses_ok _
      · exact refuses_error (.inl rfl)
    · exact refuses_castDouble _
  | .null | .double _ | .sequence .. | .range .. | .mapping .. | .skip | .bytes .. | .set _
  | .foreign .. => exact (refuses_toDouble _).bind refuses_castDouble

/-- Only an array placeholder has an error of its own, for what is no container. -/
theorem refuses_formatValue (s : Specifier) (v : Value)
    (h : s = .array → (v.isSequence || v.isMapping) = true) : Refuses (formatValue s v) := by
  cases s with
  | plain => exact refuses_quoteScalar dataQuote v
  | int =>
    by_cases hnull : v = .null
    · subst hnull
      exact refuses_ok _
    · rw [formatValue_int hnull]
      exact (refuses_toInt v).bind refuses_intText
  | double => exact (refuses_toDouble v).bind refuses_doubleText
  | array =>
    rw [formatValue, if_pos (h rfl)]
    exact refuses_expand dataQuote v
  | identifier =>
    rw [formatValue]
    split
    · exact refuses_expand identifierQuote v
    · exact (refuses_scalarText v).map _

/-- A placeholder that does not write its argument refuses it as unsupported, or as no container, or
the argument is over a limit. -/
theorem refused_cases {s : Specifier} {v : Value} {cause : FormatError}
    (h : formatValue s v = .error cause) :
    (s = .array ∧ (v.isSequence || v.isMapping) = false ∧ cause = .notContainer v.typeName) ∨
      cause.kind? = some .unsupportedArgument ∨ OverLimit s v cause := by
  by_cases hcontainer : s = .array → (v.isSequence || v.isMapping) = true
  · rcases refuses_formatValue s v hcontainer cause h with hkind | hkind
    · exact .inr (.inr (escapes_formatValue.mp ⟨h, hkind⟩))
    · exact .inr (.inl hkind)
  · obtain ⟨rfl, hnone⟩ := Classical.not_imp.mp hcontainer
    rw [formatValue, if_neg hnone] at h
    cases h
    exact .inl ⟨rfl, eq_false_of_ne_true hnone, rfl⟩

theorem isUnsupported_or_overLimit {s : Specifier} {v : Value} {cause : FormatError}
    (h : formatValue s v = .error cause) : cause.IsUnsupported ∨ OverLimit s v cause := by
  rcases refused_cases h with ⟨-, -, rfl⟩ | hkind | hover
  · exact .inl (isUnsupported_notContainer _)
  · exact .inl (isUnsupported_of_kind hkind)
  · exact .inr hover

end SqlTemplate
