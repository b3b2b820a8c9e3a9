import SqlTemplate.Proofs.Binding.ReadBack

/-! Whole numbers that are not large. Whether one is given as an integer, as a double or in digits, the
numeric placeholders write it in the same way. -/
namespace SqlTemplate

/-- The integer itself, a double that equals it, or its decimal text. Both zeros equal zero. -/
inductive StandsFor (i : Int) : Value → Prop
  | int : StandsFor i (.int i)
  | double {d : Double} (equal : d.toInt? = some i) : StandsFor i (.double d)
  | text : StandsFor i (.str (Numeral.ofInt i))

section
variable {i : Int} {v : Value}

theorem short_of_lt_wholeBound (h : i.natAbs < wholeBound) : Short i := by
  have hlimit : 10 ^ 15 ≤ 10 ^ Numeral.digitLimit :=
    Nat.pow_le_pow_right (by decide) (by decide)
  exact exists_intText_ok_iff.mp ⟨_, intText_of_lt (Nat.lt_of_lt_of_le h hlimit)⟩

theorem intText_of_short (h : Short i) : intText i = .ok (Numeral.ofInt i) := by
  obtain ⟨text, hi⟩ := exists_intText_ok_iff.mpr h
  rw [hi, intText_eq_ok hi]

/-- As a double each of them equals the integer. -/
theorem StandsFor.exists_toDouble (h : StandsFor i v) (hexact : i.natAbs ≤ 2 ^ 53) :
    ∃ d, toDouble v = .ok d ∧ d.toInt? = some i := by
  cases h with
  | int =>
    obtain ⟨d, hd, hequal⟩ := Double.exists_ofInt?_toInt? hexact
    refine ⟨d, ?_, hequal⟩
    rw [toDouble, hd]
  | double equal => exact ⟨_, rfl, equal⟩
  | text =>
    have hequal := Double.toInt?_leadingDouble_ofInt hexact .nil
    rw [List.append_nil] at hequal
    exact ⟨_, rfl, hequal⟩

theorem StandsFor.formatValue_double (h : StandsFor i v) (hsmall : i.natAbs < wholeBound) :
    formatValue .double v = .ok (Numeral.ofInt i) := by
  obtain ⟨d, hd, hequal⟩ :=
    h.exists_toDouble (Nat.le_trans (Nat.le_of_lt hsmall) wholeBound_le)
  rw [formatValue, hd, Outcome.ok_bind, doubleText_of_toInt? hequal hsmall]

theorem StandsFor.formatValue_int (h : StandsFor i v) (hshort : Short i) :
    formatValue .int v = .ok (Numeral.ofInt i) := by
  cases h with
  | int => exact intText_of_short hshort
  | double equal => exact castDouble_bind_intText equal
  | text =>
    have hwritten := formatValue_int_ofInt_append hshort .nil
    rwa [List.append_nil] at hwritten

theorem StandsFor.formatValue_plain (h : StandsFor i v) (hsmall : i.natAbs < wholeBound)
    (hdigits : ∀ text, v ≠ .str text) : formatValue .plain v = .ok (Numeral.ofInt i) := by
  cases h with
  | int => exact intText_of_short (short_of_lt_wholeBound hsmall)
  | double equal => exact doubleText_of_toInt? equal hsmall
  | text => exact (hdigits _ rfl).elim

end

/-- An integer below `10 ^ 15`, a double that equals it and its decimal text are written as that text
by both numeric placeholders; so are the integer and the double by a plain one. The text is a sign, if
the integer is negative, and digits, so a zero with a sign loses it. -/
theorem formatValue_whole_number {i : Int} (h : i.natAbs < 10 ^ 15) :
    Numeral.IsInteger (Numeral.ofInt i) ∧ (∃ d, StandsFor i (.double d)) ∧
    ∀ v, StandsFor i v →
      formatValue .int v = .ok (Numeral.ofInt i) ∧
      formatValue .double v = .ok (Numeral.ofInt i) ∧
      ((∀ text, v ≠ .str text) → formatValue .plain v = .ok (Numeral.ofInt i)) := by
  have hsmall : i.natAbs < wholeBound := h
  have hshort := short_of_lt_wholeBound hsmall
  obtain ⟨d, -, hequal⟩ :=
    Double.exists_ofInt?_toInt? (Nat.le_trans (Nat.le_of_lt hsmall) wholeBound_le)
  exact ⟨Numeral.isInteger_ofInt i, ⟨d, .double hequal⟩, fun v hv =>
    ⟨hv.formatValue_int hshort, hv.formatValue_double hsmall, hv.formatValue_plain hsmall⟩⟩

/-- The zero with a sign, and the greatest of these integers by way of a double. -/
theorem formatValue_whole_number_edge :
    StandsFor 0 (.double (.finite true 0 Double.representable_zero)) ∧
      formatValue .double (.double (.finite true 0 Double.representable_zero)) = .ok ['0'] ∧
    (999999999999999 : Int).natAbs < 10 ^ 15 ∧
      StandsFor 999999999999999 (.double (.ofDecimal false 999999999999999 0)) ∧
      formatValue .plain (.double (.ofDecimal false 999999999999999 0)) =
        .ok "999999999999999".toList := by
  have hzero : StandsFor 0 (.double (.finite true 0 Double.representable_zero)) :=
    .double (by decide +kernel)
  have hgreatest : StandsFor 999999999999999 (.double (.ofDecimal false 999999999999999 0)) :=
    .double (by decide +kernel)
  have hbound : (999999999999999 : Int).natAbs < 10 ^ 15 := by decide
  have htext : Numeral.ofInt 999999999999999 = "999999999999999".toList := by decide
  obtain ⟨-, -, hsigned⟩ := @formatValue_whole_number 0 (by decide)
  obtain ⟨-, -, hedge⟩ := formatValue_whole_number hbound
  exact ⟨hzero, (hsigned _ hzero).2.1, hbound, hgreatest, htext ▸ (hedge _ hgreatest).2.2 nofun⟩

end SqlTemplate
