import SqlTemplate.Proofs.Binding.Limit
import SqlTemplate.Proofs.Double.Integer
import SqlTemplate.Proofs.Double.Text

/-! What the numeric placeholders write. It is a number or `NULL`, whatever the argument holds, so
no part of a text gets into a query through them. -/
namespace SqlTemplate

section
variable {v : Value} {text : Text}

theorem intText_eq_ok {i : Int} (h : intText i = .ok text) : text = Numeral.ofInt i := by
  rw [intText] at h
  cases hi : Numeral.ofInt? i with
  | none =>
    rw [hi] at h
    cases h
  | some written =>
    rw [hi] at h
    cases h
    exact Numeral.ofInt?_eq_some hi

theorem isInteger_of_formatValue (hv : v ≠ .null) (h : formatValue .int v = .ok text) :
    Numeral.IsInteger text := by
  rw [formatValue_int hv] at h
  cases hi : toInt v with
  | error e =>
    rw [hi] at h
    cases h
  | ok i =>
    rw [hi, Outcome.ok_bind] at h
    rw [intText_eq_ok h]
    exact Numeral.isInteger_ofInt i

theorem doubleText_of_toInt? {d : Double} {i : Int} (h : d.toInt? = some i)
    (hsmall : i.natAbs < wholeBound) : doubleText d = .ok (Numeral.ofInt i) := by
  rw [doubleText, if_pos (Double.isFinite_of_toInt? h), h]
  exact congrArg Except.ok (if_pos hsmall)

/-- Both zeros are written as the integer is, without a sign. -/
theorem doubleText_zero (negative : Bool) (h : Double.Representable 0) :
    doubleText (.finite negative 0 h) = .ok ['0'] := by
  have hwhole : (Double.finite negative 0 h).toInt? = some 0 := by
    cases negative <;> simp [Double.toInt?, Double.truncate?]
  exact doubleText_of_toInt? hwhole (by decide)

/-- A double is written as the integer that it equals, if that is small, and in its own text
otherwise. -/
theorem eq_ofInt_or_eq_text {d : Double} (h : doubleText d = .ok text) :
    (∃ i, i.natAbs < wholeBound ∧ text = Numeral.ofInt i) ∨
      (d.isFinite = true ∧ text = d.text) := by
  rw [doubleText] at h
  split_ifs at h with hfinite
  cases hwhole : d.toInt? with
  | none =>
    rw [hwhole] at h
    cases h
    exact .inr ⟨hfinite, rfl⟩
  | some i =>
    simp only [hwhole, Except.ok.injEq] at h
    split_ifs at h with hsmall
    · exact .inl ⟨i, hsmall, h.symm⟩
    · exact .inr ⟨hfinite, h.symm⟩

theorem exists_plain_of_doubleText {d : Double} (h : doubleText d = .ok text) :
    ∃ n : Numeral, n.Plain ∧ n.text = text := by
  cases d with
  | nan => cases h
  | infinite _ => cases h
  | finite negative m hm =>
    rcases Nat.eq_zero_or_pos m with rfl | hpos
    · rw [doubleText_zero] at h
      cases h
      exact Numeral.IsInteger.zero.exists_plain
    · rcases eq_ofInt_or_eq_text h with ⟨i, -, rfl⟩ | ⟨-, rfl⟩
      · exact (Numeral.isInteger_ofInt i).exists_plain
      · exact Double.exists_plain_text hpos hm

theorem exists_plain_of_formatValue (h : formatValue .double v = .ok text) :
    ∃ n : Numeral, n.Plain ∧ n.text = text := by
  rw [formatValue] at h
  cases hd : toDouble v with
  | error e =>
    rw [hd] at h
    cases h
  | ok d =>
    rw [hd, Outcome.ok_bind] at h
    exact exists_plain_of_doubleText h

end

/-- An integer placeholder writes `NULL` for nothing, and for all else a whole number. A double
placeholder writes a number. None is a zero with a sign or one of the names that some doubles
have. -/
theorem formatValue_numeric (v : Value) (text : Text) :
    (formatValue .int v = .ok text →
      (text = "NULL".toList ↔ v = .null) ∧
        (v ≠ .null → Numeral.IsInteger text ∧ text ≠ "-0".toList)) ∧
    (formatValue .double v = .ok text →
      (∃ n : Numeral, n.Plain ∧ n.text = text) ∧
        text ∉ ["-0".toList, "inf".toList, "-inf".toList, "nan".toList, "NULL".toList]) := by
  refine ⟨fun h => ⟨⟨?_, ?_⟩, ?_⟩, ?_⟩
  · rintro rfl
    by_contra hv
    obtain ⟨n, hn, htext⟩ := (isInteger_of_formatValue hv h).exists_plain
    have hletter := @Numeral.Plain.isDigit_or_mem n hn 'N' (htext ▸ List.mem_cons_self)
    revert hletter
    decide
  · rintro rfl
    cases h
    rfl
  · intro hv
    have hinteger := isInteger_of_formatValue hv h
    obtain ⟨n, hn, rfl⟩ := hinteger.exists_plain
    exact ⟨hinteger, hn.ne_minus_zero⟩
  · intro h
    obtain ⟨n, hn, rfl⟩ := exists_plain_of_formatValue h
    refine ⟨⟨n, hn, rfl⟩, ?_⟩
    simp only [List.mem_cons, List.not_mem_nil, or_false, not_or]
    have hletter (name : Text) (c : Char) (hc : c ∈ name)
        (hforeign : ¬ (c.isDigit = true ∨ c ∈ ['-', '+', '.', 'e'])) : n.text ≠ name := by
      intro htext
      exact hforeign (hn.isDigit_or_mem (htext ▸ hc))
    exact ⟨hn.ne_minus_zero, hletter _ 'i' (by decide) (by decide),
      hletter _ 'i' (by decide) (by decide), hletter _ 'n' (by decide) (by decide),
      hletter _ 'N' (by decide) (by decide)⟩

theorem formatValue_numeric_leading :
    formatValue .int (.str " -٣٤; DROP".toList) = .ok "-34".toList ∧
      Numeral.IsInteger "-34".toList ∧
    formatValue .double (.str "1.5e20 OR 1".toList) = .ok "1.5e+20".toList ∧
      ∃ n : Numeral, n.Plain ∧ n.text = "1.5e+20".toList := by
  have hint : formatValue .int (.str " -٣٤; DROP".toList) = .ok "-34".toList :=
    Outcome.toOption_eq_some_iff.mp (by decide +kernel)
  have hdouble : formatValue .double (.str "1.5e20 OR 1".toList) = .ok "1.5e+20".toList :=
    Outcome.toOption_eq_some_iff.mp (by decide +kernel)
  exact ⟨hint, ((formatValue_numeric _ _).1 hint |>.2 nofun).1, hdouble,
    ((formatValue_numeric _ _).2 hdouble).1⟩

end SqlTemplate
