import SqlTemplate.Proofs.Binding.Accepted
import SqlTemplate.Proofs.Binding.IntegerText
import SqlTemplate.Proofs.Numeral.Front

/-! What the numeric placeholders write as an argument of theirs. It is written again as it is, with
whatever stands behind it, so long as that does not go on with the number. -/
namespace SqlTemplate

open Numeral (Stops)

section
variable {rest : Text}

theorem Numeral.Stops.not_startsExponent (h : Stops rest) : ¬ StartsExponent rest := by
  rintro (hlower | hupper)
  · exact h.head?_ne (by decide) hlower
  · exact h.head?_ne (by decide) hupper

theorem integerFront_ofInt {i : Int} (h : Short i) (hrest : Stops rest) :
    IntegerFront (Numeral.ofInteger i) rest (Numeral.ofInt i ++ rest) := by
  have hlaid := (Numeral.plain_ofInteger i).laid
  have hscan := hlaid.scan_text_append hrest
  rw [← hlaid.dropWhile_isBlank_append, Numeral.text_ofInteger] at hscan
  exact .of_scan hscan h

theorem formatValue_int_ofInt_append {i : Int} (h : Short i) (hrest : Stops rest) :
    formatValue .int (.str (Numeral.ofInt i ++ rest)) = .ok (Numeral.ofInt i) := by
  have hwritten := formatValue_int_of_plain (integerFront_ofInt h hrest) hrest.not_startsExponent
  rw [hwritten]
  exact congrArg (fun j => Except.ok (Numeral.ofInt j)) (Numeral.signed_digits i)

/-- Small integers are exact as doubles, so both kinds of text come back. -/
theorem wholeBound_le : wholeBound ≤ 2 ^ 53 := by decide

theorem doubleText_leadingDouble {d : Double} {text : Text} (h : doubleText d = .ok text)
    (hrest : Stops rest) : doubleText (Numeral.leadingDouble (text ++ rest)) = .ok text := by
  rcases eq_ofInt_or_eq_text h with ⟨i, hsmall, rfl⟩ | ⟨hfinite, rfl⟩
  · have hexact : i.natAbs ≤ 2 ^ 53 := Nat.le_trans (Nat.le_of_lt hsmall) wholeBound_le
    exact doubleText_of_toInt? (Double.toInt?_leadingDouble_ofInt hexact hrest) hsmall
  · rw [Double.leadingDouble_text_append hfinite hrest]
    exact h

end

/-- Both numeric placeholders write their own text again as it is, whatever follows it that starts
with no digit, no point and no letter of an exponent; only the `NULL` of an integer placeholder is
no number. -/
theorem formatValue_reads_back {rest : Text} (hrest : Stops rest) (v : Value) (text : Text) :
    (v ≠ .null → formatValue .int v = .ok text →
      formatValue .int (.str (text ++ rest)) = .ok text) ∧
    (formatValue .double v = .ok text →
      formatValue .double (.str (text ++ rest)) = .ok text) := by
  refine ⟨fun hv h => ?_, fun h => ?_⟩
  · rw [formatValue_int hv] at h
    obtain ⟨i, -, hi⟩ := Outcome.bind_eq_ok_iff.mp h
    rw [intText_eq_ok hi]
    exact formatValue_int_ofInt_append (exists_intText_ok_iff.mp ⟨text, hi⟩) hrest
  · obtain ⟨d, -, hd⟩ := Outcome.bind_eq_ok_iff.mp h
    exact doubleText_leadingDouble hd hrest

/-- The least double that is written with a point although it is an integer, and a number behind it
that begins with a sign. -/
theorem formatValue_reads_back_bound :
    Stops ['-', '5'] ∧
    formatValue .int (.str "-1e15".toList) = .ok "-1000000000000000".toList ∧
      formatValue .int (.str "-1000000000000000-5".toList) = .ok "-1000000000000000".toList ∧
    formatValue .double (.int 1000000000000000) = .ok "1000000000000000.0".toList ∧
      formatValue .double (.str "1000000000000000.0-5".toList) =
        .ok "1000000000000000.0".toList := by
  have hstops : Stops ['-', '5'] := by
    rintro c ⟨⟩
    decide
  have hint : formatValue .int (.str "-1e15".toList) = .ok "-1000000000000000".toList :=
    Outcome.toOption_eq_some_iff.mp (by decide +kernel)
  have hdouble : formatValue .double (.int 1000000000000000) = .ok "1000000000000000.0".toList :=
    Outcome.toOption_eq_some_iff.mp (by decide +kernel)
  have hintBack := (formatValue_reads_back hstops (.str "-1e15".toList) _).1 nofun hint
  have hdoubleBack := (formatValue_reads_back hstops (.int 1000000000000000) _).2 hdouble
  exact ⟨hstops, hint, hintBack, hdouble, hdoubleBack⟩

end SqlTemplate
