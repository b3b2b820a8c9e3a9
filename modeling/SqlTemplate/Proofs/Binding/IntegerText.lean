import SqlTemplate.Proofs.Binding.Numeric
import SqlTemplate.Proofs.Double.Integer
import SqlTemplate.Proofs.Numeral.Longest

/-! Texts with an integer in front as arguments of an integer placeholder. The digits are taken as
they stand, except before a letter that could start an exponent: there the integer goes through a
double. -/
namespace SqlTemplate

/-- The number in front of the text, after white space, is an integer within the limit; `rest` is
what follows it. -/
structure IntegerFront (n : Numeral) (rest text : Text) : Prop where
  split : n.text ++ rest = text.dropWhile Text.isBlank
  longest : n.LongestIn (text.dropWhile Text.isBlank)
  fraction : n.fraction = none
  exponent : n.exponent = none
  limit : n.whole.length ≤ Numeral.digitLimit

/-- The letter of an exponent stands at the front. -/
def StartsExponent (rest : Text) : Prop := rest.head? = some 'e' ∨ rest.head? = some 'E'

instance (rest : Text) : Decidable (StartsExponent rest) := inferInstanceAs (Decidable (_ ∨ _))

namespace IntegerFront
variable {n : Numeral} {rest text : Text}

theorem endsAt (h : IntegerFront n rest text) : n.EndsAt rest := by
  have hlongest := h.longest
  rw [← h.split] at hlongest
  exact hlongest.endsAt

theorem whole_ne_nil (h : IntegerFront n rest text) : n.whole ≠ [] := by
  refine h.longest.wellFormed.digits.resolve_right ?_
  rintro ⟨row, hrow, -⟩
  rw [h.fraction] at hrow
  cases hrow

theorem text_eq (h : IntegerFront n rest text) :
    text.dropWhile Text.isBlank = n.sign ++ (n.whole ++ rest) := by
  rw [← h.split]
  simp [Numeral.text, h.fraction, h.exponent, Numeral.fractionText]

/-- The letter hides the digits before it, whether an exponent follows or not. -/
theorem leadingInteger? (h : IntegerFront n rest text) :
    Numeral.leadingInteger? text =
      if StartsExponent rest then none else some (n.sign, n.whole) := by
  have hends := h.endsAt
  have hwell := h.longest.wellFormed
  have hrow : Numeral.SignedRow n.sign n.whole := ⟨hwell.sign, hwell.whole, h.whole_ne_nil⟩
  have hpoint := hends.point h.fraction h.exponent
  rw [hrow.leadingInteger?_eq hends.digit h.text_eq]
  simp only [hpoint, false_or, StartsExponent]
  rfl

theorem leadingDouble (h : IntegerFront n rest text) :
    Numeral.leadingDouble text = n.toDouble := by
  have hscan := Numeral.scan_eq_some_iff.mpr ⟨h.split, h.longest⟩
  simp only [Numeral.leadingDouble, Numeral.leading?, hscan, Option.map_some]

theorem toDouble (h : IntegerFront n rest text) :
    n.toDouble = .ofDecimal n.isNegative (Numeral.ofDigits n.whole) 0 := by
  simp [Numeral.toDouble, Numeral.coefficient, Numeral.scale, h.fraction, h.exponent]

theorem of_scan {sign digits : Text}
    (hscan : Numeral.scan (text.dropWhile Text.isBlank) = some (⟨sign, digits, none, none⟩, rest))
    (hlimit : digits.length ≤ Numeral.digitLimit) :
    IntegerFront ⟨sign, digits, none, none⟩ rest text := by
  obtain ⟨hsplit, hlongest⟩ := Numeral.scan_eq_some_iff.mp hscan
  exact ⟨hsplit, hlongest, rfl, rfl, hlimit⟩

end IntegerFront

section
variable {n : Numeral} {rest text : Text}

theorem formatValue_int_str (text : Text) :
    formatValue .int (.str text) = toInt (.str text) >>= intText := rfl

theorem formatValue_int_of_plain (h : IntegerFront n rest text) (hrest : ¬ StartsExponent rest) :
    formatValue .int (.str text) = .ok (Numeral.ofInt (Numeral.signed n.sign n.whole)) := by
  have hinteger : toInt (.str text) = .ok (Numeral.signed n.sign n.whole) := by
    simp [toInt, h.leadingInteger?, hrest, h.limit]
  rw [formatValue_int_str, hinteger, Outcome.ok_bind]
  exact intText_of_lt (Numeral.natAbs_signed_lt h.limit)

theorem formatValue_int_of_letter (h : IntegerFront n rest text) (hrest : StartsExponent rest) :
    formatValue .int (.str text) = castDouble n.toDouble >>= intText := by
  have hinteger : toInt (.str text) = castDouble n.toDouble := by
    simp [toInt, h.leadingInteger?, hrest, h.leadingDouble]
  rw [formatValue_int_str, hinteger]

theorem castDouble_bind_intText {d : Double} {i : Int} (h : d.toInt? = some i) :
    (castDouble d >>= intText) = .ok (Numeral.ofInt i) := by
  have hcast : castDouble d = .ok i := by
    rw [castDouble, Double.truncate?_of_toInt? h]
  rw [hcast, Outcome.ok_bind]
  exact intText_of_lt (natAbs_lt_of_castDouble hcast)

theorem signedInt_isNegative (n : Numeral) :
    Double.signedInt n.isNegative (Numeral.ofDigits n.whole) = Numeral.signed n.sign n.whole := by
  simp only [Double.signedInt, Numeral.signed, Numeral.isNegative, beq_iff_eq]

end

/-- An integer in front of a text is written exactly if no letter of an exponent follows it, or if
it is not above `2 ^ 53`. Before such a letter any other becomes the nearest double: that double,
an integer, is written, and one beyond the largest double is refused. -/
theorem formatValue_int_of_integerFront {n : Numeral} {rest text : Text}
    (h : IntegerFront n rest text) :
    (¬ StartsExponent rest ∨ Numeral.ofDigits n.whole ≤ 2 ^ 53 →
      formatValue .int (.str text) = .ok (Numeral.ofInt (Numeral.signed n.sign n.whole))) ∧
    (StartsExponent rest →
      (Numeral.ofDigits n.whole < Double.overflowThreshold →
        ∃ i, n.toDouble.toInt? = some i ∧
          formatValue .int (.str text) = .ok (Numeral.ofInt i)) ∧
      (Double.overflowThreshold ≤ Numeral.ofDigits n.whole →
        formatValue .int (.str text) =
          .error (.uncastable (.infinite n.isNegative)))) := by
  have hletter := formatValue_int_of_letter h
  have hrounded := @Double.exists_toInt?_ofDecimal (Numeral.ofDigits n.whole)
  rw [h.toDouble] at hletter ⊢
  refine ⟨fun hexact => ?_, fun hrest => ⟨fun hbelow => ?_, fun habove => ?_⟩⟩
  · by_cases hrest : StartsExponent rest
    · have hsmall := hexact.resolve_left (not_not_intro hrest)
      obtain ⟨k, hk, hequal⟩ := hrounded (Double.lt_overflowThreshold hsmall) n.isNegative
      rw [hletter hrest, castDouble_bind_intText hk, hequal hsmall, signedInt_isNegative]
    · exact formatValue_int_of_plain h hrest
  · obtain ⟨k, hk, -⟩ := hrounded hbelow n.isNegative
    exact ⟨_, hk, (hletter hrest).trans (castDouble_bind_intText hk)⟩
  · rw [hletter hrest, Double.ofDecimal_of_overflow habove]
    rfl

theorem formatValue_int_of_integerFront_id :
    IntegerFront ⟨['-'], "9007199254740993".toList, none, none⟩ "id".toList
        " -9007199254740993id".toList ∧
      formatValue .int (.str " -9007199254740993id".toList) =
        .ok "-9007199254740993".toList := by
  have hfront : IntegerFront ⟨['-'], "9007199254740993".toList, none, none⟩ "id".toList
      " -9007199254740993id".toList := .of_scan (by decide +kernel) (by decide)
  have hwritten := (formatValue_int_of_integerFront hfront).1 (.inl (by decide))
  have htext : Numeral.ofInt (Numeral.signed ['-'] "9007199254740993".toList) =
      "-9007199254740993".toList := by decide +kernel
  exact ⟨hfront, htext ▸ hwritten⟩

/-- The letter at the end is no exponent, and yet the integer before it is rounded. -/
theorem formatValue_int_of_integerFront_rounded :
    IntegerFront ⟨[], "9007199254740993".toList, none, none⟩ ['e'] "9007199254740993e".toList ∧
      formatValue .int (.str "9007199254740993e".toList) = .ok "9007199254740992".toList ∧
      Numeral.ofInt (Numeral.signed [] "9007199254740993".toList) = "9007199254740993".toList := by
  have hfront : IntegerFront ⟨[], "9007199254740993".toList, none, none⟩ ['e']
      "9007199254740993e".toList := .of_scan (by decide +kernel) (by decide)
  exact ⟨hfront, Outcome.toOption_eq_some_iff.mp (by decide +kernel), by decide +kernel⟩

end SqlTemplate
