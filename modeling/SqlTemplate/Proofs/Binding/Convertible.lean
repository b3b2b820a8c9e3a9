import SqlTemplate.Proofs.Binding.Limit
import SqlTemplate.Proofs.Numeral.Pattern

/-! Texts as arguments of the numeric placeholders, by what the patterns pick from their front. That
is always a double, and an integer whenever it is one and not too long. -/
namespace SqlTemplate

open Numeral (SignedRow numberPattern integerPattern frontDouble? integer? double?)

/-- What a text becomes as an integer: what the pattern for an integer picks, or else the whole part of
the double that the pattern for a number picks. -/
inductive CastOfText (text : Text) : Except FormatError Int → Prop
  | exact {picked : Text} {i : Int} (integer : integerPattern.pick? text = some picked)
      (value : integer? picked = some i) : CastOfText text (.ok i)
  | tooLong {sign row : Text} (integer : integerPattern.pick? text = some (sign ++ row))
      (digits : SignedRow sign row) (long : Numeral.digitLimit < row.length) :
      CastOfText text (.error (.numeralTooLong row.length))
  | truncated {d : Double} {i : Int} (other : integerPattern.pick? text = none)
      (double : frontDouble? text = some d) (whole : d.truncate? = some i) :
      CastOfText text (.ok i)
  | infinite {picked : Text} {negative : Bool} (other : integerPattern.pick? text = none)
      (number : numberPattern.pick? text = some picked)
      (rounded : double? picked = some (Double.infinite negative)) :
      CastOfText text (.error (.uncastable (.infinite negative)))

section
variable {text sign row : Text}

theorem toDouble_str_of_frontDouble? {d : Double} (h : frontDouble? text = some d) :
    toDouble (.str text) = .ok d := by
  rw [Numeral.frontDouble?_eq, Option.some.injEq] at h
  rw [toDouble, h]

theorem toInt_str_of_integer (hrow : SignedRow sign row)
    (h : integerPattern.pick? text = some (sign ++ row)) :
    toInt (.str text) = if row.length ≤ Numeral.digitLimit then .ok (Numeral.signed sign row)
      else .error (.numeralTooLong row.length) := by
  rw [toInt, hrow.pick?_integerPattern_iff.mp h]

theorem toInt_str_of_other {d : Double} (h : integerPattern.pick? text = none)
    (hd : frontDouble? text = some d) : toInt (.str text) = castDouble d := by
  rw [Numeral.pick?_integerPattern, Option.map_eq_none_iff] at h
  rw [Numeral.frontDouble?_eq, Option.some.injEq] at hd
  rw [toInt, h, ← hd]

/-- No digits are read as the double that is not a number. -/
theorem leadingDouble_ne_nan (text : Text) : Numeral.leadingDouble text ≠ .nan := by
  have hdecimal (negative : Bool) (coefficient : Nat) (scale : Int) :
      Double.ofDecimal negative coefficient scale ≠ .nan := by
    unfold Double.ofDecimal Double.ofQuotient
    split_ifs <;> rintro ⟨⟩
  rw [Numeral.leadingDouble]
  cases Numeral.leading? text with
  | none => rintro ⟨⟩
  | some n => exact hdecimal _ _ _

theorem castOfText_of_integer {picked : Text} (h : integerPattern.pick? text = some picked) :
    CastOfText text (toInt (.str text)) := by
  obtain ⟨-, ⟨sign, row, hrow, rfl⟩, -⟩ := Numeral.pick?_integerPattern_eq_some_iff.mp h
  have hvalue := hrow.integer?_eq
  rw [toInt_str_of_integer hrow h]
  by_cases hshort : row.length ≤ Numeral.digitLimit
  · rw [if_pos hshort] at hvalue ⊢
    exact .exact h hvalue
  · rw [if_neg hshort]
    exact .tooLong h hrow (Nat.not_le.mp hshort)

theorem castOfText_of_other (h : integerPattern.pick? text = none) :
    CastOfText text (toInt (.str text)) := by
  have hfront := Numeral.frontDouble?_eq text
  rw [toInt_str_of_other h hfront]
  cases hd : Numeral.leadingDouble text with
  | nan => exact (leadingDouble_ne_nan text hd).elim
  | finite negative m hm =>
    rw [hd] at hfront
    cases negative <;> exact .truncated h hfront rfl
  | infinite negative =>
    rw [hd] at hfront
    rw [frontDouble?] at hfront
    cases hpick : numberPattern.pick? text with
    | none =>
      rw [hpick] at hfront
      cases hfront
    | some picked =>
      rw [hpick] at hfront
      exact .infinite h hpick hfront

theorem castOfText_toInt (text : Text) : CastOfText text (toInt (.str text)) := by
  cases h : integerPattern.pick? text with
  | none => exact castOfText_of_other h
  | some picked => exact castOfText_of_integer h

theorem CastOfText.toInt_eq {outcome : Except FormatError Int} (h : CastOfText text outcome) :
    toInt (.str text) = outcome := by
  cases h with
  | exact integer value =>
    obtain ⟨-, ⟨sign, row, hrow, rfl⟩, -⟩ := Numeral.pick?_integerPattern_eq_some_iff.mp integer
    rw [hrow.integer?_eq, Option.ite_none_right_eq_some, Option.some.injEq] at value
    obtain ⟨hshort, rfl⟩ := value
    rw [toInt_str_of_integer hrow integer, if_pos hshort]
  | tooLong integer digits long =>
    rw [toInt_str_of_integer digits integer, if_neg (Nat.not_le.mpr long)]
  | truncated other double whole =>
    rw [toInt_str_of_other other double, castDouble, whole]
  | @infinite picked negative other number rounded =>
    have hfront : frontDouble? text = some (Double.infinite negative) := by
      rw [frontDouble?, number]
      exact rounded
    rw [toInt_str_of_other other hfront]
    rfl

end

/-- After the white space the pattern for a number picks the longest number that stands there, and
nothing if none does. The pattern for an integer picks the same text if that is a sign and digits and
neither a point nor the letter of an exponent follows, and nothing otherwise. What they pick is
converted: to a double always, and to an integer unless it has too many digits or is infinite as a
double. -/
theorem picks_longest_convertible (text : Text) :
    (∀ picked, numberPattern.pick? text = some picked ↔
      ∃ n : Numeral, n.LongestIn (text.dropWhile Text.isBlank) ∧ n.text = picked) ∧
    (numberPattern.pick? text = none ↔
      ∀ n : Numeral, n.WellFormed → ¬ n.text <+: text.dropWhile Text.isBlank) ∧
    (∀ picked, integerPattern.pick? text = some picked ↔
      numberPattern.pick? text = some picked ∧
      (∃ sign row, SignedRow sign row ∧ picked = sign ++ row) ∧
      ∀ c ∈ ((text.dropWhile Text.isBlank).drop picked.length).head?, c ∉ ['.', 'e', 'E']) ∧
    (∃ d, frontDouble? text = some d ∧ toDouble (.str text) = .ok d) ∧
    ∀ outcome, toInt (.str text) = outcome ↔ CastOfText text outcome := by
  refine ⟨fun _ => Numeral.pick?_numberPattern_eq_some_iff,
    Numeral.pick?_numberPattern_eq_none_iff, fun _ => Numeral.pick?_integerPattern_eq_some_iff,
    ?_, fun outcome => ⟨?_, CastOfText.toInt_eq⟩⟩
  · have hfront := Numeral.frontDouble?_eq text
    exact ⟨_, hfront, toDouble_str_of_frontDouble? hfront⟩
  · rintro rfl
    exact castOfText_toInt text

/-- White space that does not stand around numbers elsewhere, digits of another script and an exponent
that breaks off. -/
theorem picks_longest_convertible_dangling :
    numberPattern.pick? "\u001f-٣4e+ 5".toList = some "-٣4".toList ∧
      (∃ n : Numeral, n.LongestIn ("\u001f-٣4e+ 5".toList.dropWhile Text.isBlank) ∧
        n.text = "-٣4".toList) ∧
    integerPattern.pick? "\u001f-٣4e+ 5".toList = none ∧
    toInt (.str "\u001f-٣4e+ 5".toList) = .ok (-34) ∧
      CastOfText "\u001f-٣4e+ 5".toList (.ok (-34)) := by
  have hnumber : numberPattern.pick? "\u001f-٣4e+ 5".toList = some "-٣4".toList := by
    decide +kernel
  have hcast : toInt (.str "\u001f-٣4e+ 5".toList) = .ok (-34) :=
    Outcome.toOption_eq_some_iff.mp (by decide +kernel)
  obtain ⟨hlongest, -, -, -, houtcome⟩ := picks_longest_convertible "\u001f-٣4e+ 5".toList
  exact ⟨hnumber, (hlongest _).mp hnumber, by decide +kernel, hcast, (houtcome _).mp hcast⟩

end SqlTemplate
