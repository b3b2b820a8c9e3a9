import SqlTemplate.Proofs.Double.Decimal
import SqlTemplate.Proofs.Double.Text
import SqlTemplate.Proofs.Numeral.Digits

/-! The text of a finite double reads back as that double. The search for the shortest digits ends
with a decimal that does, and no layout changes its value. -/
namespace SqlTemplate.Double

open Numeral (ofDigits)

-- The number of places is a variable, so that no step evaluates its power.
theorem exists_exact_eq (m : Nat) :
    ∃ e : Nat, exact m = ⟨m * 5 ^ e, -(e : Int)⟩ ∧ quanta = 2 ^ e := by
  unfold exact quanta
  have hplaces : (-1074 : Int) = -((1074 : Nat) : Int) := rfl
  rw [hplaces]
  generalize 1074 = e
  exact ⟨e, rfl, rfl⟩

/-- All the places of a double are rounded to it. -/
theorem readsAs_exact {m : Nat} (hm : 0 < m) (h : Representable m) : (exact m).ReadsAs m := by
  refine ⟨h, ?_⟩
  have hpositive := coefficient_exact_pos hm
  obtain ⟨e, hexact, hquanta⟩ := exists_exact_eq m
  rw [ofDecimal_eq_ofQuotient false hpositive, ← ofQuotient_quanta false h, hexact, hquanta]
  apply ofQuotient_congr (Nat.pow_pos (by decide)) (Nat.two_pow_pos e)
  have hwhole : (-(e : Int)).toNat = 0 := by omega
  have hplaces : (-(-(e : Int))).toNat = e := by omega
  simp only [hwhole, hplaces, Nat.pow_zero, Nat.mul_one, Nat.mul_assoc, ← Nat.mul_pow]

theorem readsAs_shortestDecimal {m : Nat} (hm : 0 < m) (h : Representable m) :
    (shortestDecimal m).ReadsAs m := by
  simp only [shortestDecimal]
  generalize hfound : List.find? _ _ = found
  cases found with
  | none => exact readsAs_exact hm h
  | some d =>
    have hreads := List.find?_some hfound
    exact of_decide_eq_true hreads

/-! The value of the parts that digits are laid out to. -/

/-- The double nearest to the digits with the point in its place. -/
def Digits.toDouble (negative : Bool) (d : Digits) : Double :=
  ofDecimal negative (ofDigits d.digits) (d.point - d.digits.length)

/-- The zeros that are left off at the end are counted in the place of the point. -/
theorem Decimal.toDouble_toDigits (negative : Bool) (d : Decimal) :
    d.toDigits.toDouble negative = ofDecimal negative d.coefficient d.scale := by
  obtain ⟨k, hsplit⟩ := d.digits_coefficient
  have hlength := congrArg List.length hsplit
  rw [List.length_append, List.length_replicate] at hlength
  have hcoefficient : d.coefficient = ofDigits d.toDigits.digits * 10 ^ k := by
    rw [← Numeral.ofDigits_append_zeros, ← hsplit, Numeral.ofDigits_digits]
  have hscale : d.scale = d.toDigits.point - d.toDigits.digits.length - k := by
    have hpoint : d.toDigits.point = d.scale + (Numeral.digits d.coefficient).length := rfl
    omega
  rw [Digits.toDouble, hcoefficient, hscale, ofDecimal_mul_pow]

theorem isNegative_of_sign {n : Numeral} {negative : Bool} (h : n.sign = signText negative) :
    n.isNegative = negative := by
  rw [Numeral.isNegative, h]
  cases negative <;> rfl

section
variable {d : Digits}

theorem Digits.toDouble_positional (negative : Bool) :
    (d.positional (signText negative)).toDouble = d.toDouble negative := by
  rw [Digits.positional]
  split_ifs with hsmall hlarge
  · let zeros := List.replicate (-d.point).toNat '0'
    have hcoefficient : ofDigits (['0'] ++ (zeros ++ d.digits)) = ofDigits d.digits := by
      have hzero : (['0'] : Text) = List.replicate 1 '0' := rfl
      rw [hzero, Numeral.ofDigits_zeros_append, Numeral.ofDigits_zeros_append]
    have hscale : (0 : Int) - (zeros ++ d.digits).length = d.point - d.digits.length := by
      simp only [zeros, List.length_append, List.length_replicate]
      omega
    rw [Numeral.toDouble, isNegative_of_sign rfl, Digits.toDouble, ← hcoefficient, ← hscale]
    rfl
  · let k := d.point.toNat - d.digits.length
    have hcoefficient : ofDigits (d.digits ++ List.replicate k '0' ++ ['0']) =
        ofDigits d.digits * 10 ^ (k + 1) := by
      rw [List.append_assoc, ← List.replicate_succ', Numeral.ofDigits_append_zeros]
    have hscale : (0 : Int) - (1 : Nat) = d.point - d.digits.length - (k + 1 : Nat) := by
      simp only [k]
      omega
    rw [Digits.toDouble, ← ofDecimal_mul_pow negative _ (k + 1), ← hcoefficient, ← hscale,
      Numeral.toDouble, isNegative_of_sign rfl]
    rfl
  · have hcoefficient : ofDigits (d.digits.take d.point.toNat ++ d.digits.drop d.point.toNat) =
        ofDigits d.digits := by rw [List.take_append_drop]
    have hscale : (0 : Int) - (d.digits.drop d.point.toNat).length =
        d.point - d.digits.length := by
      rw [List.length_drop]
      omega
    rw [Numeral.toDouble, isNegative_of_sign rfl, Digits.toDouble, ← hcoefficient, ← hscale]
    rfl

theorem ofDigits_padded (width n : Nat) : ofDigits (padded width n) = n := by
  rw [padded, Numeral.ofDigits_zeros_append, Numeral.ofDigits_digits]

theorem Digits.toDouble_scientific (negative : Bool) (width : Nat) (h : d.digits ≠ []) :
    (d.scientific width (signText negative)).toDouble = d.toDouble negative := by
  have hlength := List.length_pos_iff.mpr h
  let parts := d.scientific width (signText negative)
  have hfraction : (parts.fraction.getD []).length = d.digits.length - 1 ∧
      parts.whole ++ parts.fraction.getD [] = d.digits := by
    by_cases hsingle : d.digits.length ≤ 1
    · simp only [parts, Digits.scientific, hsingle, ↓reduceIte, Option.getD_none, List.length_nil,
        List.append_nil, List.take_of_length_le hsingle, and_true]
      omega
    · simp only [parts, Digits.scientific, hsingle, ↓reduceIte, Option.getD_some,
        List.length_drop, List.take_append_drop, and_self]
  have hcoefficient : parts.coefficient = ofDigits d.digits := by
    rw [Numeral.coefficient, hfraction.2]
  have hscale : parts.scale = d.point - d.digits.length := by
    rw [Numeral.scale, hfraction.1]
    by_cases hnegative : d.point - 1 < 0
    · simp only [parts, Digits.scientific, hnegative, ↓reduceIte, ofDigits_padded]
      omega
    · simp only [parts, Digits.scientific, hnegative, ↓reduceIte, ofDigits_padded]
      simp only [List.cons.injEq, Char.reduceEq, and_true, ↓reduceIte]
      omega
  rw [Numeral.toDouble, isNegative_of_sign rfl, hcoefficient, hscale, Digits.toDouble]

theorem Layout.toDouble_parts (l : Layout) (negative : Bool) (h : d.digits ≠ []) :
    (l.parts (signText negative) d).toDouble = d.toDouble negative := by
  rw [Layout.parts]
  split_ifs
  · exact Digits.toDouble_positional negative
  · exact Digits.toDouble_scientific negative l.exponentDigits h

end

/-- A finite double is what its own text reads as. -/
theorem toDouble_parts (negative : Bool) {m : Nat} (h : Representable m) :
    (parts negative m).toDouble = .finite negative m h := by
  rcases Nat.eq_zero_or_pos m with rfl | hm
  · cases negative <;> rfl
  · obtain ⟨_, hreads⟩ := readsAs_shortestDecimal hm h
    rw [parts, if_neg (Nat.ne_of_gt hm), Layout.toDouble_parts _ _ (nonzero_shortest hm).ascii.ne_nil,
      shortest, Decimal.toDouble_toDigits]
    exact ofDecimal_eq_finite hreads negative

end SqlTemplate.Double
