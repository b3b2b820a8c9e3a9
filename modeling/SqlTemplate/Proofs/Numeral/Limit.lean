import Mathlib.Algebra.Order.Group.Nat
import SqlTemplate.Double.Basic
import SqlTemplate.Numeral.Basic

/-! The limit on the digits of an integer as a bound on its size. -/
namespace SqlTemplate

namespace Numeral

theorem ofInt?_eq_none_iff {i : Int} : ofInt? i = none ↔ 10 ^ digitLimit ≤ i.natAbs := by
  have hlength : (digits i.natAbs).length ≤ digitLimit ↔ i.natAbs < 10 ^ digitLimit :=
    Nat.length_toDigits_le_iff (by decide) (by decide)
  rw [ofInt?, ite_eq_right_iff]
  simp only [reduceCtorEq, imp_false, hlength, not_lt]

/-- A row of digits writes a number below the power of ten of its length. -/
theorem ofDigits_lt (row : Text) : ofDigits row < 10 ^ row.length := by
  have hfold : ∀ n, row.foldl (fun n c => 10 * n + (Text.digitValue? c).getD 0) n <
      (n + 1) * 10 ^ row.length := by
    induction row with
    | nil => simp
    | cons c row ih =>
      intro n
      have hdigit : (Text.digitValue? c).getD 0 < 10 := by
        cases hc : Text.digitValue? c with
        | none => decide
        | some d => exact Text.digitValue?_lt hc
      calc (c :: row).foldl (fun n c => 10 * n + (Text.digitValue? c).getD 0) n
          < (10 * n + (Text.digitValue? c).getD 0 + 1) * 10 ^ row.length := ih _
        _ ≤ (n + 1) * 10 * 10 ^ row.length := Nat.mul_le_mul_right _ (by omega)
        _ = (n + 1) * 10 ^ (c :: row).length := by
          rw [List.length_cons, Nat.pow_succ, Nat.mul_assoc, Nat.mul_comm 10]
  simpa [ofDigits] using hfold 0

theorem natAbs_signed (sign row : Text) : (signed sign row).natAbs = ofDigits row := by
  rw [signed]
  split <;> simp

/-- A row of digits within the limit writes an integer within the limit. -/
theorem natAbs_signed_lt {sign row : Text} (h : row.length ≤ digitLimit) :
    (signed sign row).natAbs < 10 ^ digitLimit := by
  rw [natAbs_signed]
  exact Nat.lt_of_lt_of_le (ofDigits_lt row) (Nat.pow_le_pow_right (by decide) h)

end Numeral

namespace Double

/-- The whole part of a double is far within the limit. -/
theorem natAbs_truncate?_lt {d : Double} {i : Int} (h : d.truncate? = some i) :
    i.natAbs < 10 ^ Numeral.digitLimit := by
  have hwhole : ∀ {n : Nat}, Representable n → n / quanta < 10 ^ Numeral.digitLimit := by
    intro n hn
    have hpower : ∀ k, Nat.pow 2 k ≤ 10 ^ k := Nat.pow_le_pow_left (by decide)
    have hbound : bound ≤ 10 ^ boundLog := by
      unfold bound
      exact hpower boundLog
    calc n / quanta ≤ n := Nat.div_le_self n quanta
      _ < bound := hn.1
      _ ≤ 10 ^ boundLog := hbound
      _ ≤ 10 ^ Numeral.digitLimit := Nat.pow_le_pow_right (by decide) (by decide)
  match d, h with
  | .finite false n hn, h =>
    cases h
    exact hwhole hn
  | .finite true n hn, h =>
    cases h
    rw [Int.natAbs_neg]
    exact hwhole hn

end Double
end SqlTemplate
