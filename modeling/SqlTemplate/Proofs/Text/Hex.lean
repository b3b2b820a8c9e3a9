import Mathlib.Algebra.Order.Group.Nat
import SqlTemplate.Text.Hex

/-! Hexadecimal digits read what they write. -/
namespace SqlTemplate.Text

theorem hexValue?_digitChar {d : Nat} (h : d < 16) : hexValue? (Nat.digitChar d) = some d := by
  have hall : ∀ d < 16, hexValue? (Nat.digitChar d) = some d := by decide
  exact hall d h

theorem hexNumber?_append_singleton (digits : Text) (c : Char) :
    hexNumber? (digits ++ [c]) =
      (hexNumber? digits).bind fun n => (hexValue? c).map (16 * n + ·) := by
  simp [hexNumber?, List.foldlM_append]

/-- Reading takes back what writing puts down, but for what the width cuts off. -/
theorem hexNumber?_hexDigits (width n : Nat) :
    hexNumber? (hexDigits width n) = some (n % 16 ^ width) := by
  induction width generalizing n with
  | zero => simp [hexDigits, hexNumber?, Nat.mod_one]
  | succ width ih =>
    have hdigit : n % 16 < 16 := Nat.mod_lt n (by decide)
    have hsplit : n % 16 ^ (width + 1) = n % 16 + 16 * (n / 16 % 16 ^ width) := by
      rw [Nat.pow_succ', Nat.mod_mul]
    rw [hexDigits, hexNumber?_append_singleton, ih, hexValue?_digitChar hdigit]
    simp [hsplit, Nat.add_comm]

theorem printed_hexDigits {width n : Nat} :
    ∀ c ∈ hexDigits width n, 0x20 ≤ c.toNat ∧ c.toNat < 0x80 := by
  induction width generalizing n with
  | zero => simp [hexDigits]
  | succ width ih =>
    have hall : ∀ d < 16, 0x20 ≤ (Nat.digitChar d).toNat ∧ (Nat.digitChar d).toNat < 0x80 := by
      decide
    rw [hexDigits]
    intro c hc
    rcases List.mem_append.mp hc with hc | hc
    · exact ih c hc
    · rw [List.mem_singleton.mp hc]
      exact hall _ (Nat.mod_lt n (by decide))

end SqlTemplate.Text
