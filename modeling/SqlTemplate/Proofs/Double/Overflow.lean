import Mathlib.Algebra.Order.Group.Nat
import SqlTemplate.Double.Rounding

/-! The integers that are too large for a double. They begin halfway between the largest double and
the next power of two, where rounding goes up. -/
namespace SqlTemplate.Double

/-- Rounding goes up from an odd number at the half already, a tie going to the even neighbour. -/
theorem succ_le_roundQuotient_iff {k num den : Nat} (hk : k % 2 = 1) (hden : 0 < den) :
    k + 1 ≤ roundQuotient num den ↔ (2 * k + 1) * den ≤ 2 * num := by
  have hdivision := Nat.div_add_mod num den
  have hremainder := Nat.mod_lt num hden
  have hexpand : (2 * k + 1) * den = 2 * (den * k) + den := by
    rw [Nat.add_mul, Nat.one_mul, Nat.mul_assoc, Nat.mul_comm k]
  simp only [roundQuotient]
  generalize num / den = q at hdivision
  generalize num % den = r at hdivision hremainder
  rw [hexpand, ← hdivision]
  rcases Nat.lt_trichotomy q k with hlt | rfl | hgt
  · have hstep : den * (q + 1) ≤ den * k := Nat.mul_le_mul_left den hlt
    rw [Nat.mul_succ] at hstep
    split_ifs <;> omega
  · split_ifs <;> omega
  · have hstep : den * (k + 1) ≤ den * q := Nat.mul_le_mul_left den hgt
    rw [Nat.mul_succ] at hstep
    split_ifs <;> omega

/-- The nearest number of quanta that 53 bits hold, whatever its size. -/
def roundToGrid (n : Nat) : Nat := roundQuotient n (spacing n) * spacing n

theorem nearestMagnitude_one (n : Nat) : nearestMagnitude n 1 = roundToGrid (n * quanta) := by
  simp only [nearestMagnitude, roundToGrid, Nat.div_one, Nat.one_mul]

section
variable {n e : Nat}

theorem spacing_pos (n : Nat) : 0 < spacing n := Nat.two_pow_pos _

theorem two_pow_le_roundToGrid (he : 52 ≤ e) (h : 2 ^ e ≤ n) : 2 ^ e ≤ roundToGrid n := by
  have hn : n ≠ 0 := Nat.ne_of_gt (Nat.lt_of_lt_of_le (Nat.two_pow_pos e) h)
  have hlog : e ≤ n.log2 := (Nat.le_log2 hn).mpr h
  have hsplit : 2 ^ n.log2 = 2 ^ 52 * spacing n := by
    rw [spacing, Nat.pow_eq, ← Nat.pow_add, Nat.add_sub_cancel' (Nat.le_trans he hlog)]
  have hquotient : 2 ^ 52 ≤ n / spacing n := by
    rw [Nat.le_div_iff_mul_le (spacing_pos n), ← hsplit]
    exact Nat.log2_self_le hn
  calc 2 ^ e ≤ 2 ^ n.log2 := Nat.pow_le_pow_right (by decide) hlog
    _ = 2 ^ 52 * spacing n := hsplit
    _ ≤ roundToGrid n :=
      Nat.mul_le_mul_right _ (Nat.le_trans hquotient (le_roundQuotient n (spacing n)))

theorem roundToGrid_le_two_pow (he : 53 ≤ e) (h : n < 2 ^ e) : roundToGrid n ≤ 2 ^ e := by
  have hlog : n.log2 < e := by
    rcases Nat.eq_zero_or_pos n with rfl | hn
    · rw [Nat.log2_zero]
      omega
    · exact (Nat.log2_lt (Nat.ne_of_gt hn)).mpr h
  have hquotient : n / spacing n < 2 ^ 53 := by
    rw [Nat.div_lt_iff_lt_mul (spacing_pos n), spacing, Nat.pow_eq, ← Nat.pow_add]
    exact Nat.lt_of_lt_of_le Nat.lt_log2_self (Nat.pow_le_pow_right (by decide) (by omega))
  calc roundToGrid n ≤ 2 ^ 53 * spacing n :=
      Nat.mul_le_mul_right _ (Nat.le_trans (roundQuotient_le n (spacing n)) hquotient)
    _ = 2 ^ (53 + (n.log2 - 52)) := by rw [spacing, Nat.pow_eq, ← Nat.pow_add]
    _ ≤ 2 ^ e := Nat.pow_le_pow_right (by decide) (by omega)

/-- A power of two is reached from half a step of the grid below it. -/
theorem two_pow_le_roundToGrid_iff :
    Nat.pow 2 (e + 54) ≤ roundToGrid n ↔ Nat.pow 2 (e + 54) - Nat.pow 2 e ≤ n := by
  simp only [Nat.pow_eq]
  have htop : 2 ^ (e + 54) = 2 ^ 54 * 2 ^ e := by rw [Nat.pow_add, Nat.mul_comm]
  have hhalf : 2 ^ (e + 53) = 2 ^ 53 * 2 ^ e := by rw [Nat.pow_add, Nat.mul_comm]
  have hpos := Nat.two_pow_pos e
  by_cases hlow : n < 2 ^ (e + 53)
  · -- Rounding stays at or below the power before.
    have hround := roundToGrid_le_two_pow (by omega) hlow
    omega
  by_cases hhigh : 2 ^ (e + 54) ≤ n
  · have hround := two_pow_le_roundToGrid (by omega) hhigh
    omega
  -- Between the two powers the steps of the grid are of one size.
  have hlog : n.log2 = e + 53 := by
    have hn : n ≠ 0 := by omega
    exact Nat.le_antisymm (Nat.le_of_lt_succ ((Nat.log2_lt hn).mpr (Nat.not_le.mp hhigh)))
      ((Nat.le_log2 hn).mpr (Nat.not_lt.mp hlow))
  have hstep : spacing n = 2 * 2 ^ e := by
    rw [spacing, hlog, Nat.pow_eq, ← Nat.pow_succ']
    rfl
  have hgrid : 2 ^ (e + 54) = (2 ^ 53 - 1 + 1) * spacing n := by rw [htop, hstep]; omega
  rw [hgrid, roundToGrid, Nat.mul_le_mul_right_iff (spacing_pos n),
    succ_le_roundQuotient_iff (by decide) (spacing_pos n), hstep]
  omega

end

/-- Halfway between the largest double and the next power of two. -/
def overflowThreshold : Nat := Nat.pow 2 1024 - Nat.pow 2 970

theorem two_pow_sub_mul (a b c : Nat) :
    (Nat.pow 2 a - Nat.pow 2 b) * Nat.pow 2 c = Nat.pow 2 (a + c) - Nat.pow 2 (b + c) := by
  simp only [Nat.pow_eq, Nat.sub_mul, Nat.pow_add]

-- The exponents are made variables first: no step here may evaluate such a power.
theorem overflowThreshold_mul_quanta {e : Nat} (he : e + 54 = boundLog) :
    overflowThreshold * quanta = bound - Nat.pow 2 e := by
  unfold overflowThreshold quanta bound
  have htop : boundLog = 1024 + 1074 := rfl
  have hhalf : e = 970 + 1074 := by omega
  rw [htop, hhalf]
  generalize 1024 = a
  generalize 970 = b
  generalize 1074 = c
  exact two_pow_sub_mul a b c

theorem bound_le_roundToGrid_iff {n e : Nat} (he : e + 54 = boundLog) :
    bound ≤ roundToGrid n ↔ bound - Nat.pow 2 e ≤ n := by
  unfold bound
  rw [← he]
  exact two_pow_le_roundToGrid_iff

theorem quanta_pos : 0 < quanta := by
  unfold quanta
  generalize 1074 = k
  exact Nat.two_pow_pos k

theorem bound_le_nearestMagnitude_iff {n : Nat} :
    bound ≤ nearestMagnitude n 1 ↔ overflowThreshold ≤ n := by
  have hexponent : ∃ e, e + 54 = boundLog := ⟨2044, rfl⟩
  obtain ⟨e, he⟩ := hexponent
  rw [nearestMagnitude_one, bound_le_roundToGrid_iff he, ← overflowThreshold_mul_quanta he,
    Nat.mul_le_mul_right_iff quanta_pos]

theorem unlessInfinite?_eq_none_iff {d : Double} :
    d.unlessInfinite? = none ↔ ∃ sign, d = .infinite sign := by
  cases d <;> simp [unlessInfinite?]

theorem unlessInfinite?_ofQuotient_eq_none_iff {negative : Bool} {n : Nat} :
    (ofQuotient negative n 1).unlessInfinite? = none ↔ overflowThreshold ≤ n := by
  rw [unlessInfinite?_eq_none_iff, ← bound_le_nearestMagnitude_iff, ofQuotient]
  split_ifs with h
  · simpa using h
  · simpa using h

/-- An integer is too large for a double from the threshold on. -/
theorem ofInt?_eq_none_iff {i : Int} : ofInt? i = none ↔ overflowThreshold ≤ i.natAbs := by
  cases i with
  | ofNat n =>
    rw [ofInt?, unlessInfinite?_ofQuotient_eq_none_iff]
    rfl
  | negSucc n =>
    rw [ofInt?, unlessInfinite?_ofQuotient_eq_none_iff]
    rfl

end SqlTemplate.Double
