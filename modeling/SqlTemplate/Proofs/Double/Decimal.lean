import Mathlib.Tactic.SplitIfs
import SqlTemplate.Proofs.Double.Overflow

/-! Doubles from decimals. What a decimal is rounded to depends on its value alone, however digits
and scale share it, and a double has a decimal that is rounded to it. -/
namespace SqlTemplate.Double

/-! Quotients that are equal are rounded alike. -/

theorem roundQuotient_mul_mul (num den : Nat) {k : Nat} (hk : 0 < k) :
    roundQuotient (num * k) (den * k) = roundQuotient num den := by
  have hquotient : num * k / (den * k) = num / den := Nat.mul_div_mul_right num den hk
  have hremainder : 2 * (num * k % (den * k)) = 2 * (num % den) * k := by
    rw [Nat.mul_mod_mul_right, Nat.mul_assoc]
  simp only [roundQuotient, hquotient, hremainder, Nat.mul_lt_mul_right hk]

theorem nearestMagnitude_mul_mul (num den : Nat) {k : Nat} (hk : 0 < k) :
    nearestMagnitude (num * k) (den * k) = nearestMagnitude num den := by
  have hshift : num * k * quanta = num * quanta * k := Nat.mul_right_comm num k quanta
  have hgrid (step : Nat) : den * k * step = den * step * k := Nat.mul_right_comm den k step
  simp only [nearestMagnitude, hshift, Nat.mul_div_mul_right _ _ hk, hgrid,
    roundQuotient_mul_mul _ _ hk]

theorem ofQuotient_congr {negative : Bool} {m n a b : Nat} (hn : 0 < n) (hb : 0 < b)
    (h : m * b = a * n) : ofQuotient negative m n = ofQuotient negative a b := by
  have hnearest : nearestMagnitude m n = nearestMagnitude a b := by
    rw [← nearestMagnitude_mul_mul m n hb, h, Nat.mul_comm n b, nearestMagnitude_mul_mul a b hn]
  simp only [ofQuotient, hnearest]

/-- What 53 bits hold is not rounded. -/
theorem nearestMagnitude_representable {m : Nat} (h : m % spacing m = 0) :
    nearestMagnitude m quanta = m := by
  have hquotient : m * quanta / quanta = m := Nat.mul_div_cancel m quanta_pos
  have hgrid : m / spacing m * spacing m = m := Nat.div_mul_cancel (Nat.dvd_of_mod_eq_zero h)
  simp only [nearestMagnitude, hquotient]
  rw [Nat.mul_comm quanta, roundQuotient_mul_mul m (spacing m) quanta_pos]
  have hexact := roundQuotient_mul (m / spacing m) (spacing m) (spacing_pos m)
  rw [hgrid] at hexact
  rw [hexact, hgrid]

theorem ofQuotient_quanta (negative : Bool) {m : Nat} (h : Representable m) :
    ofQuotient negative m quanta = .finite negative m h := by
  have hnearest := nearestMagnitude_representable h.2
  simp only [ofQuotient, hnearest, h.1, ↓reduceDIte]

/-! The ends of the scale. -/

theorem ofQuotient_large (negative : Bool) {n : Nat} (h : overflowThreshold ≤ n) :
    ofQuotient negative n 1 = .infinite negative := by
  have hbound := Nat.not_lt.mpr (bound_le_nearestMagnitude_iff.mpr h)
  simp only [ofQuotient, hbound, ↓reduceDIte]

theorem ofQuotient_small (negative : Bool) {num den : Nat} (h : 2 * (num * quanta) < den) :
    ofQuotient negative num den = .finite negative 0 representable_zero := by
  have hzero : num * quanta / den = 0 := Nat.div_eq_of_lt (by omega)
  have hrest : num * quanta % den = num * quanta := Nat.mod_eq_of_lt (by omega)
  have hstep : spacing 0 = 1 := rfl
  have hnearest : nearestMagnitude num den = 0 := by
    simp only [nearestMagnitude, roundQuotient, hzero, hstep, Nat.mul_one, hrest, h, ↓reduceIte]
  simp only [ofQuotient, hnearest, representable_zero.1, ↓reduceDIte]

theorem two_pow_le_ten_pow (a b : Nat) : 2 ^ (33 * a + 3 * b) ≤ 10 ^ (10 * a + b) := by
  have hten : 2 ^ 33 ≤ 10 ^ 10 := by decide
  have hone : 2 ^ 3 ≤ 10 := by decide
  calc 2 ^ (33 * a + 3 * b) = (2 ^ 33) ^ a * (2 ^ 3) ^ b := by
        rw [Nat.pow_add, Nat.pow_mul, Nat.pow_mul]
    _ ≤ (10 ^ 10) ^ a * 10 ^ b :=
      Nat.mul_le_mul (Nat.pow_le_pow_left hten a) (Nat.pow_le_pow_left hone b)
    _ = 10 ^ (10 * a + b) := by rw [Nat.pow_add, Nat.pow_mul]

-- The exponents are variables here too, so that no step evaluates such a power.
theorem exists_overflowThreshold_le : ∃ e, e = 1024 ∧ overflowThreshold ≤ 2 ^ e := by
  unfold overflowThreshold
  generalize 1024 = e
  exact ⟨e, rfl, Nat.sub_le _ _⟩

theorem exists_quanta_eq : ∃ e, e = 1074 ∧ quanta = 2 ^ e := by
  unfold quanta
  generalize 1074 = e
  exact ⟨e, rfl, rfl⟩

theorem overflowThreshold_le_ten_pow {n : Nat} (h : 311 ≤ n) : overflowThreshold ≤ 10 ^ n := by
  obtain ⟨e, he, hthreshold⟩ := exists_overflowThreshold_le
  have hsplit : 10 * 31 + (n - 310) = n := by omega
  have hten := two_pow_le_ten_pow 31 (n - 310)
  rw [hsplit] at hten
  calc overflowThreshold ≤ 2 ^ e := hthreshold
    _ ≤ 2 ^ (33 * 31 + 3 * (n - 310)) := Nat.pow_le_pow_right (by decide) (by omega)
    _ ≤ 10 ^ n := hten

theorem quanta_mul_lt_ten_pow {c n : Nat} (h : 331 + (c.log2 + 1) ≤ n) :
    2 * (c * quanta) < 10 ^ n := by
  obtain ⟨e, he, hquanta⟩ := exists_quanta_eq
  have hc : c < 2 ^ (c.log2 + 1) := Nat.lt_log2_self
  have hsplit : 10 * 33 + (n - 330) = n := by omega
  have hten := two_pow_le_ten_pow 33 (n - 330)
  rw [hsplit] at hten
  calc 2 * (c * quanta) = c * 2 ^ (e + 1) := by
        rw [hquanta, Nat.pow_succ, Nat.mul_left_comm, Nat.mul_comm 2]
    _ < 2 ^ (c.log2 + 1) * 2 ^ (e + 1) := Nat.mul_lt_mul_of_pos_right hc (Nat.two_pow_pos _)
    _ = 2 ^ (c.log2 + 1 + (e + 1)) := (Nat.pow_add 2 _ _).symm
    _ ≤ 2 ^ (33 * 33 + 3 * (n - 330)) := Nat.pow_le_pow_right (by decide) (by omega)
    _ ≤ 10 ^ n := hten

/-- The ends of the scale are settled without a power of ten, and as the quotient would be. -/
theorem ofDecimal_eq_ofQuotient (negative : Bool) {c : Nat} (hc : 0 < c) (scale : Int) :
    ofDecimal negative c scale =
      ofQuotient negative (c * 10 ^ scale.toNat) (10 ^ (-scale).toNat) := by
  have hnonzero : c ≠ 0 := Nat.ne_of_gt hc
  rw [ofDecimal, if_neg hnonzero]
  split_ifs with hlarge hsmall hwhole
  · have hscale : (-scale).toNat = 0 := by
      simp only [greatestScale] at hlarge
      omega
    have hpower : overflowThreshold ≤ 10 ^ scale.toNat := by
      apply overflowThreshold_le_ten_pow
      simp only [greatestScale] at hlarge
      omega
    rw [hscale, Nat.pow_zero]
    exact (ofQuotient_large negative (Nat.le_trans hpower (Nat.le_mul_of_pos_left _ hc))).symm
  · have hscale : scale.toNat = 0 := by omega
    rw [hscale, Nat.pow_zero, Nat.mul_one]
    exact (ofQuotient_small negative (quanta_mul_lt_ten_pow (by omega))).symm
  · have hscale : (-scale).toNat = 0 := by omega
    rw [hscale, Nat.pow_zero]
    rfl
  · have hscale : scale.toNat = 0 := by omega
    rw [hscale, Nat.pow_zero, Nat.mul_one]
    rfl

/-- Zeros at the end of the digits may as well be counted in the scale. -/
theorem ofDecimal_mul_pow (negative : Bool) (c k : Nat) (scale : Int) :
    ofDecimal negative (c * 10 ^ k) (scale - k) = ofDecimal negative c scale := by
  rcases Nat.eq_zero_or_pos c with rfl | hc
  · rw [Nat.zero_mul, ofDecimal, ofDecimal, if_pos rfl, if_pos rfl]
  · have hten (n : Nat) : 0 < 10 ^ n := Nat.pow_pos (by decide)
    rw [ofDecimal_eq_ofQuotient negative (Nat.mul_pos hc (hten k)),
      ofDecimal_eq_ofQuotient negative hc]
    apply ofQuotient_congr (hten _) (hten _)
    have hexponent : k + (scale - k).toNat + (-scale).toNat =
        scale.toNat + (-(scale - k)).toNat := by omega
    calc c * 10 ^ k * 10 ^ (scale - k).toNat * 10 ^ (-scale).toNat
        = c * 10 ^ (k + (scale - k).toNat + (-scale).toNat) := by
          rw [Nat.pow_add, Nat.pow_add, Nat.mul_assoc, Nat.mul_assoc, Nat.mul_assoc]
      _ = c * 10 ^ scale.toNat * 10 ^ (-(scale - k)).toNat := by
          rw [hexponent, Nat.pow_add, Nat.mul_assoc]

/-- The sign has no part in the rounding. -/
theorem ofDecimal_eq_finite {c m : Nat} {scale : Int} {h : Representable m}
    (hread : ofDecimal false c scale = .finite false m h) (negative : Bool) :
    ofDecimal negative c scale = .finite negative m h := by
  have hquotient {num den : Nat} (hfalse : ofQuotient false num den = .finite false m h) :
      ofQuotient negative num den = .finite negative m h := by
    rw [ofQuotient] at hfalse ⊢
    split_ifs at hfalse ⊢
    cases hfalse
    rfl
  rcases Nat.eq_zero_or_pos c with rfl | hc
  · rw [ofDecimal, if_pos rfl] at hread ⊢
    cases hread
    rfl
  · rw [ofDecimal_eq_ofQuotient _ hc] at hread ⊢
    exact hquotient hread

end SqlTemplate.Double
