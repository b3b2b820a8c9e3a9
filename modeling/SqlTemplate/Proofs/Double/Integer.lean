import SqlTemplate.Proofs.Double.Decimal

/-! Integers as doubles. The double nearest to an integer is an integer too, and up to `2 ^ 53` it is
the same one. -/
namespace SqlTemplate.Double

/-- What is on the grid of its own size stays. -/
theorem roundToGrid_of_mod {n : Nat} (h : n % spacing n = 0) : roundToGrid n = n := by
  have hgrid : n / spacing n * spacing n = n := Nat.div_mul_cancel (Nat.dvd_of_mod_eq_zero h)
  have hexact := roundQuotient_mul (n / spacing n) (spacing n) (spacing_pos n)
  rw [hgrid] at hexact
  rw [roundToGrid, hexact, hgrid]

/-- The steps of the grid are parts of one, or multiples of it. -/
theorem quanta_dvd_roundToGrid (c : Nat) : quanta ∣ roundToGrid (c * quanta) := by
  obtain ⟨e, -, hquanta⟩ := exists_quanta_eq
  let s := (c * quanta).log2 - 52
  have hspacing : spacing (c * quanta) = 2 ^ s := rfl
  rcases Nat.le_total e s with hlarge | hsmall
  · have hstep : quanta ∣ spacing (c * quanta) := by
      rw [hspacing, hquanta]
      exact Nat.pow_dvd_pow 2 hlarge
    exact Nat.dvd_trans hstep (Nat.dvd_mul_left ..)
  · have hstep : spacing (c * quanta) ∣ c * quanta := by
      rw [hspacing, hquanta]
      exact Nat.dvd_trans (Nat.pow_dvd_pow 2 hsmall) (Nat.dvd_mul_left ..)
    rw [roundToGrid_of_mod (Nat.mod_eq_zero_of_dvd hstep)]
    exact Nat.dvd_mul_left quanta c

theorem roundToGrid_of_le {c : Nat} (h : c ≤ 2 ^ 53) :
    roundToGrid (c * quanta) = c * quanta := by
  obtain ⟨e, -, hquanta⟩ := exists_quanta_eq
  have hmod := @mod_spacing_of_le c e h
  rw [Nat.pow_eq, ← hquanta] at hmod
  exact roundToGrid_of_mod hmod

theorem ofDecimal_zero_scale (negative : Bool) {c : Nat} (hc : 0 < c) :
    ofDecimal negative c 0 = ofQuotient negative c 1 := by
  rw [ofDecimal_eq_ofQuotient negative hc]
  simp

/-- The integer of a sign and a size. -/
def signedInt (negative : Bool) (n : Nat) : Int := if negative then -(n : Int) else n

theorem toInt?_finite {negative : Bool} {m k : Nat} {h : Representable m} (hm : m = k * quanta) :
    (Double.finite negative m h).toInt? = some (signedInt negative k) := by
  have hremainder : m % quanta = 0 := by rw [hm, Nat.mul_mod_left]
  have hquotient : m / quanta = k := by rw [hm, Nat.mul_div_cancel k quanta_pos]
  cases negative <;> simp [toInt?, truncate?, signedInt, hremainder, hquotient]

theorem truncate?_of_toInt? {d : Double} {i : Int} (h : d.toInt? = some i) :
    d.truncate? = some i := by
  cases d with
  | finite negative m hm =>
    rw [toInt?, Option.ite_none_right_eq_some] at h
    exact h.2
  | nan => cases h
  | infinite negative => cases h

theorem isFinite_of_toInt? {d : Double} {i : Int} (h : d.toInt? = some i) : d.isFinite = true := by
  cases d with
  | finite => rfl
  | nan => cases h
  | infinite => cases h

/-- Below the threshold the double nearest to an integer is an integer. -/
theorem exists_toInt?_ofDecimal {c : Nat} (h : c < overflowThreshold) (negative : Bool) :
    ∃ k, (ofDecimal negative c 0).toInt? = some (signedInt negative k) ∧
      (c ≤ 2 ^ 53 → k = c) := by
  rcases Nat.eq_zero_or_pos c with rfl | hc
  · refine ⟨0, ?_, fun _ => rfl⟩
    rw [ofDecimal, if_pos rfl]
    exact toInt?_finite (Nat.zero_mul quanta).symm
  · obtain ⟨k, hk⟩ := quanta_dvd_roundToGrid c
    rw [Nat.mul_comm quanta k] at hk
    have hnearest : nearestMagnitude c 1 = k * quanta := by rw [nearestMagnitude_one, hk]
    have hbound : nearestMagnitude c 1 < bound :=
      Nat.not_le.mp fun hle => Nat.not_le.mpr h (bound_le_nearestMagnitude_iff.mp hle)
    refine ⟨k, ?_, fun hsmall => ?_⟩
    · rw [ofDecimal_zero_scale negative hc, ofQuotient, dif_pos hbound]
      exact toInt?_finite hnearest
    · rw [roundToGrid_of_le hsmall] at hk
      exact (Nat.mul_right_cancel quanta_pos hk).symm

theorem isFinite_of_ofInt? {i : Int} {d : Double} (h : ofInt? i = some d) : d.isFinite = true := by
  have hquotient {negative : Bool} {n : Nat}
      (hd : (ofQuotient negative n 1).unlessInfinite? = some d) : d.isFinite = true := by
    by_cases hbound : nearestMagnitude n 1 < bound
    · rw [ofQuotient, dif_pos hbound, unlessInfinite?, Option.some.injEq] at hd
      · rw [← hd]
        rfl
      · simp
    · rw [ofQuotient, dif_neg hbound, unlessInfinite?] at hd
      cases hd
  cases i with
  | ofNat n =>
    rw [ofInt?] at h
    exact hquotient h
  | negSucc n =>
    rw [ofInt?] at h
    exact hquotient h

theorem lt_overflowThreshold {c : Nat} (h : c ≤ 2 ^ 53) : c < overflowThreshold := by
  have hgap {a b : Nat} (hb : 54 ≤ b) (hab : b < a) : 2 ^ 53 < Nat.pow 2 a - Nat.pow 2 b := by
    simp only [Nat.pow_eq]
    have hlow : 2 ^ 54 ≤ 2 ^ b := Nat.pow_le_pow_right (by decide) hb
    have hhigh : 2 ^ (b + 1) ≤ 2 ^ a := Nat.pow_le_pow_right (by decide) hab
    omega
  refine Nat.lt_of_le_of_lt h ?_
  unfold overflowThreshold
  apply hgap <;> decide

theorem signedInt_natAbs (i : Int) : signedInt (decide (i < 0)) i.natAbs = i := by
  by_cases hnegative : i < 0
  · simp only [signedInt, hnegative, decide_true, ↓reduceIte]
    omega
  · simp only [signedInt, hnegative, decide_false, Bool.false_eq_true, ↓reduceIte]
    omega

/-- An integer becomes the double that its decimal is rounded to. -/
theorem ofInt?_eq_ofDecimal (i : Int) :
    ofInt? i = (ofDecimal (decide (i < 0)) i.natAbs 0).unlessInfinite? := by
  cases i with
  | ofNat n =>
    have hsign : decide (Int.ofNat n < 0) = false := by simp
    have habs : (Int.ofNat n).natAbs = n := rfl
    rw [hsign, habs]
    rcases Nat.eq_zero_or_pos n with rfl | hn
    · have hzero : 2 * (0 * quanta) < 1 := by simp
      rw [ofInt?, ofQuotient_small false hzero, ofDecimal, if_pos rfl]
    · rw [ofDecimal_zero_scale false hn]
      rfl
  | negSucc n =>
    have hsign : decide (Int.negSucc n < 0) = true := by simp [Int.negSucc_lt_zero]
    rw [hsign, Int.natAbs_negSucc, ofDecimal_zero_scale true (Nat.succ_pos n)]
    rfl

theorem unlessInfinite?_of_isFinite {d : Double} (h : d.isFinite = true) :
    d.unlessInfinite? = some d := by
  cases d with
  | finite => rfl
  | nan => rfl
  | infinite => cases h

theorem toInt?_ofDecimal {i : Int} (h : i.natAbs ≤ 2 ^ 53) :
    (ofDecimal (decide (i < 0)) i.natAbs 0).toInt? = some i := by
  obtain ⟨k, hk, hexact⟩ := exists_toInt?_ofDecimal (lt_overflowThreshold h) (decide (i < 0))
  rw [hk, hexact h, signedInt_natAbs]

/-- Up to `2 ^ 53` the double of an integer equals it. -/
theorem exists_ofInt?_toInt? {i : Int} (h : i.natAbs ≤ 2 ^ 53) :
    ∃ d, ofInt? i = some d ∧ d.toInt? = some i := by
  have hwhole := toInt?_ofDecimal h
  refine ⟨_, ?_, hwhole⟩
  rw [ofInt?_eq_ofDecimal, unlessInfinite?_of_isFinite (isFinite_of_toInt? hwhole)]

theorem ofDecimal_of_overflow {c : Nat} (h : overflowThreshold ≤ c) (negative : Bool) :
    ofDecimal negative c 0 = .infinite negative := by
  have hc : 0 < c := Nat.lt_of_lt_of_le (lt_overflowThreshold (Nat.zero_le _)) h
  rw [ofDecimal_zero_scale negative hc, ofQuotient_large negative h]

end SqlTemplate.Double
