import SqlTemplate.Double.Basic

/-! Rounding to the nearest double, ties to the even neighbour. -/
namespace SqlTemplate.Double

/-- The whole number nearest to a quotient; of two that are equally near, the even one. -/
def roundQuotient (num den : Nat) : Nat :=
  let q := num / den
  let r := num % den
  if 2 * r < den then q
  else if den < 2 * r then q + 1
  else q + q % 2

/-- An exact quotient rounds to itself. -/
theorem roundQuotient_mul (k den : Nat) (h : 0 < den) : roundQuotient (k * den) den = k := by
  simp [roundQuotient, h]

theorem le_roundQuotient (num den : Nat) : num / den ≤ roundQuotient num den := by
  simp only [roundQuotient]
  split
  · exact Nat.le_refl _
  · split <;> omega

theorem roundQuotient_le (num den : Nat) : roundQuotient num den ≤ num / den + 1 := by
  simp only [roundQuotient]
  split
  · omega
  · split <;> omega

/-- The quanta nearest to `num / den`, of those that 53 bits hold. -/
def nearestMagnitude (num den : Nat) : Nat :=
  let step := spacing (num * quanta / den)
  roundQuotient (num * quanta) (den * step) * step

/-- A multiple of a power of two that 53 bits hold is on the grid of its own size. -/
theorem mod_spacing_of_le {k s : Nat} (h : k ≤ Nat.pow 2 53) :
    k * Nat.pow 2 s % spacing (k * Nat.pow 2 s) = 0 := by
  apply Nat.mod_eq_zero_of_dvd
  unfold spacing
  rw [Nat.pow_eq] at h
  rw [Nat.pow_eq, Nat.pow_eq]
  by_cases hk : k = 0
  · simp [hk]
  have hpos : k * 2 ^ s ≠ 0 := Nat.mul_ne_zero hk (Nat.pos_iff_ne_zero.1 (Nat.two_pow_pos s))
  rcases Nat.lt_or_eq_of_le h with hlt | rfl
  · have hlog : (k * 2 ^ s).log2 < 53 + s := by
      rw [Nat.log2_lt hpos, Nat.pow_add]
      exact Nat.mul_lt_mul_of_pos_right hlt (Nat.two_pow_pos s)
    exact Nat.dvd_trans (Nat.pow_dvd_pow 2 (by omega)) (Nat.dvd_mul_left ..)
  · rw [← Nat.pow_add, Nat.log2_two_pow]
    exact Nat.pow_dvd_pow 2 (by omega)

theorem nearestMagnitude_mod_spacing (num den : Nat) :
    nearestMagnitude num den % spacing (nearestMagnitude num den) = 0 := by
  simp only [nearestMagnitude]
  generalize hq : num * quanta / den = q
  have hspace : spacing q = 2 ^ (q.log2 - 52) := rfl
  apply mod_spacing_of_le
  rw [hspace, Nat.pow_eq]
  have h1 := roundQuotient_le (num * quanta) (den * 2 ^ (q.log2 - 52))
  have h2 : num * quanta / (den * 2 ^ (q.log2 - 52)) < 2 ^ 53 := by
    rw [← Nat.div_div_eq_div_mul, hq, Nat.div_lt_iff_lt_mul (Nat.two_pow_pos _), ← Nat.pow_add]
    exact Nat.lt_of_lt_of_le Nat.lt_log2_self (Nat.pow_le_pow_right (by decide) (by omega))
  omega

/-- The double nearest to the quotient; one beyond the largest double is infinite. -/
def ofQuotient (negative : Bool) (num den : Nat) : Double :=
  if h : nearestMagnitude num den < bound then
    .finite negative (nearestMagnitude num den) ⟨h, nearestMagnitude_mod_spacing num den⟩
  else .infinite negative

/-- The double itself, unless it is infinite. -/
def unlessInfinite? : Double → Option Double
  | .infinite _ => none
  | d => some d

/-- The double nearest to an integer; none when it is beyond the largest double. -/
def ofInt? : Int → Option Double
  | .ofNat n => (ofQuotient false n 1).unlessInfinite?
  | .negSucc n => (ofQuotient true (n + 1) 1).unlessInfinite?

/-- No decimal scale above this one has a finite double. -/
def greatestScale : Int := 310

/-- The double nearest to `coefficient * 10 ^ scale`. A scale far out of range settles the
answer without its power of ten. -/
def ofDecimal (negative : Bool) (coefficient : Nat) (scale : Int) : Double :=
  if coefficient = 0 then .finite negative 0 representable_zero
  else if greatestScale < scale then .infinite negative
  else if scale < -330 - (coefficient.log2 + 1 : Nat) then .finite negative 0 representable_zero
  else if 0 ≤ scale then ofQuotient negative (coefficient * Nat.pow 10 scale.toNat) 1
  else ofQuotient negative coefficient (Nat.pow 10 (-scale).toNat)

example : roundQuotient 5 2 = 2 ∧ roundQuotient 7 2 = 4 ∧ roundQuotient 8 3 = 3 := by decide

end SqlTemplate.Double
