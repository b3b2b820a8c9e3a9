import Mathlib.Algebra.Order.Group.Nat
import SqlTemplate.Proofs.Numeral.Written

/-! The digits of a number read as that number. -/
namespace SqlTemplate.Numeral

theorem digitValue?_digitChar {d : Nat} (h : d < 10) :
    Text.digitValue? (Nat.digitChar d) = some d := by
  have hall : ∀ d < 10, Text.digitValue? (Nat.digitChar d) = some d := by decide
  exact hall d h

theorem ofDigits_append_singleton (row : Text) (c : Char) :
    ofDigits (row ++ [c]) = 10 * ofDigits row + (Text.digitValue? c).getD 0 := by
  simp [ofDigits, List.foldl_append]

theorem ofDigits_append (row more : Text) :
    ofDigits (row ++ more) = ofDigits row * 10 ^ more.length + ofDigits more := by
  induction more generalizing row with
  | nil => simp [ofDigits]
  | cons c more ih =>
    have hfirst : ofDigits (c :: more) = ofDigits [c] * 10 ^ more.length + ofDigits more := ih [c]
    have hlast : ofDigits (row ++ [c]) = 10 * ofDigits row + ofDigits [c] := by
      have hsingle : ofDigits [c] = (Text.digitValue? c).getD 0 := by simp [ofDigits]
      rw [ofDigits_append_singleton, hsingle]
    rw [List.append_cons, ih, hfirst, hlast, List.length_cons, Nat.add_mul, Nat.add_assoc,
      Nat.pow_succ', Nat.mul_assoc, Nat.mul_left_comm]

theorem ofDigits_zeros_append (n : Nat) (row : Text) :
    ofDigits (List.replicate n '0' ++ row) = ofDigits row := by
  induction n with
  | zero => rfl
  | succ n ih =>
    have hzero : ofDigits ['0'] = 0 := rfl
    rw [List.replicate_succ, List.cons_append, ← List.singleton_append, ofDigits_append, ih, hzero]
    simp

theorem ofDigits_append_zeros (row : Text) (n : Nat) :
    ofDigits (row ++ List.replicate n '0') = ofDigits row * 10 ^ n := by
  have hzeros : ofDigits (List.replicate n '0') = 0 := by
    simpa [ofDigits] using ofDigits_zeros_append n []
  rw [ofDigits_append, hzeros, List.length_replicate, Nat.add_zero]

theorem ofDigits_digits (n : Nat) : ofDigits (digits n) = n := by
  induction n using Nat.strongRecOn with
  | ind n ih =>
    by_cases hsmall : n < 10
    · rw [digits, Nat.toDigits_of_lt_base hsmall]
      simp [ofDigits, digitValue?_digitChar hsmall]
    · have hrest := ih (n / 10) (by omega)
      have hlast : n % 10 < 10 := Nat.mod_lt n (by decide)
      rw [digits] at hrest
      rw [digits, Nat.toDigits_of_base_le (by decide) (by omega), ofDigits_append_singleton, hrest,
        digitValue?_digitChar hlast]
      simp only [Option.getD_some]
      omega

/-- A digit that is zero stands in front of no other digit. -/
theorem digits_eq_zero_or_head?_ne (n : Nat) : digits n = ['0'] ∨ (digits n).head? ≠ some '0' := by
  rcases Nat.eq_zero_or_pos n with rfl | hpos
  · exact .inl rfl
  · exact .inr (head?_digits hpos)

/-- The sign that an integer is written with. -/
def signOf (i : Int) : Text := if i < 0 then ['-'] else []

theorem signed_digits (i : Int) : signed (signOf i) (digits i.natAbs) = i := by
  by_cases hnegative : i < 0
  · simp only [signed, signOf, hnegative, ↓reduceIte, ofDigits_digits]
    omega
  · simp only [signed, signOf, hnegative, ↓reduceIte, ofDigits_digits, List.nil_eq, reduceCtorEq]
    omega

/-- The parts that an integer is written from: a sign and a whole part. -/
def ofInteger (i : Int) : Numeral := ⟨signOf i, digits i.natAbs, none, none⟩

@[simp] theorem text_ofInteger (i : Int) : (ofInteger i).text = ofInt i := by
  cases i with
  | ofNat n => simp [ofInteger, signOf, Numeral.text, fractionText, ofInt]
  | negSucc n =>
    simp [ofInteger, signOf, Numeral.text, fractionText, ofInt, Int.negSucc_lt_zero]

theorem plain_ofInteger (i : Int) : (ofInteger i).Plain := by
  by_cases hnegative : i < 0
  · have hsign : signOf i = ['-'] := if_pos hnegative
    refine ⟨.inr hsign, asciiDigits_digits _, nofun, nofun, fun _ => ?_⟩
    have hhead := @head?_digits i.natAbs (by omega)
    obtain ⟨c, row, hrow⟩ := List.exists_cons_of_ne_nil (digits_ne_nil i.natAbs)
    refine ⟨c, ?_, ?_⟩
    · simp [ofInteger, hrow]
    · rintro rfl
      exact hhead (congrArg List.head? hrow)
  · have hsign : signOf i = [] := if_neg hnegative
    refine ⟨.inl hsign, asciiDigits_digits _, nofun, nofun, fun hminus => ?_⟩
    rw [ofInteger, hsign] at hminus
    cases hminus

/-- A number begins with its sign or with a digit. -/
theorem Laid.exists_text_cons {n : Numeral} (h : n.Laid) :
    ∃ c more, n.text = c :: more ∧ (c = '-' ∨ c.isDigit = true) := by
  obtain ⟨c, row, hwhole⟩ := List.exists_cons_of_ne_nil h.whole.ne_nil
  have hdigit := h.whole.isDigit c (hwhole ▸ List.mem_cons_self)
  let after := fractionText n.fraction ++ (n.exponent.map Exponent.text).getD []
  rcases h.sign with hsign | hsign
  · exact ⟨c, row ++ after, by simp [Numeral.text, hsign, hwhole, after], .inr hdigit⟩
  · exact ⟨'-', n.whole ++ after, by simp [Numeral.text, hsign, after], .inl rfl⟩

end SqlTemplate.Numeral
