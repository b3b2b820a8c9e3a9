import Mathlib.Data.List.TakeWhile
import Mathlib.Tactic.SplitIfs
import SqlTemplate.Double.Notation
import SqlTemplate.Proofs.Numeral.Written

/-! The text of a finite double other than zero: whatever digits the search for the shortest ones
finds, each of the layouts makes a number of them. -/
namespace SqlTemplate.Double

open Numeral (AsciiDigits isDigit_of_mem_zeros asciiDigits_digits)

/-! No search ends with a coefficient of zero. -/

theorem ofDecimal_zero (scale : Int) : ofDecimal false 0 scale = zero := by
  rw [ofDecimal, if_pos rfl]
  rfl

theorem Decimal.ReadsAs.coefficient_pos {d : Decimal} {m : Nat} (h : d.ReadsAs m) (hm : 0 < m) :
    0 < d.coefficient := by
  rw [Nat.pos_iff_ne_zero]
  intro hzero
  obtain ⟨_, hread⟩ := h
  rw [hzero, ofDecimal_zero] at hread
  cases hread
  exact Nat.lt_irrefl 0 hm

theorem coefficient_exact_pos {m : Nat} (h : 0 < m) : 0 < (exact m).coefficient := by
  have hpower : ∀ k, 0 < Nat.pow 5 k := fun k => Nat.pow_pos (by decide)
  exact Nat.mul_pos h (hpower 1074)

theorem coefficient_shortestDecimal_pos {m : Nat} (h : 0 < m) :
    0 < (shortestDecimal m).coefficient := by
  simp only [shortestDecimal]
  generalize hfound : List.find? _ _ = found
  cases found with
  | none => exact coefficient_exact_pos h
  | some d =>
    have hreads := List.find?_some hfound
    exact (of_decide_eq_true hreads).coefficient_pos h

/-- Digits the first of which is not zero. -/
structure Digits.Nonzero (d : Digits) : Prop where
  ascii : AsciiDigits d.digits
  leading : d.digits.head? ≠ some '0'

theorem Digits.Nonzero.exists_ne {d : Digits} (h : d.Nonzero) : ∃ c ∈ d.digits, c ≠ '0' := by
  obtain ⟨c, more, hdigits⟩ := List.exists_cons_of_ne_nil h.ascii.ne_nil
  refine ⟨c, hdigits ▸ List.mem_cons_self, ?_⟩
  rintro rfl
  exact h.leading (hdigits ▸ rfl)

/-- Only zeros are left off at the end. -/
theorem Decimal.digits_coefficient (d : Decimal) :
    ∃ k, Numeral.digits d.coefficient = d.toDigits.digits ++ List.replicate k '0' := by
  let written := Numeral.digits d.coefficient
  let zeros := written.reverse.takeWhile (· == '0')
  have hzeros : zeros = List.replicate zeros.length '0' := by
    refine List.eq_replicate_iff.mpr ⟨rfl, fun c hc => ?_⟩
    have hzero := List.mem_takeWhile_imp hc
    exact beq_iff_eq.mp hzero
  refine ⟨zeros.length, ?_⟩
  have hreverse : written.reverse = zeros ++ written.reverse.dropWhile (· == '0') :=
    List.takeWhile_append_dropWhile.symm
  calc written = written.reverse.reverse := (List.reverse_reverse written).symm
    _ = (written.reverse.dropWhile (· == '0')).reverse ++ zeros.reverse := by
      rw [hreverse, List.reverse_append, ← hreverse]
    _ = d.toDigits.digits ++ List.replicate zeros.length '0' := by
      rw [hzeros, List.reverse_replicate, List.length_replicate]
      rfl

theorem Decimal.nonzero_toDigits {d : Decimal} (h : 0 < d.coefficient) : d.toDigits.Nonzero := by
  obtain ⟨k, hsplit⟩ := d.digits_coefficient
  have hfirst := Numeral.head?_digits h
  have hall := (asciiDigits_digits d.coefficient).isDigit
  rw [hsplit] at hfirst hall
  have hne : d.toDigits.digits ≠ [] := by
    intro hnil
    have hwritten := Numeral.digits_ne_nil d.coefficient
    rw [hsplit, hnil, List.nil_append] at hwritten
    rw [hnil, List.nil_append] at hfirst
    cases k with
    | zero => exact hwritten rfl
    | succ k => exact hfirst rfl
  refine ⟨⟨hne, fun c hc => hall c (List.mem_append_left _ hc)⟩, ?_⟩
  obtain ⟨c, more, hdigits⟩ := List.exists_cons_of_ne_nil hne
  rw [hdigits] at hfirst ⊢
  exact hfirst

theorem nonzero_shortest {m : Nat} (h : 0 < m) : (shortest m).Nonzero :=
  Decimal.nonzero_toDigits (coefficient_shortestDecimal_pos h)

/-! Both ways to lay the digits out, as the parts of a number. -/

/-- The parts of the positional text. -/
def Digits.positional (sign : Text) (d : Digits) : Numeral :=
  if d.point ≤ 0 then ⟨sign, ['0'], some (List.replicate (-d.point).toNat '0' ++ d.digits), none⟩
  else if d.digits.length ≤ d.point.toNat then
    ⟨sign, d.digits ++ List.replicate (d.point.toNat - d.digits.length) '0', some ['0'], none⟩
  else ⟨sign, d.digits.take d.point.toNat, some (d.digits.drop d.point.toNat), none⟩

/-- The parts of the text with an exponent. -/
def Digits.scientific (width : Nat) (sign : Text) (d : Digits) : Numeral where
  sign := sign
  whole := d.digits.take 1
  fraction := if d.digits.length ≤ 1 then none else some (d.digits.drop 1)
  exponent := some
    ⟨'e', if d.point - 1 < 0 then ['-'] else ['+'], padded width (d.point - 1).natAbs⟩

def Layout.parts (l : Layout) (sign : Text) (d : Digits) : Numeral :=
  if l.leastPositional ≤ d.point - 1 ∧ d.point - 1 ≤ l.greatestPositional then d.positional sign
  else d.scientific l.exponentDigits sign

/-- The parts of the text of a finite double. -/
def parts (negative : Bool) (magnitude : Nat) : Numeral :=
  if magnitude = 0 then ⟨signText negative, ['0'], some ['0'], none⟩
  else layout.parts (signText negative) (shortest magnitude)

section
variable {d : Digits} {sign : Text}

theorem Digits.text_positional : (d.positional sign).text = sign ++ Double.positional d := by
  rw [Digits.positional, Double.positional]
  split_ifs <;> simp [Numeral.text, Numeral.fractionText]

theorem Digits.text_scientific (width : Nat) :
    (d.scientific width sign).text = sign ++ Double.scientific width d := by
  by_cases hsingle : d.digits.length ≤ 1 <;> by_cases hnegative : d.point - 1 < 0 <;>
    simp [Digits.scientific, Double.scientific, Numeral.text, Numeral.fractionText,
      Numeral.Exponent.text, hsingle, hnegative]

theorem Layout.text_parts (l : Layout) : (l.parts sign d).text = sign ++ l.write d := by
  rw [Layout.parts, Layout.write]
  split_ifs
  · exact Digits.text_positional
  · exact Digits.text_scientific l.exponentDigits

theorem text_parts (negative : Bool) (m : Nat) :
    (parts negative m).text = signText negative ++ magnitudeText m := by
  rw [parts, magnitudeText]
  split_ifs
  · simp [Numeral.text, Numeral.fractionText]
  · exact layout.text_parts

theorem asciiDigits_padded (width n : Nat) : AsciiDigits (padded width n) :=
  (asciiDigits_digits n).append_left isDigit_of_mem_zeros

theorem Digits.Nonzero.plain_positional (h : d.Nonzero) (hsign : sign = [] ∨ sign = ['-']) :
    (d.positional sign).Plain := by
  obtain ⟨c, hc, hne⟩ := h.exists_ne
  rw [Digits.positional]
  split_ifs with hsmall hlarge
  · refine ⟨hsign, asciiDigits_digits 0, ?_, nofun, fun _ => ⟨c, by simp [hc], hne⟩⟩
    rintro row ⟨⟩
    exact h.ascii.append_left isDigit_of_mem_zeros
  · refine ⟨hsign, h.ascii.append_right isDigit_of_mem_zeros, ?_, nofun,
      fun _ => ⟨c, by simp [hc], hne⟩⟩
    rintro row ⟨⟩
    exact asciiDigits_digits 0
  · refine ⟨hsign, h.ascii.take (by omega), ?_, nofun, fun _ => ⟨c, by simpa using hc, hne⟩⟩
    rintro row ⟨⟩
    exact h.ascii.drop (by omega)

theorem Digits.Nonzero.plain_scientific (h : d.Nonzero) (hsign : sign = [] ∨ sign = ['-'])
    (width : Nat) : (d.scientific width sign).Plain := by
  obtain ⟨c, hc, hne⟩ := h.exists_ne
  refine ⟨hsign, h.ascii.take (by decide), ?_, ?_, fun _ => ⟨c, ?_, hne⟩⟩
  · intro row hrow
    simp only [Digits.scientific, Option.mem_def, Option.ite_none_left_eq_some,
      Option.some.injEq] at hrow
    obtain ⟨hsingle, rfl⟩ := hrow
    exact h.ascii.drop (by omega)
  · rintro e ⟨⟩
    refine ⟨rfl, ?_, asciiDigits_padded _ _⟩
    split_ifs
    · exact .inr rfl
    · exact .inl rfl
  · by_cases hsingle : d.digits.length ≤ 1
    · simpa [Digits.scientific, hsingle, List.take_of_length_le hsingle] using hc
    · simp only [Digits.scientific, hsingle, ↓reduceIte, Option.getD_some, List.take_append_drop]
      exact hc

theorem Digits.Nonzero.plain_parts (h : d.Nonzero) (hsign : sign = [] ∨ sign = ['-'])
    (l : Layout) : (l.parts sign d).Plain := by
  rw [Layout.parts]
  split_ifs
  · exact h.plain_positional hsign
  · exact h.plain_scientific hsign l.exponentDigits

end

theorem signText_cases (negative : Bool) : signText negative = [] ∨ signText negative = ['-'] := by
  cases negative
  · exact .inl rfl
  · exact .inr rfl

/-- The text of a double is a number, unless the double is a zero or not finite. -/
theorem exists_plain_text {negative : Bool} {m : Nat} (hm : 0 < m) (h : Representable m) :
    ∃ n : Numeral, n.Plain ∧ n.text = (Double.finite negative m h).text := by
  refine ⟨parts negative m, ?_, text_parts negative m⟩
  rw [parts, if_neg (Nat.ne_of_gt hm)]
  exact (nonzero_shortest hm).plain_parts (signText_cases negative) layout

theorem laid_parts (negative : Bool) (m : Nat) : (parts negative m).Laid := by
  rcases Nat.eq_zero_or_pos m with rfl | hm
  · refine ⟨signText_cases negative, asciiDigits_digits 0, ?_, nofun⟩
    rintro row ⟨⟩
    exact asciiDigits_digits 0
  · rw [parts, if_neg (Nat.ne_of_gt hm)]
    exact ((nonzero_shortest hm).plain_parts (signText_cases negative) layout).laid

theorem exists_laid_text {d : Double} (h : d.isFinite = true) :
    ∃ n : Numeral, n.Laid ∧ n.text = d.text := by
  cases d with
  | nan => cases h
  | infinite => cases h
  | finite negative m _ => exact ⟨parts negative m, laid_parts negative m, text_parts negative m⟩

/-- The digits in front of the point begin with a zero only if it stands alone. -/
theorem leading_parts (negative : Bool) (m : Nat) :
    (parts negative m).whole = ['0'] ∨ (parts negative m).whole.head? ≠ some '0' := by
  rcases Nat.eq_zero_or_pos m with rfl | hm
  · exact .inl rfl
  · obtain ⟨hascii, hleading⟩ := nonzero_shortest hm
    obtain ⟨c, more, hdigits⟩ := List.exists_cons_of_ne_nil hascii.ne_nil
    have hfront {n : Nat} (hn : 0 < n) (rest : Text) :
        ((shortest m).digits.take n ++ rest).head? ≠ some '0' := by
      obtain ⟨k, rfl⟩ := Nat.exists_eq_succ_of_ne_zero (Nat.ne_of_gt hn)
      rw [hdigits] at hleading ⊢
      exact hleading
    rw [parts, if_neg (Nat.ne_of_gt hm), Layout.parts]
    split_ifs
    · rw [Digits.positional]
      split_ifs with hsmall hlarge
      · exact .inl rfl
      · right
        have htake := @hfront (shortest m).point.toNat (by omega)
        rw [List.take_of_length_le hlarge] at htake
        exact htake _
      · right
        simpa using @hfront (shortest m).point.toNat (by omega) []
    · right
      simpa [Digits.scientific] using @hfront 1 Nat.one_pos []

/-- A double is never written as an integer is. -/
theorem exponent_parts_ne_none {negative : Bool} {m : Nat}
    (h : (parts negative m).fraction = none) : (parts negative m).exponent ≠ none := by
  rcases Nat.eq_zero_or_pos m with rfl | hm
  · cases h
  · rw [parts, if_neg (Nat.ne_of_gt hm), Layout.parts] at h ⊢
    split_ifs at h ⊢
    · rw [Digits.positional] at h
      split_ifs at h
    · nofun

end SqlTemplate.Double
