import Mathlib.Data.Nat.Notation
import SqlTemplate.Numeral.Basic

/-! The decimal texts that numbers are written as. They hold ASCII digits only, whatever the script
of the digits that a number was read from. -/
namespace SqlTemplate.Numeral

/-- A row of ASCII digits that is not empty. -/
structure AsciiDigits (row : Text) : Prop where
  ne_nil : row ≠ []
  isDigit : ∀ c ∈ row, c.isDigit = true

namespace AsciiDigits
variable {row other : Text}

theorem append_left (h : AsciiDigits row) (hother : ∀ c ∈ other, c.isDigit = true) :
    AsciiDigits (other ++ row) := by
  refine ⟨?_, ?_⟩
  · intro hnil
    exact h.ne_nil (List.append_eq_nil_iff.mp hnil).2
  · intro c hc
    rcases List.mem_append.mp hc with hc | hc
    · exact hother c hc
    · exact h.isDigit c hc

theorem append_right (h : AsciiDigits row) (hother : ∀ c ∈ other, c.isDigit = true) :
    AsciiDigits (row ++ other) := by
  refine ⟨?_, ?_⟩
  · intro hnil
    exact h.ne_nil (List.append_eq_nil_iff.mp hnil).1
  · intro c hc
    rcases List.mem_append.mp hc with hc | hc
    · exact h.isDigit c hc
    · exact hother c hc

theorem take (h : AsciiDigits row) {n : Nat} (hn : 0 < n) : AsciiDigits (row.take n) := by
  refine ⟨?_, fun c hc => h.isDigit c (List.mem_of_mem_take hc)⟩
  intro hnil
  rcases List.take_eq_nil_iff.mp hnil with hzero | hrow
  · omega
  · exact h.ne_nil hrow

theorem drop (h : AsciiDigits row) {n : Nat} (hn : n < row.length) : AsciiDigits (row.drop n) := by
  refine ⟨?_, fun c hc => h.isDigit c (List.mem_of_mem_drop hc)⟩
  intro hnil
  have hlength := List.drop_eq_nil_iff.mp hnil
  omega

end AsciiDigits

theorem isDigit_of_mem_zeros {n : Nat} : ∀ c ∈ List.replicate n '0', c.isDigit = true := by
  intro c hc
  rw [List.eq_of_mem_replicate hc]
  rfl

theorem asciiDigits_digits (n : Nat) : AsciiDigits (digits n) :=
  ⟨digits_ne_nil n, fun _ hc => Nat.isDigit_of_mem_toDigits (by decide) (by decide) hc⟩

/-- The digits of a number begin with a zero only if the number is zero. -/
theorem head?_digits {n : Nat} (h : 0 < n) : (digits n).head? ≠ some '0' := by
  induction n using Nat.strongRecOn with
  | ind n ih =>
    by_cases hsmall : n < 10
    · rw [digits, Nat.toDigits_of_lt_base hsmall]
      have hone : ∀ d < 10, 0 < d → [Nat.digitChar d].head? ≠ some '0' := by decide
      exact hone n hsmall h
    · have hrest := ih (n / 10) (by omega) (by omega)
      rw [digits, Nat.toDigits_of_base_le (by decide) (by omega), List.head?_append]
      rw [digits] at hrest
      cases hhead : (Nat.toDigits 10 (n / 10)).head? with
      | none => exact (Nat.toDigits_ne_nil (List.head?_eq_none_iff.mp hhead)).elim
      | some c =>
        rw [hhead] at hrest
        exact hrest

/-- A whole number in decimal: zero alone, or digits without a zero in front, with a minus sign or
without. -/
inductive IsInteger : Text → Prop
  | zero : IsInteger ['0']
  | nonzero {sign row : Text} (signed : sign = [] ∨ sign = ['-']) (digits : AsciiDigits row)
      (leading : row.head? ≠ some '0') : IsInteger (sign ++ row)

theorem isInteger_ofInt (i : Int) : IsInteger (ofInt i) := by
  match i with
  | .ofNat 0 => exact .zero
  | .ofNat (n + 1) =>
    exact .nonzero (.inl rfl) (asciiDigits_digits _) (head?_digits (Nat.succ_pos n))
  | .negSucc n =>
    exact .nonzero (.inr rfl) (asciiDigits_digits _) (head?_digits (Nat.succ_pos n))

/-- A number as it is laid out: ASCII digits, a minus sign or none, and an exponent, if there is one,
with a sign. A zero may have a minus sign. -/
structure Laid (n : Numeral) : Prop where
  sign : n.sign = [] ∨ n.sign = ['-']
  whole : AsciiDigits n.whole
  fraction : ∀ row ∈ n.fraction, AsciiDigits row
  exponent : ∀ e ∈ n.exponent, e.mark = 'e' ∧ (e.sign = ['+'] ∨ e.sign = ['-']) ∧
    AsciiDigits e.digits

/-- A number as it is written: a minus sign or none, digits on both sides of a point if there is
one, and an exponent, if there is one, with a sign and digits. Zero has no minus sign. -/
structure Plain (n : Numeral) : Prop where
  sign : n.sign = [] ∨ n.sign = ['-']
  whole : AsciiDigits n.whole
  fraction : ∀ row ∈ n.fraction, AsciiDigits row
  exponent : ∀ e ∈ n.exponent, e.mark = 'e' ∧ (e.sign = ['+'] ∨ e.sign = ['-']) ∧
    AsciiDigits e.digits
  nonzero : n.sign = ['-'] → ∃ c ∈ n.whole ++ n.fraction.getD [], c ≠ '0'

theorem Plain.laid {n : Numeral} (h : n.Plain) : n.Laid :=
  ⟨h.sign, h.whole, h.fraction, h.exponent⟩

theorem IsInteger.exists_plain {text : Text} (h : IsInteger text) :
    ∃ n : Numeral, n.Plain ∧ n.text = text := by
  cases h with
  | zero =>
    refine ⟨⟨[], ['0'], none, none⟩, ?_, rfl⟩
    exact ⟨.inl rfl, asciiDigits_digits 0, nofun, nofun, nofun⟩
  | @nonzero sign row signed digits leading =>
    obtain ⟨c, rest, rfl⟩ := List.exists_cons_of_ne_nil digits.ne_nil
    have hfirst : c ≠ '0' := fun hc => leading (congrArg some hc)
    refine ⟨⟨sign, c :: rest, none, none⟩, ⟨signed, digits, nofun, nofun, ?_⟩, ?_⟩
    · intro _
      exact ⟨c, List.mem_cons_self, hfirst⟩
    · simp [Numeral.text, fractionText]

/-- The zero with a minus sign is never written. -/
theorem Plain.ne_minus_zero {n : Numeral} (h : n.Plain) : n.text ≠ ['-', '0'] := by
  intro htext
  obtain ⟨first, rest, hwhole⟩ := List.exists_cons_of_ne_nil h.whole.ne_nil
  have hdigit := h.whole.isDigit first (hwhole ▸ List.mem_cons_self)
  rcases h.sign with hsign | hsign
  · simp only [Numeral.text, hsign, hwhole, List.nil_append, List.cons_append,
      List.cons.injEq] at htext
    rw [htext.1] at hdigit
    cases hdigit
  · obtain ⟨c, hc, hne⟩ := h.nonzero hsign
    simp only [Numeral.text, hsign, hwhole, List.cons_append, List.nil_append, List.cons.injEq,
      true_and, List.append_eq_nil_iff] at htext
    obtain ⟨hfirst, ⟨hrest, hfraction⟩, -⟩ := htext
    cases hrow : n.fraction with
    | none =>
      rw [hwhole, hrow, hfirst, hrest] at hc
      exact hne (List.mem_singleton.mp hc)
    | some row =>
      rw [hrow] at hfraction
      cases hfraction

/-- No other characters stand in a number that is written. -/
theorem Laid.isDigit_or_mem {n : Numeral} (h : n.Laid) {c : Char} (hc : c ∈ n.text) :
    c.isDigit = true ∨ c ∈ ['-', '+', '.', 'e'] := by
  simp only [Numeral.text, List.mem_append] at hc
  rcases hc with ((hsign | hwhole) | hfraction) | hexponent
  · rcases h.sign with hnone | hminus
    · simp [hnone] at hsign
    · rw [hminus, List.mem_singleton] at hsign
      exact .inr (hsign ▸ List.mem_cons_self)
  · exact .inl (h.whole.isDigit c hwhole)
  · cases hrow : n.fraction with
    | none => simp [hrow, fractionText] at hfraction
    | some row =>
      rw [hrow, fractionText] at hfraction
      rcases List.mem_cons.mp hfraction with rfl | hmem
      · right
        decide
      · exact .inl ((h.fraction row hrow).isDigit c hmem)
  · cases he : n.exponent with
    | none => simp [he] at hexponent
    | some e =>
      obtain ⟨hmark, hsign, hdigits⟩ := h.exponent e he
      simp only [he, Option.map_some, Option.getD_some, Exponent.text, hmark, List.cons_append,
        List.mem_cons, List.mem_append] at hexponent
      rcases hexponent with rfl | hmem | hmem
      · right
        decide
      · right
        rcases hsign with hplus | hminus
        · rw [hplus, List.mem_singleton] at hmem
          subst hmem
          decide
        · rw [hminus, List.mem_singleton] at hmem
          subst hmem
          decide
      · exact .inl (hdigits.isDigit c hmem)

theorem Plain.isDigit_or_mem {n : Numeral} (h : n.Plain) {c : Char} (hc : c ∈ n.text) :
    c.isDigit = true ∨ c ∈ ['-', '+', '.', 'e'] := h.laid.isDigit_or_mem hc

end SqlTemplate.Numeral
