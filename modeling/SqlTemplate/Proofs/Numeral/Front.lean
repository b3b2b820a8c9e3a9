import SqlTemplate.Proofs.Double.Integer
import SqlTemplate.Proofs.Numeral.Literal

/-! A number that is laid out at the front of a text. It is read whole, and no more than it, as long as
what follows cannot be part of a number. -/
namespace SqlTemplate.Numeral

/-- No digit, no point and no letter of an exponent starts the text. -/
def Stops (rest : Text) : Prop :=
  ∀ c ∈ rest.head?, Text.isDecimalDigit c = false ∧ c ∉ ['.', 'e', 'E']

theorem Stops.nil : Stops [] := nofun

section
variable {n : Numeral} {rest : Text}

theorem Stops.head?_ne (h : Stops rest) {c : Char} (hc : c ∈ ['.', 'e', 'E']) :
    rest.head? ≠ some c := fun hhead => (h c hhead).2 hc

theorem Stops.endsAt (h : Stops rest) (n : Numeral) : n.EndsAt rest := by
  refine ⟨fun c hc => (h c hc).1, fun _ _ => h.head?_ne (by decide), fun _ => ?_⟩
  cases rest with
  | nil => rfl
  | cons c more =>
    have hmark : ¬ (c = 'e' ∨ c = 'E') := by
      rintro (rfl | rfl)
      · exact h.head?_ne (by decide) rfl
      · exact h.head?_ne (by decide) rfl
    rw [takeExponent, if_neg hmark]

theorem Laid.scan_text_append (h : n.Laid) (hrest : Stops rest) :
    scan (n.text ++ rest) = some (n, rest) :=
  Numeral.scan_text_append h.wellFormed (hrest.endsAt n)

/-- A number does not begin with white space. -/
theorem Laid.dropWhile_isBlank_append (h : n.Laid) (rest : Text) :
    (n.text ++ rest).dropWhile Text.isBlank = n.text ++ rest := by
  obtain ⟨c, more, htext, -⟩ := h.exists_text_cons
  have hblank := h.wellFormed.isBlank_of_mem (htext ▸ List.mem_cons_self)
  rw [htext, List.cons_append, List.dropWhile_cons_of_neg (by simp [hblank])]

theorem Laid.leadingDouble_append (h : n.Laid) (hrest : Stops rest) :
    leadingDouble (n.text ++ rest) = n.toDouble := by
  simp only [leadingDouble, leading?, h.dropWhile_isBlank_append, h.scan_text_append hrest,
    Option.map_some]

end

end SqlTemplate.Numeral

namespace SqlTemplate.Double

open Numeral (Stops leadingDouble)

/-- A finite double is what its own text stands for at the front of another text. -/
theorem leadingDouble_text_append {d : Double} (h : d.isFinite = true) {rest : Text}
    (hrest : Stops rest) : leadingDouble (d.text ++ rest) = d := by
  cases d with
  | nan => cases h
  | infinite => cases h
  | finite negative m hm =>
    rw [text, ← text_parts, (laid_parts negative m).leadingDouble_append hrest,
      toDouble_parts negative hm]

theorem toDouble_ofInteger (i : Int) :
    (Numeral.ofInteger i).toDouble = ofDecimal (decide (i < 0)) i.natAbs 0 := by
  have hsign : (Numeral.ofInteger i).isNegative = decide (i < 0) := by
    by_cases hnegative : i < 0 <;>
      simp [Numeral.isNegative, Numeral.ofInteger, Numeral.signOf, hnegative]
  rw [Numeral.toDouble, hsign]
  simp [Numeral.coefficient, Numeral.scale, Numeral.ofInteger, Numeral.ofDigits_digits]

/-- An integer that a double holds exactly is read as that double. -/
theorem toInt?_leadingDouble_ofInt {i : Int} (h : i.natAbs ≤ 2 ^ 53) {rest : Text}
    (hrest : Stops rest) : (leadingDouble (Numeral.ofInt i ++ rest)).toInt? = some i := by
  rw [← Numeral.text_ofInteger, (Numeral.plain_ofInteger i).laid.leadingDouble_append hrest,
    toDouble_ofInteger, toInt?_ofDecimal h]

end SqlTemplate.Double
