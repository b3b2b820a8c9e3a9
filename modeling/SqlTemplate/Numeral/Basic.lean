import SqlTemplate.Numeral.Digits
import SqlTemplate.Double.Rounding

/-! Decimal numbers as written: a sign, digits around a point, and an exponent. -/
namespace SqlTemplate

/-- The exponent of a number: the letter, the sign and the digits. -/
structure Numeral.Exponent where
  mark : Char
  sign : Text
  digits : Text
  deriving DecidableEq, Repr

/-- The parts of a number. Without a point there is no fraction; its digits may be absent. -/
structure Numeral where
  sign : Text
  whole : Text
  fraction : Option Text
  exponent : Option Numeral.Exponent
  deriving DecidableEq, Repr

namespace Numeral

def Exponent.text (e : Exponent) : Text := e.mark :: e.sign ++ e.digits

def fractionText : Option Text → Text
  | none => []
  | some digits => '.' :: digits

/-- The number as it was written. -/
def text (n : Numeral) : Text :=
  n.sign ++ n.whole ++ fractionText n.fraction ++ (n.exponent.map Exponent.text).getD []

/-- A plus or minus sign at the front, if there is one. -/
def takeSign : Text → Text × Text
  | '+' :: rest => (['+'], rest)
  | '-' :: rest => (['-'], rest)
  | rest => ([], rest)

@[simp] theorem takeSign_append (text : Text) : (takeSign text).1 ++ (takeSign text).2 = text := by
  unfold takeSign
  split <;> rfl

/-- A point with the digits after it; a point alone counts only when `digitsBefore`. -/
def takeFraction (digitsBefore : Bool) : Text → Option Text × Text
  | '.' :: rest =>
    let (digits, after) := spanDigits rest
    if digitsBefore ∨ digits ≠ [] then (some digits, after) else (none, '.' :: rest)
  | rest => (none, rest)

/-- An exponent with at least one digit; a letter without digits is no exponent. -/
def takeExponent : Text → Option Exponent × Text
  | [] => (none, [])
  | mark :: rest =>
    if mark = 'e' ∨ mark = 'E' then
      let (sign, unsigned) := takeSign rest
      let (digits, after) := spanDigits unsigned
      if digits = [] then (none, mark :: rest) else (some ⟨mark, sign, digits⟩, after)
    else (none, mark :: rest)

/-- The longest number at the front of the text, and what follows it. -/
def scan (text : Text) : Option (Numeral × Text) :=
  let (sign, unsigned) := takeSign text
  let (whole, afterWhole) := spanDigits unsigned
  let (fraction, afterFraction) := takeFraction (whole ≠ []) afterWhole
  if whole = [] ∧ fraction = none then none
  else
    let (exponent, rest) := takeExponent afterFraction
    some (⟨sign, whole, fraction, exponent⟩, rest)

/-- A text that is one number from end to end. -/
def ofText? (text : Text) : Option Numeral :=
  match scan text with
  | some (n, []) => some n
  | _ => none

def isNegative (n : Numeral) : Bool := n.sign == ['-']

/-- All digits in a row, as one whole number. -/
def coefficient (n : Numeral) : Nat := ofDigits (n.whole ++ n.fraction.getD [])

/-- The power of ten that the coefficient is scaled by. -/
def scale (n : Numeral) : Int :=
  let written := match n.exponent with
    | none => 0
    | some e => if e.sign = ['-'] then -(ofDigits e.digits : Int) else ofDigits e.digits
  written - (n.fraction.getD []).length

/-- The double nearest to the number. -/
def toDouble (n : Numeral) : Double := .ofDecimal n.isNegative n.coefficient n.scale

/-- The integer that a sign and digits write. -/
def signed (sign digits : Text) : Int :=
  if sign = ['-'] then -(ofDigits digits : Int) else ofDigits digits

theorem takeFraction_append (b : Bool) (text : Text) :
    fractionText (takeFraction b text).1 ++ (takeFraction b text).2 = text := by
  unfold takeFraction
  split
  · next rest =>
    by_cases h : b = true ∨ (spanDigits rest).1 ≠ []
    · simp only [if_pos h]
      simp [fractionText, spanDigits]
    · simp only [if_neg h]
      rfl
  · rfl

theorem takeExponent_append (text : Text) :
    ((takeExponent text).1.map Exponent.text).getD [] ++ (takeExponent text).2 = text := by
  unfold takeExponent
  split
  · rfl
  · next mark rest =>
    by_cases hmark : mark = 'e' ∨ mark = 'E'
    · by_cases h : (spanDigits (takeSign rest).2).1 = []
      · simp [hmark, h]
      · simp only [hmark, h, ↓reduceIte, Option.map_some, Option.getD_some, Exponent.text,
          List.cons_append, List.append_assoc]
        simp [spanDigits]
    · simp [hmark]

/-- Scanning splits the text and changes nothing. -/
theorem scan_append {text rest : Text} {n : Numeral} (h : scan text = some (n, rest)) :
    n.text ++ rest = text := by
  simp only [scan, Option.ite_none_left_eq_some, Option.some.injEq, Prod.mk.injEq] at h
  obtain ⟨_, rfl, rfl⟩ := h
  simp only [Numeral.text, List.append_assoc]
  rw [takeExponent_append, takeFraction_append]
  simp [spanDigits]

example : scan "1.e5x".toList =
    some (⟨[], ['1'], some [], some ⟨'e', [], ['5']⟩⟩, ['x']) := by decide +kernel
example : (scan "-.e5".toList).isNone ∧ (scan "12e+".toList).map (·.2) = some "e+".toList := by
  decide +kernel

end Numeral
end SqlTemplate
