import SqlTemplate.Numeral.Basic
import SqlTemplate.Text.Blank

/-! The number at the front of a text, after white space, whatever follows it. -/
namespace SqlTemplate.Numeral

/-- The longest number after the white space. -/
def leading? (text : Text) : Option Numeral :=
  (scan (text.dropWhile Text.isBlank)).map (·.1)

/-- The sign and digits after the white space, unless a point or an exponent letter follows. -/
def leadingInteger? (text : Text) : Option (Text × Text) :=
  let (sign, unsigned) := takeSign (text.dropWhile Text.isBlank)
  let (digits, after) := spanDigits unsigned
  if digits = [] ∨ after.head? = some '.' ∨ after.head? = some 'e' ∨ after.head? = some 'E' then
    none
  else some (sign, digits)

/-- The double that the front of a text stands for; zero when no number is there. -/
def leadingDouble (text : Text) : Double :=
  match leading? text with
  | some n => n.toDouble
  | none => .zero

example : leadingInteger? [' ', '-', '4', '2', 'x'] = some (['-'], ['4', '2']) := by decide +kernel
example : leadingInteger? ['1', '2', '.', '5'] = none := by decide +kernel

end SqlTemplate.Numeral
