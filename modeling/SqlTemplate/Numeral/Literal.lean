import SqlTemplate.Numeral.Basic
import SqlTemplate.Text.Blank

/-! Texts that are one number from margin to margin. Single underscores may separate digits. -/
namespace SqlTemplate.Numeral

/-- The text without the underscores between digits; none if one stands anywhere else. -/
def dropSeparators? (text : Text) : Option Text :=
  go false text
where
  /-- Goes through the text; `afterDigit` says whether the character before is a digit. -/
  go (afterDigit : Bool) : Text → Option Text
    | [] => some []
    | '_' :: next :: rest =>
      if afterDigit && Text.isDecimalDigit next then (next :: ·) <$> go true rest else none
    | ['_'] => none
    | c :: rest => (c :: ·) <$> go (Text.isDecimalDigit c) rest

/-- The integer that a text writes, unless it has more digits than the limit. -/
def integer? (text : Text) : Option Int := do
  let (sign, digits) := takeSign (← dropSeparators? (Text.trimMargins text))
  if digits ≠ [] ∧ digits.all Text.isDecimalDigit ∧ digits.length ≤ digitLimit then
    some (signed sign digits)
  else none

/-- The doubles that have names, in any case and with any sign. -/
def named? (text : Text) : Option Double :=
  let (sign, name) := takeSign (Text.lowerAscii text)
  if name = ['n', 'a', 'n'] then some .nan
  else if name = ['i', 'n', 'f'] ∨ name = "infinity".toList then some (.infinite (sign = ['-']))
  else none

/-- The double that a text writes or names. -/
def double? (text : Text) : Option Double :=
  let inner := Text.trimMargins text
  (named? inner).or ((dropSeparators? inner).bind ofText? |>.map toDouble)

example : integer? " -1_000 ".toList = some (-1000) := by decide +kernel
example : integer? "1__0".toList = none ∧ integer? "_1".toList = none := by decide +kernel

end SqlTemplate.Numeral
