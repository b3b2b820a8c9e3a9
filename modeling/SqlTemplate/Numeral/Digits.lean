import SqlTemplate.Text.Digit

/-! Numbers as rows of decimal digits. Writing uses the ASCII digits, without leading zeros;
reading takes the digits of any script. -/
namespace SqlTemplate.Numeral

/-- The longest row of digits at the front, and what follows it. -/
def spanDigits (text : Text) : Text × Text :=
  (text.takeWhile Text.isDecimalDigit, text.dropWhile Text.isDecimalDigit)

/-- The number that a row of digits writes; the empty row is zero. -/
def ofDigits (digits : Text) : Nat :=
  digits.foldl (fun n c => 10 * n + (Text.digitValue? c).getD 0) 0

/-- The ASCII digits of a number. -/
def digits (n : Nat) : Text := Nat.toDigits 10 n

theorem digits_ne_nil (n : Nat) : digits n ≠ [] := Nat.toDigits_ne_nil

/-- An integer in decimal: a minus sign for the negative ones, then the digits. -/
def ofInt : Int → Text
  | .ofNat n => digits n
  | .negSucc n => '-' :: digits (n + 1)

@[simp] theorem ofInt_natCast (n : Nat) : ofInt (n : Int) = digits n := rfl

/-- The longest row of digits that is converted between an integer and its decimal text. -/
def digitLimit : Nat := 4300

/-- The decimal text of an integer whose digits keep within the limit. -/
def ofInt? (i : Int) : Option Text :=
  if (digits i.natAbs).length ≤ digitLimit then some (ofInt i) else none

theorem ofInt?_eq_some {i : Int} {text : Text} (h : ofInt? i = some text) : text = ofInt i := by
  simp only [ofInt?, Option.ite_none_right_eq_some, Option.some.injEq] at h
  exact h.2.symm

example : ofInt (-120) = ['-', '1', '2', '0'] := by decide
example : ofDigits ['0', '٤', '2'] = 42 := by decide

end SqlTemplate.Numeral
