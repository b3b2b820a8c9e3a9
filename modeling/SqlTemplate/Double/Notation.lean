import SqlTemplate.Double.Shortest

/-! The decimal text of a double: the shortest digits, positional or with an exponent. -/
namespace SqlTemplate.Double

/-- Which exponents are written positionally, and how many digits an exponent has at least. -/
structure Layout where
  leastPositional : Int
  greatestPositional : Int
  exponentDigits : Nat
  deriving DecidableEq, Repr

/-- Numbers from `0.0001` to below `1e16` are positional; an exponent has a sign and two digits. -/
def layout : Layout := ⟨-4, 15, 2⟩

/-- At least `width` digits, filled with zeros. -/
def padded (width n : Nat) : Text :=
  let written := Numeral.digits n
  List.replicate (width - written.length) '0' ++ written

/-- The digits around a point, with a zero where either side is empty. -/
def positional (d : Digits) : Text :=
  if d.point ≤ 0 then '0' :: '.' :: List.replicate (-d.point).toNat '0' ++ d.digits
  else if d.digits.length ≤ d.point.toNat then
    d.digits ++ List.replicate (d.point.toNat - d.digits.length) '0' ++ ['.', '0']
  else d.digits.take d.point.toNat ++ '.' :: d.digits.drop d.point.toNat

/-- One digit, the others behind a point if there are any, and a signed exponent. -/
def scientific (exponentDigits : Nat) (d : Digits) : Text :=
  let exponent := d.point - 1
  let fraction := if d.digits.length ≤ 1 then [] else '.' :: d.digits.drop 1
  d.digits.take 1 ++ fraction ++ 'e' :: (if exponent < 0 then '-' else '+') ::
    padded exponentDigits exponent.natAbs

def Layout.write (l : Layout) (d : Digits) : Text :=
  if l.leastPositional ≤ d.point - 1 ∧ d.point - 1 ≤ l.greatestPositional then positional d
  else scientific l.exponentDigits d

def magnitudeText (magnitude : Nat) : Text :=
  if magnitude = 0 then ['0', '.', '0'] else layout.write (shortest magnitude)

def signText (negative : Bool) : Text := if negative then ['-'] else []

/-- The text of a double; a zero keeps its sign. -/
def text : Double → Text
  | .nan => ['n', 'a', 'n']
  | .infinite negative => signText negative ++ ['i', 'n', 'f']
  | .finite negative magnitude _ => signText negative ++ magnitudeText magnitude

example : layout.write ⟨['1', '5'], 1⟩ = ['1', '.', '5'] := by decide
example : layout.write ⟨['1'], 23⟩ = ['1', 'e', '+', '2', '2'] := by decide
example : layout.write ⟨['1'], -4⟩ = ['1', 'e', '-', '0', '5'] := by decide
example : layout.write ⟨['2'], 16⟩ = "2000000000000000.0".toList := by decide +kernel

end SqlTemplate.Double
