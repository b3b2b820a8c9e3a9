import SqlTemplate.Double.Rounding
import SqlTemplate.Numeral.Digits

/-! The fewest decimal digits that read back as the same double. -/
namespace SqlTemplate.Double

/-- The number `coefficient * 10 ^ scale`. -/
structure Decimal where
  coefficient : Nat
  scale : Int
  deriving DecidableEq, Repr

/-- The decimal reads back as this many quanta. -/
def Decimal.ReadsAs (d : Decimal) (magnitude : Nat) : Prop :=
  ∃ h, ofDecimal false d.coefficient d.scale = .finite false magnitude h

instance (d : Decimal) (magnitude : Nat) : Decidable (d.ReadsAs magnitude) :=
  match h : ofDecimal false d.coefficient d.scale with
  | .finite false n r =>
    if hn : n = magnitude then .isTrue ⟨hn ▸ r, by subst hn; exact h⟩
    else .isFalse fun ⟨_, e⟩ => by rw [h] at e; cases e; exact hn rfl
  | .finite true _ _ => .isFalse fun ⟨_, e⟩ => by rw [h] at e; cases e
  | .infinite _ => .isFalse fun ⟨_, e⟩ => by rw [h] at e; cases e
  | .nan => .isFalse fun ⟨_, e⟩ => by rw [h] at e; cases e

/-- All decimal places of a number of quanta: a quantum is `5 ^ 1074` units of place 1074. -/
def exact (magnitude : Nat) : Decimal := ⟨magnitude * Nat.pow 5 1074, -1074⟩

/-- The two neighbours of a decimal on the grid with `dropped` places less, the nearer one first;
of two that are equally near, the even one. -/
def Decimal.neighbours (d : Decimal) (dropped : Nat) : List Decimal :=
  let unit := Nat.pow 10 dropped
  let below : Decimal := ⟨d.coefficient / unit, d.scale + dropped⟩
  let above : Decimal := ⟨d.coefficient / unit + 1, d.scale + dropped⟩
  if roundQuotient d.coefficient unit = below.coefficient then [below, above] else [above, below]

/-- The most digits that are tried before all the places. -/
def mostDigits : Nat := 17

/-- The first grid, from one digit on, with a point that reads back, and there the nearer such
point; all the places if no grid has one. -/
def shortestDecimal (magnitude : Nat) : Decimal :=
  let full := exact magnitude
  let length := (Numeral.digits full.coefficient).length
  let candidates := (List.range mostDigits).flatMap fun k => full.neighbours (length - (k + 1))
  (candidates.find? fun d => d.ReadsAs magnitude).getD full

/-- Significant digits without a final zero, and the place of the point from their front. -/
structure Digits where
  digits : Text
  point : Int
  deriving DecidableEq, Repr

/-- The digits of a decimal, without the zeros at its end. -/
def Decimal.toDigits (d : Decimal) : Digits :=
  let written := Numeral.digits d.coefficient
  ⟨(written.reverse.dropWhile (· == '0')).reverse, d.scale + written.length⟩

def shortest (magnitude : Nat) : Digits := (shortestDecimal magnitude).toDigits

end SqlTemplate.Double
