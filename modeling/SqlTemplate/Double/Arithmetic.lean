import SqlTemplate.Double.Rounding

/-! Negation of a double, and sums and products of doubles that are not negative. -/
namespace SqlTemplate.Double

def negate : Double → Double
  | .nan => .nan
  | .infinite negative => .infinite !negative
  | .finite negative n h => .finite (!negative) n h

/-- The double nearest to the sum; the signs are taken as positive. -/
def plus : Double → Double → Double
  | .finite _ m _, .finite _ n _ => ofQuotient false (m + n) quanta
  | .nan, _ | _, .nan => .nan
  | _, _ => .infinite false

/-- The double nearest to the product with a whole number, itself rounded first; the sign is taken
as positive. -/
def times (d : Double) (n : Nat) : Double :=
  match d, ofQuotient false n 1 with
  | .finite _ m _, .finite _ k _ => ofQuotient false (m * k) (quanta * quanta)
  | .nan, _ => .nan
  | _, _ => .infinite false

@[simp] theorem negate_negate (d : Double) : d.negate.negate = d := by
  cases d <;> simp [negate]

end SqlTemplate.Double
