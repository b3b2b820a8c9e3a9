import SqlTemplate.Text.Basic

/-! Double-precision numbers. Every finite one is a whole number of quanta, the quantum being
`2 ^ -1074`, with at most 53 significant bits. -/
namespace SqlTemplate

namespace Double

/-- How many quanta make one. -/
def quanta : Nat := Nat.pow 2 1074

/-- One more than the greatest power of two that a double reaches, in quanta. -/
def boundLog : Nat := 2098

/-- The first number of quanta that is too large. -/
def bound : Nat := Nat.pow 2 boundLog

/-- The weight of the last of the 53 bits that a number of this size keeps. -/
def spacing (n : Nat) : Nat := Nat.pow 2 (n.log2 - 52)

/-- A number of quanta that a double holds exactly. -/
def Representable (n : Nat) : Prop := n < bound ∧ n % spacing n = 0

instance (n : Nat) : Decidable (Representable n) := inferInstanceAs (Decidable (_ ∧ _))

theorem two_pow_lt_two_pow {k n : Nat} (h : k < n) : Nat.pow 2 k < Nat.pow 2 n :=
  Nat.pow_lt_pow_right (by decide) h

theorem two_pow_lt_bound {k : Nat} (h : k < boundLog) : Nat.pow 2 k < bound := by
  unfold bound
  exact @two_pow_lt_two_pow k boundLog h

theorem representable_zero : Representable 0 :=
  ⟨Nat.lt_trans (Nat.two_pow_pos 0) (two_pow_lt_bound (by decide)), Nat.zero_mod _⟩

end Double

/-- A double: the sign is kept for zero and for the infinities. -/
inductive Double
  | nan
  | infinite (negative : Bool)
  | finite (negative : Bool) (magnitude : Nat) (representable : Double.Representable magnitude)
  deriving DecidableEq

namespace Double

def zero : Double := .finite false 0 representable_zero

def isFinite : Double → Bool
  | .finite .. => true
  | _ => false

/-- The whole part, rounded towards zero; none for a number that is not finite. -/
def truncate? : Double → Option Int
  | .finite false n _ => some (n / quanta : Nat)
  | .finite true n _ => some (-(n / quanta : Nat))
  | _ => none

/-- The integer that a double equals, if it equals one. -/
def toInt? (d : Double) : Option Int :=
  match d with
  | .finite _ n _ => if n % quanta = 0 then d.truncate? else none
  | _ => none

/-- Numeric equality: the two zeros are equal, and nothing equals nan. -/
def same : Double → Double → Bool
  | .infinite s, .infinite t => s == t
  | .finite s m _, .finite t n _ => m == n && (s == t || m == 0)
  | _, _ => false

end Double
end SqlTemplate
