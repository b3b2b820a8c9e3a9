/-! Text as its code points, so every position and length counts code points. -/
namespace SqlTemplate

abbrev Text := List Char

namespace Text

/-- A property of characters as closed ranges of code points. -/
abbrev Ranges := List (Nat × Nat)

def Ranges.has (ranges : Ranges) (c : Char) : Bool :=
  ranges.any fun r => r.1 ≤ c.toNat && c.toNat ≤ r.2

theorem toNat_ofNat_of_isValidChar {n : Nat} (h : n.isValidChar) : (Char.ofNat n).toNat = n := by
  rw [Char.ofNat, dif_pos h]
  rfl

/-- The pieces with the separator between each two of them. -/
def join (separator : Text) (pieces : List Text) : Text := separator.intercalate pieces

@[simp] theorem join_nil (separator : Text) : join separator [] = [] := by simp [join]
@[simp] theorem join_singleton (separator piece : Text) : join separator [piece] = piece := by
  simp [join]

/-- Upper-case ASCII letters become lower-case; no other character changes. -/
def lowerAscii (text : Text) : Text := text.map Char.toLower

end Text
end SqlTemplate
