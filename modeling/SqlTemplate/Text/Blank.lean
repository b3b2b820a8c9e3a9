import SqlTemplate.Text.Basic

/-! Two classes of blank characters: all that count as white space, and those that may stand
around a number. -/
namespace SqlTemplate.Text

/-- Bidirectional classes WS, B and S, and category Zs. -/
def blankRanges : Ranges :=
  [(0x9, 0xD), (0x1C, 0x20), (0x85, 0x85), (0xA0, 0xA0), (0x1680, 0x1680), (0x2000, 0x200A),
   (0x2028, 0x2029), (0x202F, 0x202F), (0x205F, 0x205F), (0x3000, 0x3000)]

def isBlank (c : Char) : Bool := blankRanges.has c

/-- The four information separators are white space, but no margin of a number. -/
def isMargin (c : Char) : Bool := isBlank c && !(0x1C ≤ c.toNat && c.toNat ≤ 0x1F)

/-- The text without the margins at both of its ends. -/
def trimMargins (text : Text) : Text :=
  ((text.dropWhile isMargin).reverse.dropWhile isMargin).reverse

example : isBlank '\u001f' = true ∧ isMargin '\u001f' = false := by decide
example : isBlank '\u3000' = true ∧ isBlank '\u200b' = false := by decide

end SqlTemplate.Text
