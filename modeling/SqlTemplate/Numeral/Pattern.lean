import SqlTemplate.Numeral.Literal
import SqlTemplate.Text.Pattern

/-! The patterns for a number and for an integer at the front of a text. -/
namespace SqlTemplate.Numeral

open Text (Pattern)

/-- `[+-]?` -/
def signPattern : Pattern := .maybe (.one [.single '+', .single '-'])

/-- `\d+` -/
def rowPattern : Pattern := .seq (.one [.digit]) (.many [.digit])

def pointPattern : Pattern := .one [.single '.']

/-- `\d+(?:\.\d*)?|\.\d+` -/
def mantissaPattern : Pattern :=
  .either (.seq rowPattern (.maybe (.seq pointPattern (.many [.digit]))))
    (.seq pointPattern rowPattern)

/-- `[eE][+-]?\d+` -/
def exponentPattern : Pattern :=
  .seq (.one [.single 'e', .single 'E']) (.seq signPattern rowPattern)

/-- A number after white space: `\s*([+-]?(?:\d+(?:\.\d*)?|\.\d+)(?:[eE][+-]?\d+)?)`. -/
def numberPattern : Pattern.Picking :=
  ⟨.many [.blank], .seq signPattern (.seq mantissaPattern (.maybe exponentPattern)), .empty⟩

/-- An integer after white space that nothing goes on with: `\s*([+-]?\d+)(?![\d.eE])`. -/
def integerPattern : Pattern.Picking :=
  ⟨.many [.blank], .seq signPattern rowPattern,
    .unlessNext [.digit, .single '.', .single 'e', .single 'E']⟩

/-- The double of what the pattern for a number picks, and zero if it picks nothing; none if what it
picks is no double. -/
def frontDouble? (text : Text) : Option Double :=
  match numberPattern.pick? text with
  | some picked => double? picked
  | none => some .zero

example : numberPattern.pick? " +.5e-3x".toList = some "+.5e-3".toList := by decide +kernel
example : numberPattern.pick? "12.e+".toList = some "12.".toList := by decide +kernel

end SqlTemplate.Numeral
