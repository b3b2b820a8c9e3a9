import SqlTemplate.Binding.Error

/-! What can be wrong with a JSON text, and where. -/
namespace SqlTemplate.Json

inductive Fault
  | value
  | comma
  | colon
  | name
  | controlCharacter
  | openString
  | escape
  | codeEscape
  | extraData
  | byteOrderMark
  deriving DecidableEq, Repr

def Fault.message : Fault → String
  | .value => "Expecting value"
  | .comma => "Expecting ',' delimiter"
  | .colon => "Expecting ':' delimiter"
  | .name => "Expecting property name enclosed in double quotes"
  | .controlCharacter => "Invalid control character at"
  | .openString => "Unterminated string starting at"
  | .escape => "Invalid \\escape"
  | .codeEscape => "Invalid \\uXXXX escape"
  | .extraData => "Extra data"
  | .byteOrderMark => "Unexpected UTF-8 BOM (decode using utf-8-sig)"

/-- A fault at a position, or an integer whose digits exceed the limit. -/
inductive Error
  | fault (cause : Fault) (position : Nat)
  | integerTooLong (digits : Nat)
  deriving DecidableEq, Repr

/-- The line and the column of a position, both from one on. -/
def lineColumn (text : Text) (position : Nat) : Nat × Nat :=
  let before := text.take position
  (before.count '\n' + 1, (before.reverse.takeWhile (· != '\n')).length + 1)

/-- The wording of an error in the text that was read. -/
def Error.message (text : Text) : Error → String
  | .fault cause position =>
    let (line, column) := lineColumn text position
    s!"{cause.message}: line {line} column {column} (char {position})"
  | .integerTooLong digits => FormatError.message (.numeralTooLong digits)

example : lineColumn ['a', '\n', 'b', 'c'] 3 = (2, 2) := by decide

end SqlTemplate.Json
