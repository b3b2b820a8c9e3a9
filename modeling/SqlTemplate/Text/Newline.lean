import SqlTemplate.Text.Basic

/-! Line endings. -/
namespace SqlTemplate.Text

/-- A carriage return and the line feed after it, or either alone, become one line feed. -/
def normalizeNewlines : Text → Text
  | [] => []
  | '\r' :: '\n' :: rest => '\n' :: normalizeNewlines rest
  | '\r' :: rest => '\n' :: normalizeNewlines rest
  | c :: rest => c :: normalizeNewlines rest

/-- A carriage return and the line feed after it become one line feed; one alone stays. -/
def joinLineEnds : Text → Text
  | [] => []
  | '\r' :: '\n' :: rest => '\n' :: joinLineEnds rest
  | c :: rest => c :: joinLineEnds rest

/-- The text without its last line ending. -/
def dropFinalNewline (text : Text) : Text :=
  match text.reverse with
  | '\n' :: '\r' :: rest => rest.reverse
  | '\n' :: rest => rest.reverse
  | _ => text

example : normalizeNewlines ['a', '\r', '\r', '\n'] = ['a', '\n', '\n'] := by decide
example : dropFinalNewline ['a', '\n', '\n'] = ['a', '\n'] := by decide

end SqlTemplate.Text
