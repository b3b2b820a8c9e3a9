import SqlTemplate.Arguments.Error
import SqlTemplate.Arguments.SkipMark
import SqlTemplate.Interpreter
import SqlTemplate.Json.Reader
import SqlTemplate.Numeral.Literal
import SqlTemplate.Text.Case

/-! Values from the words of a command line. -/
namespace SqlTemplate

/-- The words that stand for a value of their own, in any case. -/
def wordValue? (word : Text) : Option Value :=
  let lowered := Text.lowercase word
  if lowered = "true".toList then some (.bool true)
  else if lowered = "false".toList then some (.bool false)
  else if lowered = "null".toList then some .null
  else none

/-- An integer, or a finite double. -/
def numberValue? (word : Text) : Option Value :=
  match Numeral.integer? word with
  | some i => some (.int i)
  | none =>
    match Numeral.double? word with
    | some d => if d.isFinite then some (.double d) else none
    | none => none

def startsContainer (word : Text) : Bool := word.head? == some '[' || word.head? == some '\x7b'

/-- The JSON value in a word. -/
def jsonValue (word : Text) : Except ArgumentsError Value :=
  match Json.read word with
  | .ok v => .ok v
  | .error (.integerTooLong digits) => .error (.numeralTooLong digits)
  | .error cause => .error (.badValue word cause)

/-- The value that a word stands for: the skip mark, a named value, a number, a JSON list or object,
or else the word itself. -/
def inferValue (word : Text) (stack : Stack := .ample) : Except ArgumentsError Value :=
  if word = skipToken then .ok .skip
  else
    match (wordValue? word).or (numberValue? word) with
    | some v => .ok v
    | none =>
      if startsContainer word then stack.reading .unforeseen .word word (jsonValue word)
      else .ok (.str word)

/-- The arguments in the words of a command line. -/
def argumentsOfWords (words : List Text) (stack : Stack := .ample) :
    Except ArgumentsError (List Value) :=
  resolveSkips <$> words.mapM (inferValue · stack)

end SqlTemplate
