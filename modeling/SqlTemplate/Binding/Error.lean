import SqlTemplate.Template.Parser
import SqlTemplate.Double.Notation

/-! The causes for which a query cannot be built, and their wording. -/
namespace SqlTemplate

/-- Why a value cannot be written for a placeholder. -/
inductive FormatError
  | unknownSpecifier (shown : Text)
  | notContainer (typeName : String)
  | misplacedSkip
  | unsupportedType (typeName : String)
  | badKey (typeName : String)
  | unwritable (d : Double)
  | uncastable (d : Double)
  | numeralTooLong (digits : Nat)
  | integerTooLong
  | integerTooLarge
  | notIterable (typeName : String)

/-- Why arguments cannot be bound to a parsed template. -/
inductive BindError
  | textArguments (typeName : String)
  | notIterable (typeName : String)
  | countMismatch (expected : Int) (actual : Nat)
  | outOfArguments
  | format (cause : FormatError)

/-- Why a query cannot be built from a template and its arguments. -/
inductive BuildError
  | malformed (cause : ParseError)
  | bind (cause : BindError)

/-- The family of errors that the library itself defines, from the general to the particular. -/
inductive ErrorKind
  | queryBuilder
  | malformedTemplate
  | nestedBlock
  | unterminatedBlock
  | countMismatch
  | unknownSpecifier
  | unsupportedArgument
  | badArrayArgument
  | queryValidation
  deriving DecidableEq, Repr

namespace ErrorKind

def parent? : ErrorKind → Option ErrorKind
  | .queryBuilder => none
  | .nestedBlock | .unterminatedBlock => some .malformedTemplate
  | .badArrayArgument => some .unsupportedArgument
  | _ => some .queryBuilder

/-- The kind itself and those it belongs to, up to the root of the family. -/
def lineage : ErrorKind → List ErrorKind
  | .queryBuilder => [.queryBuilder]
  | .nestedBlock => [.nestedBlock, .malformedTemplate, .queryBuilder]
  | .unterminatedBlock => [.unterminatedBlock, .malformedTemplate, .queryBuilder]
  | .badArrayArgument => [.badArrayArgument, .unsupportedArgument, .queryBuilder]
  | k => [k, .queryBuilder]

theorem lineage_eq (k : ErrorKind) :
    k.lineage = k :: (k.parent?.map lineage).getD [] := by cases k <;> rfl

end ErrorKind

/-- The wording of a malformed template, with the position if there is one. -/
def malformedMessage (message : String) : Option Int → String
  | none => message
  | some position => s!"{message} (at position {position})"

namespace ParseFault

def kind : ParseFault → ErrorKind
  | .nestedBlock => .nestedBlock
  | .unterminatedBlock => .unterminatedBlock

def message : ParseFault → String
  | .nestedBlock => "Nested conditional blocks are not allowed"
  | .unterminatedBlock => "Unterminated conditional block"

end ParseFault

def ParseError.message (e : ParseError) : String :=
  malformedMessage e.fault.message (some e.position)

def countMismatchMessage (expected actual : Int) : String :=
  s!"Template expects {expected} argument(s), got {actual}"

/-- Part of the wording of every refusal to convert between a long integer and its decimal text. -/
def limitMessage (detail : String) : String :=
  s!"Exceeds the limit ({Numeral.digitLimit} digits) for integer string conversion{detail}; " ++
    "use sys.set_int_max_str_digits() to increase the limit"

def notIterableMessage (typeName : String) : String := s!"'{typeName}' object is not iterable"

namespace FormatError

/-- The place in the family; none for a failure of a conversion or of an iteration itself. -/
def kind? : FormatError → Option ErrorKind
  | .unknownSpecifier _ => some .unknownSpecifier
  | .notContainer _ => some .badArrayArgument
  | .misplacedSkip | .unsupportedType _ | .badKey _ | .unwritable _ | .uncastable _ =>
    some .unsupportedArgument
  | .numeralTooLong _ | .integerTooLong | .integerTooLarge | .notIterable _ => none

def message : FormatError → String
  | .unknownSpecifier shown => s!"Unknown placeholder specifier: {String.ofList shown}"
  | .notContainer name => s!"?a expects a list or mapping, got {name}"
  | .misplacedSkip => "skip() can only be used for placeholders inside a conditional block"
  | .unsupportedType name => s!"Unsupported argument type: {name}"
  | .badKey name => s!"Mapping keys must be strings or integers, got {name}"
  | .unwritable d => s!"Cannot render non-finite float: {String.ofList d.text}"
  | .uncastable d => s!"Cannot cast non-finite float to int: {String.ofList d.text}"
  | .numeralTooLong digits => limitMessage s!": value has {digits} digits"
  | .integerTooLong => limitMessage ""
  | .integerTooLarge => "int too large to convert to float"
  | .notIterable name => notIterableMessage name

end FormatError

namespace BindError

def kind? : BindError → Option ErrorKind
  | .countMismatch .. => some .countMismatch
  | .format cause => cause.kind?
  | .textArguments _ | .notIterable _ | .outOfArguments => none

def message : BindError → String
  | .textArguments name => s!"args must be a sequence of arguments, not {name}"
  | .notIterable name => notIterableMessage name
  | .countMismatch expected actual => countMismatchMessage expected actual
  | .outOfArguments => "list index out of range"
  | .format cause => cause.message

end BindError

namespace BuildError

def kind? : BuildError → Option ErrorKind
  | .malformed cause => some cause.fault.kind
  | .bind cause => cause.kind?

def message : BuildError → String
  | .malformed cause => cause.message
  | .bind cause => cause.message

end BuildError
end SqlTemplate
