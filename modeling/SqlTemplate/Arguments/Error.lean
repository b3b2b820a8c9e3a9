import SqlTemplate.File.Template
import SqlTemplate.Json.Error
import SqlTemplate.Value.Calendar

/-! Why arguments cannot be loaded. -/
namespace SqlTemplate

/-- The formats of an arguments file. -/
inductive FileFormat
  | json
  | yaml
  | toml
  deriving DecidableEq, Repr

inductive ArgumentsError
  | notFound (path : Path)
  | unreadable (cause : FileError)
  | undecodable (cause : Text.Utf8.DecodeError)
  | unknownFormat (suffix : Text)
  | badValue (value : Text) (cause : Json.Error)
  | badJson (path : Path) (text : Text) (cause : Json.Error)
  | badYaml (path : Path)
  | badToml (path : Path)
  | notList (path : Path) (format : FileFormat) (typeName : String)
  | numeralTooLong (digits : Nat)
  | badInteger (radix : Nat) (text : Text)
  | badDouble (text : Text)
  | badDate (cause : CalendarFault)
  | unforeseen (message : String)
  deriving DecidableEq, Repr

/-- The key of a table file that holds the arguments. -/
def argumentsKey : String := "args"

namespace ArgumentsError

def message : ArgumentsError → String
  | .notFound path => s!"Arguments file not found: {String.ofList path.text}"
  | .unreadable cause => cause.message
  | .undecodable cause => cause.message
  | .unknownFormat suffix =>
    s!"Unsupported arguments file format: {String.ofList suffix}. " ++
      "Use .json, .yaml, .yml, or .toml"
  | .badValue value cause =>
    s!"Invalid JSON argument '{String.ofList value}': {cause.message value}"
  | .badJson path text cause => s!"Invalid JSON in {String.ofList path.text}: {cause.message text}"
  | .badYaml path => s!"Invalid YAML in {String.ofList path.text}"
  | .badToml path => s!"Invalid TOML in {String.ofList path.text}"
  | .notList path .json name =>
    s!"Arguments file {String.ofList path.text} must contain a JSON array, got {name}"
  | .notList path .yaml name =>
    s!"Arguments file {String.ofList path.text} must contain a YAML sequence, got {name}"
  | .notList path .toml name =>
    s!"'{argumentsKey}' in {String.ofList path.text} must be an array, got {name}"
  | .numeralTooLong digits => FormatError.message (.numeralTooLong digits)
  | .badInteger radix text =>
    s!"invalid literal for int() with base {radix}: {String.ofList (Text.quoted text)}"
  | .badDouble text => s!"could not convert string to float: {String.ofList (Text.quoted text)}"
  | .badDate cause => cause.message
  | .unforeseen message => message

end ArgumentsError
/-- The warning about a file that is passed over. -/
def ignoredMessage (path : Path) : String :=
  s!"Ignoring arguments file {String.ofList path.text} because --arg values were given"

end SqlTemplate
