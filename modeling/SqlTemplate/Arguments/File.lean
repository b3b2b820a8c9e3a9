import SqlTemplate.Arguments.Infer
import SqlTemplate.Toml.Reader
import SqlTemplate.Yaml.Reader

/-! Arguments from files, and from the words of a command line in their place. -/
namespace SqlTemplate

namespace FileFormat

/-- The format that a lower-case suffix names. -/
def ofSuffix? (suffix : Text) : Option FileFormat :=
  if suffix = ".json".toList then some .json
  else if suffix = ".yaml".toList ∨ suffix = ".yml".toList then some .yaml
  else if suffix = ".toml".toList then some .toml
  else none

end FileFormat

/-- The items of a document that has to be a list. -/
def itemsOf (path : Path) (format : FileFormat) : Value → Except ArgumentsError (List Value)
  | .sequence .list items => .ok items
  | v => .error (.notList path format v.typeName)

def argumentsOfJson (path : Path) (text : Text) (stack : Stack := .ample) :
    Except ArgumentsError (List Value) :=
  stack.reading .unforeseen .jsonFile text <|
    match Json.read text with
    | .ok v => itemsOf path .json v
    | .error (.integerTooLong digits) => .error (.numeralTooLong digits)
    | .error cause => .error (.badJson path text cause)

/-- What reads a YAML document, with its own use of the stack. -/
abbrev YamlReader := Text → Except Yaml.Error Value

/-- A document without a value has no arguments. -/
def argumentsOfYaml (readYaml : YamlReader) (path : Path) (text : Text) :
    Except ArgumentsError (List Value) :=
  match readYaml text with
  | .ok .null => .ok []
  | .ok v => itemsOf path .yaml v
  | .error .invalid => .error (.badYaml path)
  | .error (.integerTooLong digits) => .error (.numeralTooLong digits)
  | .error (.badInteger radix text) => .error (.badInteger radix text)
  | .error (.badDouble text) => .error (.badDouble text)
  | .error (.badDate cause) => .error (.badDate cause)
  | .error (.unforeseen message) => .error (.unforeseen message)

/-- The arguments stand under one key of the top table, and there are none without it. -/
def argumentsOfToml (path : Path) (text : Text) (stack : Stack := .ample) :
    Except ArgumentsError (List Value) :=
  stack.reading .unforeseen .tomlFile text <|
    match Toml.read text with
    | .ok entries =>
      match Value.lookup? argumentsKey.toList entries with
      | some v => itemsOf path .toml v
      | none => .ok []
    | .error .invalid => .error (.badToml path)
    | .error (.integerTooLong digits) => .error (.numeralTooLong digits)

/-- A fault of text that is read piece by piece: a character cut off by the end of the file is a
piece of its own. -/
def asStreamed (cause : Text.Utf8.DecodeError) : Text.Utf8.DecodeError :=
  if cause.fault = .endOfData then { cause with first := 0, last := cause.last - cause.first }
  else cause

/-- The arguments in the content of a file. -/
def argumentsOfContent (readYaml : YamlReader) (path : Path) (format : FileFormat)
    (content : List UInt8) (stack : Stack := .ample) : Except ArgumentsError (List Value) :=
  match format with
  | .json =>
    match decodeText content with
    | .ok text => argumentsOfJson path text stack
    | .error cause => .error (.undecodable cause)
  | .yaml =>
    match decodeText content with
    | .ok text => argumentsOfYaml readYaml path text
    | .error cause => .error (.undecodable (asStreamed cause))
  | .toml =>
    match Text.Utf8.decode content with
    | .ok text => argumentsOfToml path text stack
    | .error cause => .error (.undecodable cause)

/-- The arguments in a file, whose suffix tells the format in any case. -/
def argumentsOfFile (readYaml : YamlReader) (t : FileTree) (path : Path)
    (stack : Stack := .ample) : Except ArgumentsError (List Value) :=
  if !t.exists? path then .error (.notFound path)
  else
    let suffix := Text.lowercase path.suffix
    match FileFormat.ofSuffix? suffix with
    | none => .error (.unknownFormat suffix)
    | some format =>
      match t.read path with
      | .ok content => argumentsOfContent readYaml path format content stack
      | .error cause => .error (.unreadable cause)

/-- Arguments, and the file that was passed over for them. -/
structure LoadedArguments where
  ignored : Option Path
  args : Except ArgumentsError (List Value)

/-- The arguments in the words if there are any, or else those in the file if there is one. -/
def loadArguments (t : FileTree) (words : List Text) (file : Option Path)
    (readYaml : YamlReader := Yaml.read) (stack : Stack := .ample) : LoadedArguments :=
  if words ≠ [] then ⟨file, argumentsOfWords words stack⟩
  else
    match file with
    | some path => ⟨none, resolveSkips <$> argumentsOfFile readYaml t path stack⟩
    | none => ⟨none, .ok []⟩

end SqlTemplate
