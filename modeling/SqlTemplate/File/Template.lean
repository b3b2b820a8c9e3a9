import SqlTemplate.File.Tree
import SqlTemplate.Text.Newline
import SqlTemplate.Text.Utf8

/-! Template files: text with any line endings, the last of which is not part of the query. -/
namespace SqlTemplate

inductive TemplateFileError
  | notFound (path : Path)
  | notFile (path : Path)
  | notUtf8 (path : Path) (cause : Text.Utf8.DecodeError)
  deriving DecidableEq, Repr

def TemplateFileError.message : TemplateFileError → String
  | .notFound path => s!"Template file not found: {String.ofList path.text}"
  | .notFile path => s!"Path is not a file: {String.ofList path.text}"
  | .notUtf8 path cause =>
    s!"File {String.ofList path.text} is not valid UTF-8: {cause.fault.reason}"

/-- The text of a file with line feeds for its line endings. -/
def decodeText (content : List UInt8) : Except Text.Utf8.DecodeError Text :=
  Text.normalizeNewlines <$> Text.Utf8.decode content

/-- The template in a file, without its last line ending unless that is kept. -/
def readTemplate (t : FileTree) (path : Path) (keepFinalNewline : Bool) :
    Except TemplateFileError Text :=
  match t.target path with
  | .file _ content =>
    match decodeText content with
    | .error e => .error (.notUtf8 path e)
    | .ok text => .ok (if keepFinalNewline then text else Text.dropFinalNewline text)
  | .directory => .error (.notFile path)
  | _ => .error (.notFound path)

end SqlTemplate
