import SqlTemplate.Arguments.Error
import SqlTemplate.Console.Standard
import SqlTemplate.Settings.File
import SqlTemplate.Validation

/-! Why a command fails, and what it tells about that and on its way. -/
namespace SqlTemplate.Command

inductive Error
  | settings (cause : SettingsError)
  | unknownFormat (name : Text)
  | template (cause : TemplateFileError)
  | arguments (cause : ArgumentsError)
  | build (cause : BuildError)
  | validation (cause : ValidationError)
  | write (cause : FileError)
  | unencodable (message : String)
  | unforeseen (message : String)

namespace Error

def ofSettings : SettingsFailure → Error
  | .content cause => .settings cause
  | .stack message => .unforeseen message
  | .path message => .unforeseen message

/-- The wording where only the cause itself is told. -/
def cause : Error → String
  | .settings e => e.message
  | .unknownFormat name =>
    s!"Invalid output format '{String.ofList name}'. Use 'text' or 'json'."
  | .template e => e.message
  | .arguments e => e.message
  | .build e => e.message
  | .validation e => e.message
  | .write e => e.message
  | .unencodable message => message
  | .unforeseen message => message

/-- The wording of a report. -/
def message : Error → String
  | .build (.malformed e) => s!"Malformed template: {e.message}"
  | .build (.bind (.format e)) =>
    if e.kind?.isSome then s!"Cannot format argument: {e.message}" else e.message
  | e => e.cause

/-- A file that cannot be opened is reported only if it is missing. -/
def isReportedFault : FileFault → Bool
  | .missing => true
  | .isDirectory | .notDirectory => false

/-- An integer beyond all doubles, a file of the wrong type, settings that cannot be loaded, and a
fault that no reader and no line of the console is expected to have end a command without a report;
so would arguments that are no list. -/
def isReported : Error → Bool
  | .settings _ => false
  | .arguments (.unreadable e) => isReportedFault e.fault
  | .arguments (.unforeseen _) => false
  | .write e => isReportedFault e.fault
  | .build (.bind (.format .integerTooLarge)) | .build (.bind (.format (.notIterable _))) => false
  | .build (.bind (.textArguments _)) | .build (.bind (.notIterable _)) => false
  | .build (.bind .outOfArguments) => false
  | .validation (.unreadable (.unforeseen _)) => false
  | .unforeseen _ => false
  | _ => true

end Error

/-- What is told beside the output. -/
inductive Diagnostic
  | settings (warning : SettingsWarning)
  | argumentsFileMissing (path : Path)
  | argumentsFileIgnored (path : Path)
  | error (cause : Error)

namespace Diagnostic

/-- What follows a warning about settings. A console is wide enough for it. -/
def defaultsLine : Text := "Using default settings\n".toList

/-- The lines of a diagnostic on a console. Paths stand in them with any marks that they hold. -/
def shownOn (console : Console) : Diagnostic → Except String Text
  | .settings w => .ok (console.plain .warning w.message.toList ++ defaultsLine)
  | .argumentsFileMissing path =>
    console.marked .warning ("Arguments file from config not found: ".toList ++ path.text)
  | .argumentsFileIgnored path => console.marked .warning (ignoredMessage path).toList
  | .error e => .ok (console.plain .error e.message.toList)

/-- A diagnostic that cannot be shown ends what it is told in. -/
def tell (console : Console) (d : Diagnostic) : Except Error Diagnostic :=
  match d.shownOn console with
  | .ok _ => .ok d
  | .error message => .error (.unforeseen message)

/-- What is seen of a diagnostic. -/
def textOn (console : Console) (d : Diagnostic) : Text := (d.shownOn console).toOption.getD []

def text : Diagnostic → Text := textOn .standard

end Diagnostic
end SqlTemplate.Command
