import SqlTemplate.Binding.Error
import SqlTemplate.File.Tree
import SqlTemplate.Interpreter
import SqlTemplate.Settings.Basic
import SqlTemplate.Text.Utf8
import SqlTemplate.Toml.Reader

/-! Settings files. A file that cannot be used gives a warning and leaves all settings absent. -/
namespace SqlTemplate

/-- Why a settings file is not used. -/
inductive SettingsWarning
  | unparsable (path : Path)
  | unreadable (cause : FileError)
  | notTable (path : Path)
  | invalid (path : Path) (count : Nat)
  deriving DecidableEq, Repr

/-- Why the content of a settings file cannot be loaded at all. -/
inductive SettingsError
  | undecodable (cause : Text.Utf8.DecodeError)
  | numeralTooLong (digits : Nat)
  deriving DecidableEq, Repr

/-- Why settings cannot be loaded: for the content of the file, for want of stack, or for a path
that no system call takes. -/
inductive SettingsFailure
  | content (cause : SettingsError)
  | stack (message : String)
  | path (message : String)
  deriving DecidableEq, Repr

def SettingsError.message : SettingsError → String
  | .undecodable cause => cause.message
  | .numeralTooLong digits => FormatError.message (.numeralTooLong digits)

namespace Settings

/-- The table of a settings file that holds the settings. -/
def tableName : String := "querybinder"

/-- The settings file that is looked for when none is named. -/
def defaultPath : Path := ⟨false, ["querybinder.toml".toList]⟩

end Settings

def SettingsWarning.message : SettingsWarning → String
  | .unparsable path => s!"Failed to parse {String.ofList path.text}"
  | .unreadable cause => s!"Could not read {String.ofList cause.path.text}: {cause.message}"
  | .notTable path => s!"[{Settings.tableName}] in {String.ofList path.text} must be a table"
  | .invalid path count =>
    let errors := if count = 1 then "error" else "errors"
    s!"Invalid configuration in {String.ofList path.text}: " ++
      s!"{count} validation {errors} for ConfigSettings"

namespace Settings

/-- The settings in the top table of a document. -/
def ofDocument (path : Path) (entries : List (Value × Value)) : Settings × Option SettingsWarning :=
  match Value.lookup? tableName.toList entries with
  | none => (default, none)
  | some v =>
    match v.mapping? with
    | none => (default, some (.notTable path))
    | some entries =>
      match ofEntries entries with
      | .ok settings => (settings, none)
      | .error count => (default, some (.invalid path count))

/-- The settings in a file. -/
def read (t : FileTree) (path : Path) : Except SettingsError (Settings × Option SettingsWarning) :=
  match t.read path with
  | .error cause => .ok (default, some (.unreadable cause))
  | .ok content =>
    match Text.Utf8.decode content with
    | .error cause => .error (.undecodable cause)
    | .ok text =>
      match Toml.read text with
      | .ok entries => .ok (ofDocument path entries)
      | .error .invalid => .ok (default, some (.unparsable path))
      | .error (.integerTooLong digits) => .error (.numeralTooLong digits)

/-- The text of a file. -/
def textOf? (t : FileTree) (path : Path) : Option Text :=
  (t.read path).toOption >>= fun content => (Text.Utf8.decode content).toOption

/-- The settings in a file that is opened and read on a stack. -/
def readOn (stack : Stack) (t : FileTree) (path : Path) :
    Except SettingsFailure (Settings × Option SettingsWarning) :=
  match path.fault? with
  | some message => .error (.path message)
  | none =>
    match textOf? t path >>= stack.fault? .settingsFile with
    | some message => .error (.stack message)
    | none => (read t path).mapError .content

/-- Whether the directory has a settings file of its own. -/
def found (t : FileTree) : Bool := t.isFile defaultPath

/-- The file that is loaded: the named one, or else the directory's own if it has one. -/
def fileInUse? (t : FileTree) : Option Path → Option Path
  | some path => some path
  | none => if found t then some defaultPath else none

/-- The settings in the file in use, or else none. -/
def loadOn (stack : Stack) (t : FileTree) (named : Option Path) :
    Except SettingsFailure (Settings × Option SettingsWarning) :=
  match fileInUse? t named with
  | some path => readOn stack t path
  | none => .ok (default, none)

/-- The settings where there is stack enough and the system takes the path. -/
def load (t : FileTree) (named : Option Path) :
    Except SettingsError (Settings × Option SettingsWarning) :=
  match fileInUse? t named with
  | some path => read t path
  | none => .ok (default, none)

/-- Loading on a stack without an end is loading. -/
theorem loadOn_ample (t : FileTree) {named : Option Path}
    (h : ∀ path ∈ named, path.fault? = none) :
    loadOn .ample t named = (load t named).mapError .content := by
  have hpath : ∀ path ∈ fileInUse? t named, path.fault? = none := by
    cases named with
    | some path => exact h
    | none =>
      rw [fileInUse?]
      split
      · rintro path ⟨⟩
        decide
      · exact nofun
  rw [loadOn, load]
  cases hfile : fileInUse? t named with
  | none => rfl
  | some path =>
    simp only [readOn, hpath path hfile]
    cases textOf? t path <;> rfl

end Settings
end SqlTemplate
