import SqlTemplate.Command.Run

/-! The command line. Whatever a command may look at is read first; what it changes is written
last. -/
namespace SqlTemplate.Main

/-- A place as the system names it. -/
def systemName (place : List Text) : String := String.ofList ('/' :: Text.join ['/'] place)

/-- What the system has at a place. -/
def entryAt? (place : List Text) : IO (Option Entry) := do
  match ← (IO.FS.readBinFile (systemName place)).toBaseIO with
  | .ok content => return some (.file content.toList)
  | .error (.inappropriateType ..) => return some .directory
  | .error _ => return none

/-- The tree with what the system has along a path. -/
def load (files : FileTree) (path : Path) : IO FileTree := do
  let mut files := files
  let mut place := if path.absolute then [] else files.current
  for part in path.parts do
    place := if part = ['.', '.'] then place.dropLast else place ++ [part]
    match ← entryAt? place with
    | some entry => files := files.set place entry
    | none => pure ()
  return files

/-- What a command line that makes no sense is answered. -/
def usage : String :=
  "Usage: querybinder build|parse TEMPLATE_FILE [OPTIONS]"

def write (outcome : Command.Outcome) (before : FileTree) : IO Unit := do
  for (place, content) in outcome.files.changesFrom before do
    IO.FS.writeBinFile (systemName place) ⟨content.toArray⟩

def tell (outcome : Command.Outcome) : IO Unit := do
  IO.print (String.ofList outcome.output)
  IO.eprint (String.ofList (outcome.report .standard))
  match outcome.status with
  | .done => pure ()
  | .failed e => if e.isReported then pure () else IO.eprintln e.message
  | .unusable => IO.eprintln usage

end SqlTemplate.Main

open SqlTemplate in
def main (arguments : List String) : IO UInt32 := do
  let words := arguments.map String.toList
  let current := (Path.ofText (toString (← IO.currentDir)).toList).parts
  let bare ← Main.load ⟨[], current⟩ Settings.defaultPath
  let files ← (Command.paths bare words).foldlM Main.load bare
  let outcome := Command.run files words
  Main.write outcome files
  Main.tell outcome
  return UInt32.ofNat outcome.status.exitCode
