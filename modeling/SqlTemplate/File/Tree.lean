import SqlTemplate.File.Path
import SqlTemplate.Text.Quoted

/-! Files and directories as a tree, seen from a current directory. -/
namespace SqlTemplate

inductive Entry
  | file (content : List UInt8)
  | directory
  deriving DecidableEq, Repr

/-- Entries by their parts from the root on, and the place of the current directory. -/
structure FileTree where
  entries : List (List Text × Entry)
  current : List Text
  deriving DecidableEq, Repr

/-- Why a path cannot be opened. -/
inductive FileFault
  | missing
  | isDirectory
  | notDirectory
  deriving DecidableEq, Repr

structure FileError where
  fault : FileFault
  path : Path
  deriving DecidableEq, Repr

/-- The number and the wording that the system has for a fault. -/
def FileFault.reason : FileFault → String
  | .missing => "[Errno 2] No such file or directory"
  | .isDirectory => "[Errno 21] Is a directory"
  | .notDirectory => "[Errno 20] Not a directory"

def FileError.message (e : FileError) : String :=
  s!"{e.fault.reason}: {String.ofList (Text.quoted e.path.text)}"

/-- What a path leads to. -/
inductive Target
  | file (place : List Text) (content : List UInt8)
  | directory
  | free (place : List Text)
  | missing
  | notDirectory
  deriving DecidableEq, Repr

namespace FileTree

/-- The entry at a place; the root is a directory. -/
def at? (t : FileTree) (place : List Text) : Option Entry :=
  if place = [] then some .directory else (t.entries.find? (·.1 == place)).map (·.2)

/-- Follows parts from a place that is a directory; a double dot leads one level up. -/
def follow (t : FileTree) (place : List Text) : List Text → Target
  | [] => .directory
  | part :: rest =>
    if part = ['.', '.'] then follow t place.dropLast rest
    else
      let next := place ++ [part]
      match t.at? next, rest with
      | some .directory, rest => follow t next rest
      | some (.file content), [] => .file next content
      | some (.file _), _ :: _ => .notDirectory
      | none, [] => .free next
      | none, _ :: _ => .missing

/-- What a path leads to from the root or from the current directory. -/
def target (t : FileTree) (p : Path) : Target :=
  t.follow (if p.absolute then [] else t.current) p.parts

/-- Whether a path is written so that only a directory can be meant. -/
def meansDirectory (text : Text) : Bool :=
  match text.splitOn '/' |>.reverse with
  | last :: _ :: _ => last == [] || last == ['.']
  | _ => false

/-- What a path leads to as it is written; an empty one leads nowhere. -/
def targetOf (t : FileTree) (text : Text) : Target :=
  if text = [] then .missing
  else
    match t.target (.ofText text) with
    | .file place content => if meansDirectory text then .notDirectory else .file place content
    | found => found

def exists? (t : FileTree) (p : Path) : Bool :=
  match t.target p with
  | .file .. | .directory => true
  | _ => false

def isFile (t : FileTree) (p : Path) : Bool :=
  match t.target p with
  | .file .. => true
  | _ => false

/-- The content of a file. A tree has no path with a null character in it, which a caller that takes
any path looks for by itself. -/
def read (t : FileTree) (p : Path) : Except FileError (List UInt8) :=
  match t.target p with
  | .file _ content => .ok content
  | .directory => .error ⟨.isDirectory, p⟩
  | .free _ | .missing => .error ⟨.missing, p⟩
  | .notDirectory => .error ⟨.notDirectory, p⟩

/-- Puts an entry at a place, instead of what is there. -/
def set (t : FileTree) (place : List Text) (entry : Entry) : FileTree :=
  { t with entries := (place, entry) :: t.entries.filter (·.1 != place) }

/-- Writes a file that is new or replaces an old one; the directory around it has to be there. -/
def write (t : FileTree) (p : Path) (content : List UInt8) : Except FileError FileTree :=
  match t.target p with
  | .file place _ | .free place => .ok (t.set place (.file content))
  | .directory => .error ⟨.isDirectory, p⟩
  | .missing => .error ⟨.missing, p⟩
  | .notDirectory => .error ⟨.notDirectory, p⟩

/-- The tree with an entry below the current directory, and all directories above it. -/
def place (t : FileTree) (parts : List Text) (entry : Entry) : FileTree :=
  let place := t.current ++ parts
  let withParents := (List.range place.length).foldl (fun t n =>
    if (t.at? (place.take n)).isSome then t else t.set (place.take n) .directory) t
  withParents.set place entry

/-- The places of files that are not the same in another tree, with what they hold. -/
def changesFrom (t before : FileTree) : List (List Text × List UInt8) :=
  t.entries.filterMap fun e =>
    match e.2 with
    | .file content => if before.entries.contains e then none else some (e.1, content)
    | .directory => none

theorem at?_set (t : FileTree) {place : List Text} (h : place ≠ []) (entry : Entry) :
    (t.set place entry).at? place = some entry := by
  simp [at?, set, h]

@[simp] theorem changesFrom_self (t : FileTree) : t.changesFrom t = [] := by
  simp only [changesFrom, List.filterMap_eq_nil_iff]
  rintro ⟨place, entry⟩ h
  cases entry <;> simp [h]

end FileTree
end SqlTemplate
