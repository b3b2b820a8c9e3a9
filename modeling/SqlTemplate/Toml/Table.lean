import SqlTemplate.Value.Basic

/-! The tables of a TOML document while headers and dotted keys build them. A table may be named
by the headers of tables below it before it gets its own header, and by dotted keys only within
one part of the document. -/
namespace SqlTemplate.Toml

/-- How a table came to be. Dotted keys open it for the part of the document they stand in. -/
inductive Origin
  | implied
  | dotted (part : Nat)
  | header
  deriving DecidableEq, Repr

/-- What a key holds: a finished value, a table, or a list of tables of which the last is open. -/
inductive Item
  | value (v : Value)
  | table (origin : Origin) (entries : List (Text × Item))
  | tables (finished : List Value) (last : List (Text × Item))

abbrev Entries := List (Text × Item)

/-- Sets what is under a name, by what is there now; a new name comes last. -/
def Entries.alter (name : Text) (f : Option Item → Option Item) : Entries → Option Entries
  | [] => (f none).map fun item => [(name, item)]
  | (key, item) :: rest =>
    if key = name then (f (some item)).map fun item => (key, item) :: rest
    else (Entries.alter name f rest).map ((key, item) :: ·)

mutual

def Item.toValue : Item → Value
  | .value v => v
  | .table _ entries => .dict (toPairs entries)
  | .tables finished last => .list (finished ++ [.dict (toPairs last)])

/-- The names and values of a table. -/
def toPairs : List (Text × Item) → List (Value × Value)
  | [] => []
  | (name, item) :: rest => (.str name, item.toValue) :: toPairs rest

end

namespace Entries

/-- Changes the table at a path. Tables that are not there yet are implied, and a list of tables
stands for its last one. -/
def within (f : Entries → Option Entries) : List Text → Entries → Option Entries
  | [], entries => f entries
  | name :: path, entries =>
    entries.alter name fun
      | none => (within f path []).map (.table .implied)
      | some (.table origin inner) => (within f path inner).map (.table origin)
      | some (.tables finished last) => (within f path last).map (.tables finished)
      | some (.value _) => none

/-- Gives a table its header: one that is new, or only implied so far. -/
def define (name : Text) (entries : Entries) : Option Entries :=
  entries.alter name fun
    | none => some (.table .header [])
    | some (.table .implied inner) => some (.table .header inner)
    | some _ => none

/-- Adds a table to a list of tables that is new or consists of headers only. -/
def append (name : Text) (entries : Entries) : Option Entries :=
  entries.alter name fun
    | none => some (.tables [] [])
    | some (.tables finished last) => some (.tables (finished ++ [.dict (toPairs last)]) [])
    | some _ => none

/-- Adds a value under a dotted key that stands in a part of the document. No key is set twice, and
a dotted key enters no table that has a header or belongs to an earlier part. -/
def insert (part : Nat) (v : Value) : List Text → Entries → Option Entries
  | [], _ => none
  | [name], entries =>
    entries.alter name fun
      | none => some (.value v)
      | some _ => none
  | name :: path, entries =>
    entries.alter name fun
      | none => (insert part v path []).map (.table (.dotted part))
      | some (.table origin inner) =>
        if origin = .implied ∨ origin = .dotted part then
          (insert part v path inner).map (.table (.dotted part))
        else none
      | some _ => none

end Entries

/-- A document as far as it is read: its tables, the path of the last header, and how many headers
there were. -/
structure Document where
  root : Entries
  path : List Text
  part : Nat

namespace Document

def empty : Document := ⟨[], [], 0⟩

/-- Applies `f` at the last name of a path, and makes the path that of the part that begins. -/
def enter (f : Text → Entries → Option Entries) (path : List Text) (d : Document) :
    Option Document := do
  let name ← path.getLast?
  let root ← d.root.within (f name) path.dropLast
  some ⟨root, path, d.part + 1⟩

/-- The header of a table. -/
def define (path : List Text) (d : Document) : Option Document := d.enter Entries.define path

/-- The header of the next table of a list. -/
def append (path : List Text) (d : Document) : Option Document := d.enter Entries.append path

/-- A key with its value in the table of the last header. -/
def insert (key : List Text) (v : Value) (d : Document) : Option Document := do
  let root ← d.root.within (Entries.insert d.part v key) d.path
  some { d with root }

end Document
end SqlTemplate.Toml
