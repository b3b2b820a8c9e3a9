import SqlTemplate.Text.Surrogate

/-! Paths as their parts. -/
namespace SqlTemplate

/-- Empty parts and single dots of the text are left out; double dots stay. -/
structure Path where
  absolute : Bool
  parts : List Text
  deriving DecidableEq, Repr

namespace Path

def ofText (text : Text) : Path :=
  ⟨text.head? = some '/', (text.splitOn '/').filter fun part => part ≠ [] ∧ part ≠ ['.']⟩

def text (p : Path) : Text :=
  let body := Text.join ['/'] p.parts
  if p.absolute then '/' :: body else if p.parts = [] then ['.'] else body

def name (p : Path) : Text := p.parts.getLast?.getD []

/-- The last part of the name from its last point on; a point at either end of the name starts no
suffix. -/
def suffix (p : Path) : Text :=
  let extension := (p.name.reverse.takeWhile (· != '.')).reverse
  if extension = [] ∨ p.name.length ≤ extension.length + 1 then [] else '.' :: extension

/-- Why no system call takes a path: half a surrogate pair has no encoding unless it stands for a
byte, and a null character would end the path. -/
def fault? (p : Path) : Option String :=
  if p.text.any Text.isStrayHalf then some "surrogates not allowed"
  else if '\x00' ∈ p.text then some "embedded null byte"
  else none

example : (ofText "d.x//./a.b.json".toList).suffix = ".json".toList := by decide +kernel
example : (ofText ".json".toList).suffix = [] ∧ (ofText "a.".toList).suffix = [] := by
  decide +kernel

end Path
end SqlTemplate
