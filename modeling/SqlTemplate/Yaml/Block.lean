import SqlTemplate.Yaml.Cursor

/-! Block scalars of a YAML text: indented lines, kept as they are or folded. -/
namespace SqlTemplate.Yaml

/-- What happens to the line ends behind the last line: one stays, all stay, or none. -/
inductive Chomp
  | clip
  | keep
  | strip
  deriving DecidableEq, Repr

/-- The header of a block scalar; without an indentation the lines themselves tell it. -/
structure BlockHeader where
  chomp : Chomp
  indentation : Option Nat
  deriving DecidableEq, Repr

def chomp? : Char → Option Chomp
  | '+' => some .keep
  | '-' => some .strip
  | _ => none

/-- An indentation is one digit from one on. -/
def indentation? (c : Char) : Option Nat :=
  if '1' ≤ c ∧ c ≤ '9' then some (c.toNat - '0'.toNat) else none

/-- The header after the mark of the block scalar, its two parts in any order, and its length. -/
def blockHeader (text : Text) : BlockHeader × Nat :=
  match text.head? >>= chomp?, text.head? >>= indentation? with
  | some chomp, _ =>
    match text.tail.head? >>= indentation? with
    | some n => (⟨chomp, some n⟩, 2)
    | none => (⟨chomp, none⟩, 1)
  | none, some n =>
    match text.tail.head? >>= chomp? with
    | some chomp => (⟨chomp, some n⟩, 2)
    | none => (⟨.clip, some n⟩, 1)
  | none, none => (⟨.clip, none⟩, 0)

/-- The cursor after spaces, but not beyond a column. -/
def indentTo (column : Nat) (c : Cursor) : Cursor :=
  c.skip (min (column - c.column) (c.span (· == ' ')).1.length)

/-- The line ends of blank lines in front of a line of the given indentation. -/
def blockBlankLines (column : Nat) : Nat → Cursor → Text × Cursor
  | 0, c => ([], c)
  | fuel + 1, c =>
    let after := indentTo column c
    match after.lineEnd? with
    | some (first, next) =>
      let (more, last) := blockBlankLines column fuel next
      (first ++ more, last)
    | none => ([], after)

/-- The line ends of the blank lines in front of the first line, and the largest column that any of
these lines reaches with spaces. -/
def firstIndentation : Nat → Cursor → Text × Nat × Cursor
  | 0, c => ([], 0, c)
  | fuel + 1, c =>
    let after := c.skipWhile (· == ' ')
    let column := if after.index = c.index then 0 else after.column
    match after.lineEnd? with
    | some (first, next) =>
      let (more, largest, last) := firstIndentation fuel next
      (first ++ more, max column largest, last)
    | none => ([], column, after)

/-- The lines of a block scalar, the last of their line ends, the line ends of the blank lines
behind it, and the cursor after them. A folded line end is a space, except next to a line that
starts with a blank. -/
def blockLines (folded : Bool) (column : Nat) : Nat → Text → Cursor → Text × Text × Text × Cursor
  | 0, blank, c => ([], [], blank, c)
  | fuel + 1, blank, c =>
    if c.column ≠ column ∨ c.rest = [] then ([], [], blank, c)
    else
      let (line, atEnd) := c.span (!isBreak ·)
      let (lineEnd, next) := atEnd.lineEnd?.getD ([], atEnd)
      let (more, after) := blockBlankLines column (next.rest.length + 1) next
      if after.column ≠ column ∨ after.rest = [] then (blank ++ line, lineEnd, more, after)
      else
        let flush := !(line.head?.any isSpace) && !(after.rest.head?.any isSpace)
        let joint :=
          if folded && lineEnd == ['\n'] && flush then (if more = [] then [' '] else [])
          else lineEnd
        let (body, last) := blockLines folded column fuel more after
        (blank ++ line ++ joint ++ body, last)

/-- A block scalar from its mark on, in a block of the given indentation. -/
def block? (folded : Bool) (leastColumn : Nat) (c : Cursor) : Option (Text × Cursor) := do
  let (header, used) := blockHeader c.next.rest
  let atEnd := c.skip (used + 1)
  if !atGap atEnd.rest || atEnd.rest.head? == some '\t' then none
  let start ← atEnd.finishLine?
  let fuel := start.rest.length + 1
  let (column, blank, first) := match header.indentation with
    | some n =>
      let column := leastColumn + n - 1
      (column, blockBlankLines column fuel start)
    | none =>
      let (blank, largest, first) := firstIndentation fuel start
      (max leastColumn largest, blank, first)
  let (body, lineEnd, more, after) := blockLines folded column fuel blank first
  let tail := match header.chomp with
    | .clip => lineEnd
    | .keep => lineEnd ++ more
    | .strip => []
  some (body ++ tail, after)

end SqlTemplate.Yaml
