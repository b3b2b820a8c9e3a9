import SqlTemplate.Text.Basic

/-! A place in a YAML text: what is left of it, and the line and column that come next. -/
namespace SqlTemplate.Yaml

def isSpace (c : Char) : Bool := c == ' ' || c == '\t'

/-- Line ends; texts have no carriage returns here. -/
def isBreak (c : Char) : Bool := c == '\n' || c == '\x85' || c == '\u2028' || c == '\u2029'

def isGap (c : Char) : Bool := isSpace c || isBreak c

/-- Whether a word ends here: at a blank, a line end or the end of the text. -/
def atGap : Text → Bool
  | [] => true
  | c :: _ => isGap c

/-- Whether a line starts with one mark three times, as a word of its own. -/
def atRule (mark : Char) : Text → Bool
  | a :: b :: c :: rest => a == mark && b == mark && c == mark && atGap rest
  | _ => false

/-- Whether a line starts a document or ends one. -/
def atDocumentEdge (text : Text) : Bool := atRule '-' text || atRule '.' text

/-- The characters before are counted by `index`, the line ends before by `line`, and the characters
of the line before by `column`; a byte order mark takes no column. -/
structure Cursor where
  rest : Text
  index : Nat
  line : Nat
  column : Nat
  deriving DecidableEq, Repr

namespace Cursor

def ofText (text : Text) : Cursor := ⟨text, 0, 0, 0⟩

/-- The cursor after one character; at the end it stays. -/
def next (c : Cursor) : Cursor :=
  match c.rest with
  | [] => c
  | char :: rest =>
    if isBreak char then ⟨rest, c.index + 1, c.line + 1, 0⟩
    else ⟨rest, c.index + 1, c.line, if char = '\ufeff' then c.column else c.column + 1⟩

def skip : Nat → Cursor → Cursor
  | 0, c => c
  | n + 1, c => skip n c.next

@[simp] theorem rest_next (c : Cursor) : c.next.rest = c.rest.tail := by
  unfold next
  split
  · simp_all
  · split <;> simp_all

@[simp] theorem rest_skip (n : Nat) (c : Cursor) : (c.skip n).rest = c.rest.drop n := by
  induction n generalizing c with
  | zero => rfl
  | succ n ih => simp [skip, ih]

/-- The longest run of characters with a property, and the cursor after it. -/
def span (p : Char → Bool) (c : Cursor) : Text × Cursor :=
  let run := c.rest.takeWhile p
  (run, c.skip run.length)

def skipWhile (p : Char → Bool) (c : Cursor) : Cursor := (c.span p).2

/-- A line end as content, and the cursor after it; only the two Unicode separators stay what they
are. -/
def lineEnd? (c : Cursor) : Option (Text × Cursor) :=
  match c.rest with
  | char :: _ =>
    if isBreak char then some ([if char = '\x85' then '\n' else char], c.next) else none
  | [] => none

/-- The cursor after a comment, if one starts here. -/
def skipComment (c : Cursor) : Cursor :=
  if c.rest.head? = some '#' then c.skipWhile (!isBreak ·) else c

/-- The cursor on the next line, if only blanks and a comment are left of this one. -/
def finishLine? (c : Cursor) : Option Cursor :=
  let last := (c.skipWhile (· == ' ')).skipComment
  match last.lineEnd? with
  | some (_, after) => some after
  | none => if last.rest = [] then some last else none

end Cursor
end SqlTemplate.Yaml
