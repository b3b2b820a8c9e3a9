import SqlTemplate.Text.Surrogate
import SqlTemplate.Yaml.Cursor

/-! Scalars of a YAML text in quotes, and plain ones. Line ends inside them are folded. -/
namespace SqlTemplate.Yaml

/-- What a line end and the line ends of blank lines after it stand for: one line feed is a space,
and is dropped in front of others. -/
def fold (first blankLines : Text) : Text :=
  if first ≠ ['\n'] then first ++ blankLines
  else if blankLines = [] then [' ']
  else blankLines

/-- The line ends of blank lines, and the cursor at the first character of the next line that is
not blank. A line that starts or ends a document may not stand inside quotes. -/
def blankLines? : Nat → Cursor → Option (Text × Cursor)
  | 0, _ => none
  | fuel + 1, c =>
    if atDocumentEdge c.rest then none
    else
      let after := c.skipWhile isSpace
      match after.lineEnd? with
      | some (first, next) => (blankLines? fuel next).map fun (more, last) => (first ++ more, last)
      | none => some ([], after)

/-- The character of an escape that is no code, by the character after the backslash. -/
def shortEscape? : Char → Option Char
  | '0' => some '\x00'
  | 'a' => some '\x07'
  | 'b' => some '\x08'
  | 't' => some '\t'
  | '\t' => some '\t'
  | 'n' => some '\n'
  | 'v' => some '\x0b'
  | 'f' => some '\x0c'
  | 'r' => some '\r'
  | 'e' => some '\x1b'
  | ' ' => some ' '
  | '"' => some '"'
  | '\\' => some '\\'
  | '/' => some '/'
  | 'N' => some '\x85'
  | '_' => some '\xa0'
  | 'L' => some '\u2028'
  | 'P' => some '\u2029'
  | _ => none

/-- How many digits follow the letter of a code escape. -/
def codeWidth? : Char → Option Nat
  | 'x' => some 2
  | 'u' => some 4
  | 'U' => some 8
  | _ => none

/-- The character of an escape, from the letter after the backslash on, and how many characters it
takes. A surrogate has a character that stands for it. -/
def escape? : Text → Option (Char × Nat)
  | [] => none
  | letter :: rest =>
    match codeWidth? letter with
    | none => (shortEscape? letter).map fun c => (c, 1)
    | some width => do
      if rest.length < width then none
      let n ← Text.hexNumber? (rest.take width)
      if 0x110000 ≤ n then none
      else some (if n.isValidChar then Char.ofNat n else Text.standIn n, width + 1)

/-- A scalar in quotes, from after the opening one on. -/
def quotedBody? (quote : Char) : Nat → Cursor → Option (Text × Cursor)
  | 0, _ => none
  | fuel + 1, c =>
    match c.rest with
    | [] => none
    | char :: rest =>
      if isGap char then
        let (blanks, after) := c.span isSpace
        match after.lineEnd? with
        | some (first, next) => do
          let (more, line) ← blankLines? (next.rest.length + 1) next
          let (body, last) ← quotedBody? quote fuel line
          some (fold first more ++ body, last)
        | none => (quotedBody? quote fuel after).map fun (body, last) => (blanks ++ body, last)
      else if char = '\'' ∧ quote = '\'' ∧ rest.head? = some '\'' then
        (quotedBody? quote fuel (c.skip 2)).map fun (body, last) => ('\'' :: body, last)
      else if char = quote then some ([], c.next)
      else if char = '\\' ∧ quote = '"' then
        match c.next.lineEnd? with
        | some (_, next) => do
          let (more, line) ← blankLines? (next.rest.length + 1) next
          let (body, last) ← quotedBody? quote fuel line
          some (more ++ body, last)
        | none => do
          let (escaped, used) ← escape? rest
          let (body, last) ← quotedBody? quote fuel (c.skip (used + 1))
          some (escaped :: body, last)
      else (quotedBody? quote fuel c.next).map fun (body, last) => (char :: body, last)

/-- A scalar in quotes, from its opening quote on. -/
def quoted? (c : Cursor) : Option (Text × Cursor) :=
  match c.rest with
  | quote :: rest => quotedBody? quote (rest.length + 1) c.next
  | [] => none

/-- The marks that only flow collections know. -/
def isFlowMark (c : Char) : Bool := c == ',' || c == '[' || c == ']' || c == '\x7b' || c == '\x7d'

/-- Whether a plain scalar ends in front of a text: at a gap, at a colon with a gap after it, and
inside a flow collection at its marks. -/
def endsPlain (inFlow : Bool) : Text → Bool
  | [] => true
  | c :: rest =>
    isGap c || (inFlow && (c == '?' || isFlowMark c)) ||
      (c == ':' && (atGap rest || (inFlow && rest.head?.any isFlowMark)))

/-- The characters of a plain scalar up to its end or a gap. -/
def plainWord (inFlow : Bool) : Text → Text
  | [] => []
  | c :: rest => if endsPlain inFlow (c :: rest) then [] else c :: plainWord inFlow rest

/-- Blank lines between two lines of a plain scalar: their line ends, unless the edge of a document
comes first. -/
def plainBlankLines : Nat → Cursor → Option Text × Cursor
  | 0, c => (none, c)
  | fuel + 1, c =>
    if atDocumentEdge c.rest then (none, c)
    else
      let after := c.skipWhile (· == ' ')
      match after.lineEnd? with
      | some (first, next) =>
        let (more, last) := plainBlankLines fuel next
        (more.map (first ++ ·), last)
      | none => (some [], after)

/-- What lies between two words of a plain scalar: blanks, or folded line ends. Nothing means that
no further word can follow. -/
def plainGap (c : Cursor) : Text × Cursor :=
  let (blanks, after) := c.span (· == ' ')
  match after.lineEnd? with
  | none => (blanks, after)
  | some (first, next) =>
    let (more, last) := plainBlankLines (next.rest.length + 1) next
    ((more.map (fold first)).getD [], last)

/-- A plain scalar after the gap in front of it, the cursor after the gap behind it, and whether
that gap has a line end. In a block, lines that follow have to be indented. -/
def plainBody (inFlow : Bool) (indent : Nat) : Nat → Text → Bool → Cursor → Text × Cursor × Bool
  | 0, _, crossed, c => ([], c, crossed)
  | fuel + 1, gap, crossed, c =>
    let word := plainWord inFlow c.rest
    if word = [] ∨ c.rest.head? = some '#' then ([], c, crossed)
    else
      let before := c.skip word.length
      let (more, after) := plainGap before
      let crossed := before.line != after.line
      if more = [] ∨ (!inFlow ∧ after.column < indent) then (gap ++ word, after, crossed)
      else
        let (body, last) := plainBody inFlow indent fuel more crossed after
        (gap ++ word ++ body, last)

/-- A plain scalar. -/
def plain (inFlow : Bool) (indent : Nat) (c : Cursor) : Text × Cursor × Bool :=
  plainBody inFlow indent (c.rest.length + 1) [] false c

end SqlTemplate.Yaml
