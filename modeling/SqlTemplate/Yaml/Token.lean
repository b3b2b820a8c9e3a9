import SqlTemplate.Numeral.Digits
import SqlTemplate.Text.Hex
import SqlTemplate.Text.Utf8
import SqlTemplate.Yaml.Cursor

/-! Tokens of a YAML text, and those of them that are single words: names, tags, directives. -/
namespace SqlTemplate.Yaml

/-- A tag as written: a handle that stands for the start of a tag, if there is one, and the rest. -/
structure TagWord where
  handle : Option Text
  rest : Text
  deriving DecidableEq, Repr

inductive Directive
  | version (major : Nat)
  | handle (name start : Text)
  | other
  deriving DecidableEq, Repr

/-- The start and the end of a block collection have no character of their own. -/
inductive Token
  | directive (d : Directive)
  | documentStart
  | documentEnd
  | blockSequence
  | blockMapping
  | blockEnd
  | flowSequence
  | flowSequenceEnd
  | flowMapping
  | flowMappingEnd
  | entry
  | comma
  | key
  | value
  | reference (name : Text)
  | anchor (name : Text)
  | tag (word : TagWord)
  | scalar (isPlain : Bool) (text : Text)
  deriving DecidableEq, Repr

def isNameChar (c : Char) : Bool := c.isAlphanum || c == '-' || c == '_'

/-- What may follow the name of an anchor. -/
def endsName (text : Text) : Bool :=
  atGap text || text.head?.any fun c => "?:,]\x7d%@\x60".toList.contains c

/-- The name of an anchor or of a reference to one, from its mark on. -/
def name? (c : Cursor) : Option (Text × Cursor) :=
  let (name, after) := c.next.span isNameChar
  if name ≠ [] ∧ endsName after.rest then some (name, after) else none

def isTagChar (c : Char) : Bool :=
  isNameChar c || ";/?:@&=+$,.!~*'()[]%".toList.contains c

/-- The bytes of a row of percent escapes at the front. -/
def escapedBytes? : Text → Option (List UInt8)
  | '%' :: a :: b :: rest => do
    let n ← Text.hexNumber? [a, b]
    let more ← escapedBytes? rest
    some (UInt8.ofNat n :: more)
  | '%' :: _ => none
  | _ => some []

/-- The characters of a tag with its percent escapes decoded. -/
def unescaped? : Nat → Text → Option Text
  | 0, _ => none
  | fuel + 1, text =>
    match text with
    | [] => some []
    | '%' :: _ => do
      let bytes ← escapedBytes? text
      let decoded ← (Text.Utf8.decode bytes).toOption
      let more ← unescaped? fuel (text.drop (3 * bytes.length))
      some (decoded ++ more)
    | c :: rest => (unescaped? fuel rest).map (c :: ·)

/-- The longest row of characters that a tag may have; there has to be one. -/
def tagText? (c : Cursor) : Option (Text × Cursor) := do
  let (text, after) := c.span isTagChar
  if text = [] then none
  let decoded ← unescaped? (text.length + 1) text
  some (decoded, after)

/-- A handle: an exclamation mark, or a name between two of them. -/
def handle? (c : Cursor) : Option (Text × Cursor) :=
  match c.rest with
  | '!' :: ' ' :: _ => some (['!'], c.next)
  | '!' :: rest =>
    let name := rest.takeWhile isNameChar
    if (rest.drop name.length).head? = some '!' then
      some ('!' :: name ++ ['!'], c.skip (name.length + 2))
    else none
  | _ => none

/-- Whether nothing, a space or a line end comes next. -/
def atSpace (text : Text) : Bool := atGap text && text.head? != some '\t'

/-- Whether an exclamation mark comes before the next space or line end. -/
def marksHandle (text : Text) : Bool :=
  (text.takeWhile fun c => c != ' ' && !isBreak c).contains '!'

/-- A tag from its exclamation mark on: in full between angle brackets, with a handle, or alone. -/
def tag? (c : Cursor) : Option (TagWord × Cursor) := do
  let (word, after) ← match c.next.rest with
    | '<' :: _ => do
      let (text, after) ← tagText? (c.skip 2)
      if after.rest.head? = some '>' then some (⟨none, text⟩, after.next) else none
    | rest =>
      if atGap rest then some (⟨none, ['!']⟩, c.next)
      else do
        let (handle, start) ← if marksHandle rest then handle? c else some (['!'], c.next)
        let (text, after) ← tagText? start
        some (⟨some handle, text⟩, after)
  if atSpace after.rest then some (word, after) else none

/-- A row of digits as a number. -/
def versionNumber? (c : Cursor) : Option (Nat × Cursor) :=
  let (digits, after) := c.span Char.isDigit
  if digits = [] then none else some (Numeral.ofDigits digits, after)

/-- A directive from its percent sign on, with its line. -/
def directive? (c : Cursor) : Option (Directive × Cursor) := do
  let (name, afterName) := c.next.span isNameChar
  if name = [] ∨ !atSpace afterName.rest then none
  let start := afterName.skipWhile (· == ' ')
  let (directive, after) ←
    if name = "YAML".toList then do
      let (major, point) ← versionNumber? start
      if point.rest.head? ≠ some '.' then none
      let (_, after) ← versionNumber? point.next
      some (Directive.version major, after)
    else if name = "TAG".toList then do
      let (handle, gap) ← handle? start
      if gap.rest.head? ≠ some ' ' then none
      let (text, after) ← tagText? (gap.skipWhile (· == ' '))
      some (Directive.handle handle text, after)
    else some (Directive.other, start.skipWhile (!isBreak ·))
  if !atSpace after.rest then none
  let last ← after.finishLine?
  some (directive, last)

end SqlTemplate.Yaml
