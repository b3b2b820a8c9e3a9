import SqlTemplate.Text.Newline
import SqlTemplate.Toml.Quoted
import SqlTemplate.Toml.Scalar
import SqlTemplate.Toml.Table

/-! TOML documents are read into the entries of their top table. -/
namespace SqlTemplate.Toml

def orInvalid {α : Type} : Option α → Except Error α
  | some a => .ok a
  | none => .error .invalid

/-- The text after a comment, if it starts with one. -/
def skipComment? : Text → Option Text
  | '#' :: rest =>
    let body := rest.takeWhile (· != '\n')
    if body.any isControl then none else some (rest.drop body.length)
  | text => some text

/-- The text after blanks, line ends and comments. -/
def skipFiller? : Nat → Text → Option Text
  | 0, text => some text
  | fuel + 1, text =>
    match text.dropWhile isBlankOrBreak with
    | '#' :: rest => skipComment? ('#' :: rest) >>= skipFiller? fuel
    | rest => some rest

def isBare (c : Char) : Bool := c.isAlphanum || c == '-' || c == '_'

/-- One part of a key: bare, or a string in one line. -/
def keyPart? (text : Text) : Option (Text × Text) :=
  let bare := text.takeWhile isBare
  if bare = [] then simpleString? text else some (bare, text.drop bare.length)

/-- The parts of a key with points between them, and the text after the blanks that follow. -/
def keyPath? : Nat → Text → Option (List Text × Text)
  | 0, _ => none
  | fuel + 1, text => do
    let (part, after) ← keyPart? text
    match skipBlanks after with
    | '.' :: rest => do
      let (path, last) ← keyPath? fuel (skipBlanks rest)
      some (part :: path, last)
    | rest => some ([part], rest)

/-- A key in front of an equals sign, and the text where its value starts. -/
def assigned? (text : Text) : Option (List Text × Text) := do
  match ← keyPath? (text.length + 1) text with
  | (key, '=' :: rest) => some (key, skipBlanks rest)
  | _ => none

mutual

/-- A value at the front. No more than two calls share a character, so twice the length of the text
is fuel enough. Values nest without limit; a caller that has one reads on a `Stack`. -/
def value : Nat → Text → Except Error (Value × Text)
  | 0, _ => .error .invalid
  | fuel + 1, text =>
    match text with
    | '[' :: rest => do
      let (items, after) ← items fuel (← orInvalid (skipFiller? rest.length rest))
      pure (.list items, after)
    | '\x7b' :: rest =>
      match skipBlanks rest with
      | '\x7d' :: after => .ok (.dict [], after)
      | inner => do
        let (entries, after) ← inline fuel [] inner
        pure (.dict (toPairs entries), after)
    | c :: _ =>
      if c = '"' ∨ c = '\'' then do
        let (body, after) ← orInvalid (string? text)
        pure (.str body, after)
      else scalar text
    | [] => .error .invalid

/-- Items up to the closing bracket; a comma may stand after the last one. -/
def items : Nat → Text → Except Error (List Value × Text)
  | 0, _ => .error .invalid
  | fuel + 1, text =>
    match text with
    | ']' :: rest => .ok ([], rest)
    | _ => do
      let (item, after) ← value fuel text
      match ← orInvalid (skipFiller? after.length after) with
      | ']' :: rest => pure ([item], rest)
      | ',' :: rest => do
        let (more, last) ← items fuel (← orInvalid (skipFiller? rest.length rest))
        pure (item :: more, last)
      | _ => .error .invalid

/-- Keys and values of a table in one line, up to the closing brace, after those read before. -/
def inline : Nat → Entries → Text → Except Error (Entries × Text)
  | 0, _, _ => .error .invalid
  | fuel + 1, entries, text => do
    let (key, start) ← orInvalid (assigned? text)
    let (v, after) ← value fuel start
    let entries ← orInvalid (entries.insert 0 v key)
    match skipBlanks after with
    | '\x7d' :: rest => pure (entries, rest)
    | ',' :: rest => inline fuel entries (skipBlanks rest)
    | _ => .error .invalid

end

/-- A header: the document that the path changes, if the closing brackets follow. -/
def header (change : List Text → Document → Option Document) (closing : Text) (d : Document)
    (text : Text) : Except Error (Document × Text) := do
  let inner := skipBlanks text
  let (path, after) ← orInvalid (keyPath? (inner.length + 1) inner)
  let d ← orInvalid (change path d)
  if closing.isPrefixOf after then pure (d, after.drop closing.length) else .error .invalid

/-- The header or the key and value that a line starts with; nothing is used of any other line. -/
def statement (d : Document) (text : Text) : Except Error (Document × Text) :=
  match text with
  | '[' :: '[' :: rest => header Document.append [']', ']'] d rest
  | '[' :: rest => header Document.define [']'] d rest
  | c :: _ =>
    if isBare c || c == '"' || c == '\'' then do
      let (key, start) ← orInvalid (assigned? text)
      let (v, after) ← value (2 * start.length + 1) start
      pure (← orInvalid (d.insert key v), after)
    else .ok (d, text)
  | [] => .ok (d, [])

/-- The document after all lines, each with one statement or none and with a comment or none. -/
def lines : Nat → Document → Text → Except Error Document
  | 0, _, _ => .error .invalid
  | fuel + 1, d, text => do
    let (d, after) ← statement d (skipBlanks text)
    match ← orInvalid (skipComment? (skipBlanks after)) with
    | [] => pure d
    | '\n' :: rest => lines fuel d rest
    | _ => .error .invalid

/-- The entries of a document's top table. -/
def read (text : Text) : Except Error (List (Value × Value)) := do
  let text := Text.joinLineEnds text
  pure (toPairs (← lines (text.length + 1) .empty text).root)

end SqlTemplate.Toml
