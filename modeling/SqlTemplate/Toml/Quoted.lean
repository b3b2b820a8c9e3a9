import SqlTemplate.Text.Hex

/-! Strings of a TOML document: with escapes or without, in one line or in several. -/
namespace SqlTemplate.Toml

def isBlank (c : Char) : Bool := c == ' ' || c == '\t'

def isBlankOrBreak (c : Char) : Bool := isBlank c || c == '\n'

def skipBlanks (text : Text) : Text := text.dropWhile isBlank

/-- A control character; a tab is none. -/
def isControl (c : Char) : Bool := (c.toNat < 0x20 && c != '\t') || c.toNat == 0x7F

/-- The character of an escape that is no code, by the character after the backslash. -/
def shortEscape? : Char → Option Char
  | '"' => some '"'
  | '\\' => some '\\'
  | 'b' => some '\x08'
  | 'f' => some '\x0c'
  | 'n' => some '\n'
  | 'r' => some '\r'
  | 't' => some '\t'
  | _ => none

/-- The character whose code the first hexadecimal digits write; a surrogate is no character. -/
def codeEscape? (width : Nat) (text : Text) : Option (Char × Text) :=
  if text.length < width then none
  else
    match Text.hexNumber? (text.take width) with
    | some n => if n.isValidChar then some (Char.ofNat n, text.drop width) else none
    | none => none

/-- The character of an escape, from the text after its backslash on. -/
def escape? : Text → Option (Char × Text)
  | 'u' :: rest => codeEscape? 4 rest
  | 'U' :: rest => codeEscape? 8 rest
  | letter :: rest => (shortEscape? letter).map fun c => (c, rest)
  | [] => none

/-- The text after an escaped line end, from after the backslash on: the rest of the line has to be
blank, and all blank lines and blanks after it are passed over. -/
def folded? (text : Text) : Option Text :=
  match text with
  | c :: _ =>
    if isBlankOrBreak c then
      match skipBlanks text with
      | [] => some []
      | '\n' :: rest => some (rest.dropWhile isBlankOrBreak)
      | _ => none
    else none
  | [] => none

/-- A string with escapes in one line, from after its opening quote on. Each call uses a character,
so the length of the text is fuel enough. -/
def lineString? : Nat → Text → Option (Text × Text)
  | 0, _ => none
  | fuel + 1, text =>
    match text with
    | [] => none
    | '"' :: rest => some ([], rest)
    | '\\' :: rest => do
      let (c, after) ← escape? rest
      let (body, last) ← lineString? fuel after
      some (c :: body, last)
    | c :: rest =>
      if isControl c then none
      else (lineString? fuel rest).map fun (body, last) => (c :: body, last)

/-- Up to two quotes in front of the closing three belong to the string. -/
def extraQuotes (quote : Char) (text : Text) : Text × Text :=
  let extra := ((text.takeWhile (· == quote)).take 2)
  (extra, text.drop extra.length)

/-- A string with escapes in several lines, from after its opening quotes on. -/
def linesString? : Nat → Text → Option (Text × Text)
  | 0, _ => none
  | fuel + 1, text =>
    match text with
    | [] => none
    | '"' :: '"' :: '"' :: rest => some (extraQuotes '"' rest)
    | '\\' :: rest =>
      match folded? rest with
      | some after => linesString? fuel after
      | none => do
        let (c, after) ← escape? rest
        let (body, last) ← linesString? fuel after
        some (c :: body, last)
    | c :: rest =>
      if isControl c && c != '\n' then none
      else (linesString? fuel rest).map fun (body, last) => (c :: body, last)

/-- A string without escapes in one line, from after its opening quote on. -/
def rawString? : Text → Option (Text × Text)
  | [] => none
  | '\'' :: rest => some ([], rest)
  | c :: rest =>
    if isControl c then none else (rawString? rest).map fun (body, last) => (c :: body, last)

/-- A string without escapes in several lines, from after its opening quotes on. -/
def rawLinesString? : Text → Option (Text × Text)
  | [] => none
  | '\'' :: '\'' :: '\'' :: rest => some (extraQuotes '\'' rest)
  | c :: rest =>
    if isControl c && c != '\n' then none
    else (rawLinesString? rest).map fun (body, last) => (c :: body, last)

/-- A line end right after the opening quotes is no part of the string. -/
def dropFirstBreak : Text → Text
  | '\n' :: rest => rest
  | text => text

/-- A string in one line, and what follows it. -/
def simpleString? : Text → Option (Text × Text)
  | '"' :: rest => lineString? (rest.length + 1) rest
  | '\'' :: rest => rawString? rest
  | _ => none

/-- A string of any kind, and what follows it. -/
def string? : Text → Option (Text × Text)
  | '"' :: '"' :: '"' :: rest => linesString? (rest.length + 1) (dropFirstBreak rest)
  | '\'' :: '\'' :: '\'' :: rest => rawLinesString? (dropFirstBreak rest)
  | text => simpleString? text

example : string? "\"a\\u00e9\\n\"x".toList = some (['a', 'é', '\n'], ['x']) := by decide +kernel
example : string? "\"\"\"\na\\  \n  b\"\"\"\"\",".toList = some ("ab\"\"".toList, [',']) := by
  decide +kernel
example : string? "\"\\ud800\"".toList = none := by decide +kernel

end SqlTemplate.Toml
