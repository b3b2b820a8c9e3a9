import SqlTemplate.Numeral.Digits
import SqlTemplate.Text.Hex

/-! What kind of value a YAML node is: its tag says so, or for a plain scalar its text. -/
namespace SqlTemplate.Yaml

inductive Kind
  | null
  | boolean
  | integer
  | double
  | timestamp
  | binary
  | text
  | sequence
  | mapping
  | set
  | pairs
  | merge
  | defaultValue
  | unknown
  deriving DecidableEq, Repr

/-- The start of the tags that every text knows. -/
def commonTagStart : Text := "tag:yaml.org,2002:".toList

/-- The names of the kinds behind that start. -/
def kindNames : List (String × Kind) :=
  [("null", .null), ("bool", .boolean), ("int", .integer), ("float", .double),
    ("timestamp", .timestamp), ("binary", .binary), ("str", .text), ("seq", .sequence),
    ("map", .mapping), ("set", .set), ("omap", .pairs), ("pairs", .pairs), ("merge", .merge),
    ("value", .defaultValue)]

def Kind.ofTag (tag : Text) : Kind :=
  if commonTagStart.isPrefixOf tag then
    let name := String.ofList (tag.drop commonTagStart.length)
    ((kindNames.find? (·.1 == name)).map (·.2)).getD .unknown
  else .unknown

def isDigitOrUnderscore (c : Char) : Bool := c.isDigit || c == '_'

/-- A text without the sign in front of it. -/
def unsigned (text : Text) : Text :=
  match text with
  | '+' :: rest | '-' :: rest => rest
  | rest => rest

def nullWords : List String := ["", "~", "null", "Null", "NULL"]

def yesWords : List String := ["yes", "Yes", "YES", "true", "True", "TRUE", "on", "On", "ON"]

def noWords : List String := ["no", "No", "NO", "false", "False", "FALSE", "off", "Off", "OFF"]

def infinityWords : List String := [".inf", ".Inf", ".INF"]

def nanWords : List String := [".nan", ".NaN", ".NAN"]

/-- Whether a text is a sixtieth in one or two digits. -/
def isSixtieth (text : Text) : Bool :=
  match text with
  | [a] => a.isDigit
  | [a, b] => '0' ≤ a && a ≤ '5' && b.isDigit
  | _ => false

/-- A digit, then digits and underscores. -/
def isRow (text : Text) : Bool := text.head?.any Char.isDigit && text.all isDigitOrUnderscore

/-- Two digits or more between colons, the first part of any length. -/
def isSexagesimal (isFirst : Text → Bool) (text : Text) : Bool :=
  match text.splitOn ':' with
  | first :: second :: rest => isFirst first && (second :: rest).all isSixtieth
  | _ => false

/-- A row that does not start with zero. -/
def isPositiveRow (text : Text) : Bool := isRow text && text.head? != some '0'

def isIntegerText (text : Text) : Bool :=
  let digits := unsigned text
  let isRest (isDigit : Char → Bool) (rest : Text) : Bool :=
    rest ≠ [] && rest.all fun c => isDigit c || c == '_'
  match digits with
  | ['0'] => true
  | '0' :: 'b' :: rest => isRest (fun c => c == '0' || c == '1') rest
  | '0' :: 'x' :: rest => isRest (fun c => (Text.hexValue? c).isSome) rest
  | '0' :: rest => isRest (fun c => '0' ≤ c && c ≤ '7') rest
  | _ => isPositiveRow digits || isSexagesimal isPositiveRow digits

/-- An exponent with a sign and digits, or nothing. -/
def isExponentOrEmpty (text : Text) : Bool :=
  match text with
  | [] => true
  | mark :: sign :: digits =>
    (mark == 'e' || mark == 'E') && (sign == '+' || sign == '-') && digits ≠ [] &&
      digits.all Char.isDigit
  | _ => false

/-- A text up to its first point, and what follows that. -/
def atPoint? (text : Text) : Option (Text × Text) :=
  let whole := text.takeWhile (· != '.')
  match text.drop whole.length with
  | _ :: rest => some (whole, rest)
  | [] => none

/-- A double has a point. A sign needs a digit behind it, and the exponent needs a sign. -/
def isDoubleText (text : Text) : Bool :=
  let isWord := (String.ofList (unsigned text) ∈ infinityWords) || String.ofList text ∈ nanWords
  let isNumber :=
    match atPoint? (unsigned text) with
    | none => false
    | some ([], fraction) =>
      unsigned text == text && fraction.head?.any Char.isDigit &&
        isExponentOrEmpty (fraction.dropWhile isDigitOrUnderscore)
    | some (whole, fraction) =>
      let rest := fraction.dropWhile isDigitOrUnderscore
      (isRow whole && isExponentOrEmpty rest) || (isSexagesimal isRow whole && rest = [])
  isWord || isNumber

/-- A number of `least` to `most` digits at the front. -/
def digitsUpTo? (least most : Nat) (text : Text) : Option (Nat × Text) :=
  let digits := (text.takeWhile Char.isDigit).take most
  if least ≤ digits.length then some (Numeral.ofDigits digits, text.drop digits.length) else none

end SqlTemplate.Yaml
