import SqlTemplate.Json.Error
import SqlTemplate.Numeral.Basic
import SqlTemplate.Text.Surrogate
import SqlTemplate.Value.Entries

/-! JSON texts are read into values. Numbers that are not finite have names; a repeated name in an
object keeps its first place and takes its last value. -/
namespace SqlTemplate.Json

/-- What is left of a text, and the position where it starts. -/
structure Cursor where
  position : Nat
  rest : Text
  deriving DecidableEq, Repr

namespace Cursor

/-- The cursor after `n` characters. -/
def skip (c : Cursor) (n : Nat) : Cursor := ⟨c.position + n, c.rest.drop n⟩

def isSpace (c : Char) : Bool := c == ' ' || c == '\t' || c == '\n' || c == '\r'

def skipSpaces (c : Cursor) : Cursor := c.skip (c.rest.takeWhile isSpace).length

end Cursor

def failAt {α : Type} (fault : Fault) (position : Nat) : Except Error α :=
  .error (.fault fault position)

/-- Four hexadecimal digits, with a character of the text after them. -/
def codeUnit? (rest : Text) : Option Nat :=
  if 4 < rest.length then Text.hexNumber? (rest.take 4) else none

def isHighSurrogate (n : Nat) : Bool := 0xD800 ≤ n && n < 0xDC00
def isLowSurrogate (n : Nat) : Bool := 0xDC00 ≤ n && n < 0xE000

/-- The character of a code unit, or the one that stands for a surrogate without its partner. -/
def unitChar (n : Nat) : Char :=
  if isHighSurrogate n || isLowSurrogate n then Text.standIn n else Char.ofNat n

def joinSurrogates (high low : Nat) : Char :=
  Char.ofNat (0x10000 + (high - 0xD800) * 0x400 + (low - 0xDC00))

/-- The character of an escape that is no code, by the character after the backslash. -/
def shortEscape? : Char → Option Char
  | '"' => some '"'
  | '\\' => some '\\'
  | '/' => some '/'
  | 'b' => some '\x08'
  | 'f' => some '\x0c'
  | 'n' => some '\n'
  | 'r' => some '\r'
  | 't' => some '\t'
  | _ => none

/-- A code escape, its four digits in front of the text and the letter `u` at `position`: the
character and the number of characters used. A second code escape that completes a surrogate pair
belongs to it. -/
def codeEscape (position : Nat) (rest : Text) : Except Error (Char × Nat) :=
  match codeUnit? rest with
  | none => failAt .codeEscape position
  | some unit =>
    match rest.drop 4 with
    | '\\' :: 'u' :: more =>
      if isHighSurrogate unit ∧ 4 < more.length then
        match codeUnit? more with
        | none => failAt .codeEscape (position + 6)
        | some second =>
          if isLowSurrogate second then .ok (joinSurrogates unit second, 10)
          else .ok (unitChar unit, 4)
      else .ok (unitChar unit, 4)
    | _ => .ok (unitChar unit, 4)

/-- The characters of a string whose opening quote stands at `start`, up to the closing quote. -/
def stringBody (start : Nat) : Nat → Cursor → Except Error (Text × Cursor)
  | 0, _ => failAt .openString start
  | fuel + 1, c =>
    match c.rest with
    | [] => failAt .openString start
    | '"' :: _ => .ok ([], c.skip 1)
    | '\\' :: 'u' :: rest => do
      let (char, used) ← codeEscape (c.position + 1) rest
      let (text, after) ← stringBody start fuel (c.skip (2 + used))
      pure (char :: text, after)
    | ['\\'] => failAt .openString start
    | '\\' :: letter :: _ =>
      match shortEscape? letter with
      | none => failAt .escape c.position
      | some char => do
        let (text, after) ← stringBody start fuel (c.skip 2)
        pure (char :: text, after)
    | char :: _ =>
      if char.toNat < 0x20 then failAt .controlCharacter c.position
      else do
        let (text, after) ← stringBody start fuel (c.skip 1)
        pure (char :: text, after)

/-- A string from its opening quote on. -/
def string (c : Cursor) : Except Error (Text × Cursor) :=
  stringBody c.position c.rest.length (c.skip 1)

/-- The digits of a whole number: one zero, or digits that do not start with zero. -/
def wholeDigits (rest : Text) : Text :=
  match rest with
  | '0' :: _ => ['0']
  | rest => rest.takeWhile Char.isDigit

/-- A fraction if the text starts with a point and a digit. -/
def fractionDigits? : Text → Option Text
  | '.' :: rest =>
    let digits := rest.takeWhile Char.isDigit
    if digits = [] then none else some digits
  | _ => none

/-- An exponent if the text starts with one that has a digit. -/
def exponent? : Text → Option Numeral.Exponent
  | mark :: rest =>
    if mark = 'e' ∨ mark = 'E' then
      let (sign, unsigned) := Numeral.takeSign rest
      let digits := unsigned.takeWhile Char.isDigit
      if digits = [] then none else some ⟨mark, sign, digits⟩
    else none
  | [] => none

/-- The longest number at the front; without digits there is none. -/
def numeral? (rest : Text) : Option Numeral :=
  let sign : Text := if rest.head? = some '-' then ['-'] else []
  let unsigned := rest.drop sign.length
  let whole := wholeDigits unsigned
  if whole = [] then none
  else
    let afterWhole := unsigned.drop whole.length
    let fraction := fractionDigits? afterWhole
    some ⟨sign, whole, fraction, exponent? (afterWhole.drop (Numeral.fractionText fraction).length)⟩

/-- A number without fraction and exponent is an integer, any other a double. -/
def number (c : Cursor) : Except Error (Value × Cursor) :=
  match numeral? c.rest with
  | none => failAt .value c.position
  | some n =>
    let after := c.skip n.text.length
    if n.fraction = none ∧ n.exponent = none then
      if n.whole.length ≤ Numeral.digitLimit then .ok (.int (Numeral.signed n.sign n.whole), after)
      else .error (.integerTooLong n.whole.length)
    else .ok (.double n.toDouble, after)

/-- The values that have names. -/
def names : List (Text × Value) :=
  [("null".toList, .null), ("true".toList, .bool true), ("false".toList, .bool false),
    ("NaN".toList, .double .nan), ("Infinity".toList, .double (.infinite false)),
    ("-Infinity".toList, .double (.infinite true))]

/-- A name or a number. -/
def atom (c : Cursor) : Except Error (Value × Cursor) :=
  match names.find? fun n => n.1.isPrefixOf c.rest with
  | some (name, v) => .ok (v, c.skip name.length)
  | none => number c

mutual

/-- A value that starts at the cursor. No more than two calls share a character, so twice the length
of the text is fuel enough. Values nest without limit; a caller that has one reads on a `Stack`. -/
def value : Nat → Cursor → Except Error (Value × Cursor)
  | 0, c => failAt .value c.position
  | fuel + 1, c =>
    match c.rest with
    | '"' :: _ => do
      let (text, after) ← string c
      pure (.str text, after)
    | '[' :: _ =>
      let inner := (c.skip 1).skipSpaces
      match inner.rest with
      | ']' :: _ => .ok (.list [], inner.skip 1)
      | _ => do
        let (items, after) ← items fuel inner
        pure (.list items, after)
    | '\x7b' :: _ =>
      let inner := (c.skip 1).skipSpaces
      match inner.rest with
      | '\x7d' :: _ => .ok (.dict [], inner.skip 1)
      | _ => do
        let (pairs, after) ← members fuel inner
        pure (.dict (Value.entriesOf pairs), after)
    | _ => atom c

/-- Items up to the closing bracket. -/
def items : Nat → Cursor → Except Error (List Value × Cursor)
  | 0, c => failAt .value c.position
  | fuel + 1, c => do
    let (item, after) ← value fuel c
    let next := after.skipSpaces
    match next.rest with
    | ']' :: _ => pure ([item], next.skip 1)
    | ',' :: _ => do
      let (rest, last) ← items fuel (next.skip 1).skipSpaces
      pure (item :: rest, last)
    | _ => failAt .comma next.position

/-- Names and values up to the closing brace. -/
def members : Nat → Cursor → Except Error (List (Value × Value) × Cursor)
  | 0, c => failAt .name c.position
  | fuel + 1, c =>
    match c.rest with
    | '"' :: _ => do
      let (name, afterName) ← string c
      let colon := afterName.skipSpaces
      match colon.rest with
      | ':' :: _ => do
        let (v, after) ← value fuel (colon.skip 1).skipSpaces
        let next := after.skipSpaces
        match next.rest with
        | '\x7d' :: _ => pure ([(.str name, v)], next.skip 1)
        | ',' :: _ => do
          let (rest, last) ← members fuel (next.skip 1).skipSpaces
          pure ((.str name, v) :: rest, last)
        | _ => failAt .comma next.position
      | _ => failAt .colon colon.position
    | _ => failAt .name c.position

end

/-- The value of a whole text, with blanks around it. -/
def read (text : Text) : Except Error Value :=
  match text with
  | '\ufeff' :: _ => failAt .byteOrderMark 0
  | _ => do
    let (v, after) ← value (2 * text.length + 1) (Cursor.skipSpaces ⟨0, text⟩)
    let last := after.skipSpaces
    if last.rest = [] then pure v else failAt .extraData last.position

end SqlTemplate.Json
