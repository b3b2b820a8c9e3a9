import SqlTemplate.Double.Notation
import SqlTemplate.Text.Hex
import SqlTemplate.Value.Basic

/-! Values are written as JSON in ASCII, on one line or with an indent. -/
namespace SqlTemplate.Json

/-- How deep a level is indented; without an indent all stands on one line. -/
structure Layout where
  indent : Option Nat
  deriving DecidableEq, Repr

def Layout.oneLine : Layout := ⟨none⟩
def Layout.indented : Layout := ⟨some 2⟩

/-- The line break in front of an item of a level. -/
def Layout.lineBreak (l : Layout) (level : Nat) : Text :=
  match l.indent with
  | none => []
  | some n => '\n' :: List.replicate (n * level) ' '

/-- What stands between two items of a level. -/
def Layout.separator (l : Layout) (level : Nat) : Text :=
  match l.indent with
  | none => [',', ' ']
  | some _ => ',' :: l.lineBreak level

def codeText (n : Nat) : Text := '\\' :: 'u' :: Text.hexDigits 4 n

/-- A character in a string; beyond ASCII as one or two code escapes. -/
def charText (c : Char) : Text :=
  if c = '"' ∨ c = '\\' then ['\\', c]
  else if c = '\n' then ['\\', 'n']
  else if c = '\r' then ['\\', 'r']
  else if c = '\t' then ['\\', 't']
  else if c = '\x08' then ['\\', 'b']
  else if c = '\x0c' then ['\\', 'f']
  else if 0x20 ≤ c.toNat ∧ c.toNat < 0x7F then [c]
  else if c.toNat < 0x10000 then codeText c.toNat
  else
    let n := c.toNat - 0x10000
    codeText (0xD800 + n / 0x400) ++ codeText (0xDC00 + n % 0x400)

def stringText (text : Text) : Text := '"' :: text.flatMap charText ++ ['"']

/-- A double; those that are not finite have names. -/
def doubleText : Double → Text
  | .nan => "NaN".toList
  | .infinite false => "Infinity".toList
  | .infinite true => "-Infinity".toList
  | d => d.text

mutual

/-- A value on a level. Only what JSON knows is written; anything else becomes null. -/
def write (l : Layout) (level : Nat) : Value → Text
  | .bool true => "true".toList
  | .bool false => "false".toList
  | .int i => Numeral.ofInt i
  | .double d => doubleText d
  | .str text => stringText text
  | .sequence _ [] => ['[', ']']
  | .sequence _ items =>
    '[' :: l.lineBreak (level + 1) ++ writeItems l (level + 1) items ++ l.lineBreak level ++ [']']
  | .mapping _ [] => ['\x7b', '\x7d']
  | .mapping _ entries =>
    '\x7b' :: l.lineBreak (level + 1) ++ writeEntries l (level + 1) entries ++
      l.lineBreak level ++ ['\x7d']
  | _ => "null".toList

def writeItems (l : Layout) (level : Nat) : List Value → Text
  | [] => []
  | [item] => write l level item
  | item :: rest => write l level item ++ l.separator level ++ writeItems l level rest

def writeEntries (l : Layout) (level : Nat) : List (Value × Value) → Text
  | [] => []
  | [(key, v)] => write l level key ++ ':' :: ' ' :: write l level v
  | (key, v) :: rest =>
    write l level key ++ ':' :: ' ' :: write l level v ++ l.separator level ++
      writeEntries l level rest

end

end SqlTemplate.Json
