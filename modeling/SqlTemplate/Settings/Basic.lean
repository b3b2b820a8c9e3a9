import SqlTemplate.Value.Entries

/-! Settings: what may be set, and how it is read from the entries of a table. -/
namespace SqlTemplate

/-- Each setting may be absent. -/
structure Settings where
  outputFormat : Option Text
  argumentsFile : Option Text
  consumeSkipped : Option Bool
  validates : Option Bool
  dialect : Option Text
  deriving DecidableEq, Repr

namespace Settings

def default : Settings := ⟨none, none, none, none, none⟩

def yesWords : List String := ["1", "t", "true", "y", "yes", "on"]
def noWords : List String := ["0", "f", "false", "n", "no", "off"]

/-- A word for yes or no, in any case of its ASCII letters. -/
def wordSwitch? (word : Text) : Option Bool :=
  let word := String.ofList (Text.lowerAscii word)
  if word ∈ yesWords then some true else if word ∈ noWords then some false else none

def integerSwitch? (i : Int) : Option Bool :=
  if i = 1 then some true else if i = 0 then some false else none

/-- A value that switches something on or off: a boolean, zero or one, or a word. -/
def switch? : Value → Option Bool
  | .bool b => some b
  | .int i => integerSwitch? i
  | .double d => d.toInt? >>= integerSwitch?
  | .str word => wordSwitch? word
  | _ => none

def name? : Value → Option Text
  | .str text => some text
  | _ => none

/-- A setting from the entries of a table: absent, or read. The outer option is none when there is a
value that does not fit. -/
def setting? {α : Type} (read? : Value → Option α) (name : String)
    (entries : List (Value × Value)) : Option (Option α) :=
  match Value.lookup? name.toList entries with
  | none => some none
  | some v => (read? v).map some

/-- The settings in the entries of a table, or the number of values that do not fit. Entries of
other names are passed over. -/
def ofEntries (entries : List (Value × Value)) : Except Nat Settings :=
  let outputFormat := setting? name? "output_format" entries
  let argumentsFile := setting? name? "args_file" entries
  let consumeSkipped := setting? switch? "consume_skipped" entries
  let validates := setting? switch? "validate_sql" entries
  let dialect := setting? name? "dialect" entries
  match outputFormat, argumentsFile, consumeSkipped, validates, dialect with
  | some f, some a, some c, some v, some d => .ok ⟨f, a, c, v, d⟩
  | _, _, _, _, _ =>
    .error ([outputFormat.isNone, argumentsFile.isNone, consumeSkipped.isNone, validates.isNone,
      dialect.isNone].countP id)

example : ofEntries [] = .ok default := rfl
example : switch? (.double Double.zero) = some false := by decide +kernel

end Settings
end SqlTemplate
