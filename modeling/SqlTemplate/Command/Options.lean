import SqlTemplate.Text.Basic

/-! Words of a command line: options anywhere among the other words, up to a double hyphen. -/
namespace SqlTemplate.Command

/-- What an option stands for, by itself or with the value that it takes. -/
inductive Meaning (α : Type)
  | flag (a : α)
  | valued (f : Text → α)

/-- An option by its long name behind two hyphens, and by a letter behind one. -/
structure OptionRule (α : Type) where
  long : Text
  letter : Option Char
  meaning : Meaning α

/-- One word, apart from any value in a word after it. -/
inductive Word (α : Type)
  | plain (text : Text)
  | option (a : α)
  | needsValue (f : Text → α)
  | endOfOptions
  | refused

/-- The name and the value of a long option, which an equals sign may join. -/
def splitValue (text : Text) : Text × Option Text :=
  let name := text.takeWhile (· != '=')
  match text.drop name.length with
  | _ :: value => (name, some value)
  | [] => (name, none)

/-- A long option. Only one that takes a value may have one. -/
def longWord {α : Type} (rules : List (OptionRule α)) (text : Text) : Word α :=
  let (name, value) := splitValue text
  match rules.find? (·.long == name) with
  | none => .refused
  | some rule =>
    match rule.meaning, value with
    | .flag a, none => .option a
    | .flag _, some _ => .refused
    | .valued f, some value => .option (f value)
    | .valued f, none => .needsValue f

/-- An option by its letter; its value is the rest of the word, if there is any. -/
def letterWord {α : Type} (rules : List (OptionRule α)) (letter : Char) (rest : Text) : Word α :=
  match rules.find? (·.letter == some letter) with
  | none => .refused
  | some rule =>
    match rule.meaning, rest with
    | .flag a, [] => .option a
    | .flag _, _ :: _ => .refused
    | .valued f, [] => .needsValue f
    | .valued f, rest => .option (f rest)

def wordOf {α : Type} (rules : List (OptionRule α)) (text : Text) : Word α :=
  match text with
  | ['-', '-'] => .endOfOptions
  | '-' :: '-' :: name => longWord rules name
  | '-' :: letter :: rest => letterWord rules letter rest
  | text => .plain text

/-- The options in order, and the words that are none; nothing if a word is refused or a value is
missing. A word that serves as a value is not looked at. -/
def readWords {α : Type} (rules : List (OptionRule α)) : List Text → Option (List α × List Text)
  | [] => some ([], [])
  | word :: rest =>
    match wordOf rules word with
    | .plain text => (readWords rules rest).map fun (options, words) => (options, text :: words)
    | .option a => (readWords rules rest).map fun (options, words) => (a :: options, words)
    | .needsValue f =>
      match rest with
      | [] => none
      | value :: rest =>
        (readWords rules rest).map fun (options, words) => (f value :: options, words)
    | .endOfOptions => some ([], rest)
    | .refused => none

end SqlTemplate.Command
