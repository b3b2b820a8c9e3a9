import SqlTemplate.Binding.Error
import SqlTemplate.Numeral.Leading
import SqlTemplate.Value.Shown

/-! Values written as SQL text. Quotes wrap strings and escape nothing inside them; containers are
written only at the top level of an array or identifier argument. -/
namespace SqlTemplate

def dataQuote : Text := ['\'']
def identifierQuote : Text := ['\x60']
def separator : Text := [',', ' ']

/-- Whole doubles below this size are written without a fraction. -/
def wholeBound : Nat := 1000000000000000

/-- The decimal text of an integer, if it is not too long. -/
def intText (i : Int) : Except FormatError Text :=
  match Numeral.ofInt? i with
  | some text => .ok text
  | none => .error .integerTooLong

/-- The decimal text of a finite double. -/
def doubleText (d : Double) : Except FormatError Text :=
  if d.isFinite then
    match d.toInt? with
    | some i => .ok (if i.natAbs < wholeBound then Numeral.ofInt i else d.text)
    | none => .ok d.text
  else .error (.unwritable d)

/-- The refusal of a value of a type that cannot be written. -/
def reject : Value → FormatError
  | .skip => .misplacedSkip
  | v => .unsupportedType v.typeName

/-- A double from a scalar; nothing is zero, and so is a text without a number in front. -/
def toDouble : Value → Except FormatError Double
  | .null => .ok .zero
  | .str text => .ok (Numeral.leadingDouble text)
  | .bool b => .ok (if b then .ofDecimal false 1 0 else .zero)
  | .int i =>
    match Double.ofInt? i with
    | some d => .ok d
    | none => .error .integerTooLarge
  | .double d => .ok d
  | v => .error (reject v)

/-- The whole part of a double. -/
def castDouble (d : Double) : Except FormatError Int :=
  match d.truncate? with
  | some i => .ok i
  | none => .error (.uncastable d)

/-- An integer from a scalar. A text gives the integer in front of it exactly; any other number in
front goes by way of a double. -/
def toInt : Value → Except FormatError Int
  | .bool b => .ok (if b then 1 else 0)
  | .int i => .ok i
  | .str text =>
    match Numeral.leadingInteger? text with
    | some (sign, digits) =>
      if digits.length ≤ Numeral.digitLimit then .ok (Numeral.signed sign digits)
      else .error (.numeralTooLong digits.length)
    | none => castDouble (Numeral.leadingDouble text)
  | v => toDouble v >>= castDouble

/-- A scalar without quotes. -/
def scalarText : Value → Except FormatError Text
  | .bool b => .ok (if b then ['1'] else ['0'])
  | .null => .ok "NULL".toList
  | .int i => intText i
  | .double d => doubleText d
  | .str text => .ok text
  | v => .error (reject v)

/-- A text in quotes, any other scalar without. -/
def quoteScalar (quote : Text) : Value → Except FormatError Text
  | .str text => .ok (quote ++ text ++ quote)
  | v => scalarText v

/-- The text of a mapping key: a string, or an integer that is no boolean. -/
def keyText : Value → Except FormatError Text
  | .str text => .ok text
  | .int i => intText i
  | v => .error (.badKey v.typeName)

/-- One entry: the key as an identifier, the value as data. -/
def entryText (entry : Value × Value) : Except FormatError Text := do
  let key ← keyText entry.1
  let value ← quoteScalar dataQuote entry.2
  pure (identifierQuote ++ key ++ identifierQuote ++ " = ".toList ++ value)

/-- The items of a container one after another; strings of a sequence take the given quote. -/
def expand (quote : Text) (container : Value) : Except FormatError Text :=
  match container.mapping?, container.iterate? with
  | some entries, _ => Text.join separator <$> entries.mapM entryText
  | none, some items => Text.join separator <$> items.mapM (quoteScalar quote)
  | none, none => .error (.notIterable container.qualifiedTypeName)

/-- The text that takes the place of a placeholder. -/
def formatValue (specifier : Specifier) (v : Value) : Except FormatError Text :=
  match specifier with
  | .plain => quoteScalar dataQuote v
  | .int =>
    match v with
    | .null => .ok "NULL".toList
    | v => toInt v >>= intText
  | .double => toDouble v >>= doubleText
  | .array =>
    if v.isSequence || v.isMapping then expand dataQuote v
    else .error (.notContainer v.typeName)
  | .identifier =>
    if v.isSequence || v.isMapping then expand identifierQuote v
    else (fun text => identifierQuote ++ text ++ identifierQuote) <$> scalarText v

/-- The specifier that a value names by its token. -/
def specifierOf (v : Value) : Except FormatError Specifier :=
  match v with
  | .str text =>
    match Specifier.ofToken? text with
    | some s => .ok s
    | none => .error (.unknownSpecifier (Text.quoted text))
  | v =>
    match v.shown? with
    | some shown => .error (.unknownSpecifier shown)
    | none => .error .integerTooLong

end SqlTemplate
