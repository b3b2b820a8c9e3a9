import SqlTemplate.Double.Arithmetic
import SqlTemplate.Numeral.Literal
import SqlTemplate.Value.Calendar
import SqlTemplate.Yaml.Kind

/-! The values of YAML scalars. -/
namespace SqlTemplate.Yaml

/-- A text that breaks a rule, a scalar that cannot be converted, or a fault of another kind in its
own wording. -/
inductive Error
  | invalid
  | integerTooLong (digits : Nat)
  | badInteger (radix : Nat) (text : Text)
  | badDouble (text : Text)
  | badDate (cause : CalendarFault)
  | unforeseen (message : String)
  deriving DecidableEq, Repr

/-- The text after blanks or one letter that stand between a date and a time. -/
def afterDateMark? (text : Text) : Option Text :=
  match text with
  | 'T' :: rest | 't' :: rest => some rest
  | ' ' :: rest | '\t' :: rest => some (rest.dropWhile fun c => c == ' ' || c == '\t')
  | _ => none

def afterChar? (c : Char) : Text → Option Text
  | d :: rest => if d = c then some rest else none
  | [] => none

/-- An offset in minutes behind blanks, up to the end of the text. -/
def offset? (text : Text) : Option (Option Int) :=
  match text.dropWhile fun c => c == ' ' || c == '\t' with
  | [] => if text = [] then some none else none
  | ['Z'] => some (some 0)
  | sign :: rest => do
    if sign ≠ '+' ∧ sign ≠ '-' then none
    let (hours, text) ← digitsUpTo? 1 2 rest
    let (minutes, text) ← match text with
      | ':' :: rest => digitsUpTo? 2 2 rest
      | text => some (0, text)
    if text ≠ [] then none
    let total : Int := hours * 60 + minutes
    some (some (if sign = '-' then -total else total))

/-- A date, or a date and a time with or without an offset. -/
def moment? (text : Text) : Option (Calendar.Date × Option (Calendar.Time × Option Int)) := do
  let (year, text) ← digitsUpTo? 4 4 text
  let (month, text) ← digitsUpTo? 1 2 (← afterChar? '-' text)
  let (day, text) ← digitsUpTo? 1 2 (← afterChar? '-' text)
  let date : Calendar.Date := ⟨year, month, day⟩
  if text = [] then some (date, none)
  else do
    let (hour, text) ← digitsUpTo? 1 2 (← afterDateMark? text)
    let (minute, text) ← digitsUpTo? 2 2 (← afterChar? ':' text)
    let (second, text) ← digitsUpTo? 2 2 (← afterChar? ':' text)
    let (fraction, text) := match text with
      | '.' :: rest => (rest.takeWhile Char.isDigit, rest.dropWhile Char.isDigit)
      | text => ([], text)
    let offset ← offset? text
    some (date, some (⟨hour, minute, second, Calendar.microseconds fraction⟩, offset))

/-- Whether a plain scalar is a moment: a date alone has all its digits. -/
def isMomentText (text : Text) : Bool :=
  match moment? text with
  | some (_, none) => text.length = 10
  | some (_, some _) => true
  | none => false

/-- The kind of a plain scalar. -/
def Kind.ofPlain (text : Text) : Kind :=
  let word := String.ofList text
  if word ∈ yesWords ∨ word ∈ noWords then .boolean
  else if isDoubleText text then .double
  else if isIntegerText text then .integer
  else if text = ['<', '<'] then .merge
  else if word ∈ nullWords then .null
  else if isMomentText text then .timestamp
  else if text = ['='] then .defaultValue
  else .text

def dropUnderscores (text : Text) : Text := text.filter (· != '_')

def isNegative (text : Text) : Bool := text.head? == some '-'

/-- Digits in a radix other than ten. -/
def integerIn (radix : Nat) (digits : Text) : Except Error Nat :=
  let values := digits.map Text.hexValue?
  if digits ≠ [] ∧ values.all (·.any (· < radix)) then
    .ok (values.foldl (fun n d => radix * n + d.getD 0) 0)
  else .error (.badInteger radix digits)

def decimalInteger (text : Text) : Except Error Int :=
  match Numeral.integer? text with
  | some i => .ok i
  | none =>
    if text.all Text.isDecimalDigit ∧ Numeral.digitLimit < text.length then
      .error (.integerTooLong text.length)
    else .error (.badInteger 10 text)

/-- An integer without its sign: binary, hexadecimal, octal, in sixtieths, or decimal. -/
def magnitude (text : Text) : Except Error Int :=
  match text with
  | [] => .error .invalid
  | ['0'] => .ok 0
  | '0' :: 'b' :: rest => (fun n : Nat => (n : Int)) <$> integerIn 2 rest
  | '0' :: 'x' :: rest => (fun n : Nat => (n : Int)) <$> integerIn 16 rest
  | '0' :: _ => (fun n : Nat => (n : Int)) <$> integerIn 8 text
  | _ =>
    if text.contains ':' then
      (fun parts => parts.foldl (fun n part => 60 * n + part) 0) <$>
        (text.splitOn ':').mapM decimalInteger
    else decimalInteger text

def integerValue (text : Text) : Except Error Value :=
  let text := dropUnderscores text
  (fun i => .int (if isNegative text then -i else i)) <$> magnitude (unsigned text)

def double (text : Text) : Except Error Double :=
  match Numeral.double? text with
  | some d => .ok d
  | none => .error (.badDouble text)

/-- The sum of parts that weigh sixty times as much from right to left, rounded at each step. -/
def sixtieths (parts : List Double) : Double :=
  (parts.reverse.foldl (fun (sum, weight) part => (sum.plus (part.times weight), 60 * weight))
    (Double.zero, 1)).1

def doubleValue (text : Text) : Except Error Value :=
  let text := Text.lowerAscii (dropUnderscores text)
  let body := unsigned text
  let signed (d : Double) : Value := .double (if isNegative text then d.negate else d)
  if text = [] then .error .invalid
  else if body = ".inf".toList then .ok (signed (.infinite false))
  else if body = ".nan".toList then .ok (.double .nan)
  else if body.contains ':' then
    (fun parts => signed (sixtieths parts)) <$> (body.splitOn ':').mapM double
  else signed <$> double body

def booleanValue (text : Text) : Except Error Value :=
  let word := Text.lowerAscii text
  if yesWords.any (·.toList == word) then .ok (.bool true)
  else if noWords.any (·.toList == word) then .ok (.bool false)
  else .error .invalid

def momentValue (text : Text) : Except Error Value :=
  match moment? text with
  | none => .error .invalid
  | some (date, time) =>
    match Calendar.value date time with
    | .ok v => .ok v
    | .error cause => .error (.badDate cause)

example : Kind.ofPlain "1e3".toList = .text ∧ Kind.ofPlain "1.5e+3".toList = .double := by
  decide +kernel
example : Kind.ofPlain "-.5".toList = .text ∧ Kind.ofPlain "1:30".toList = .integer := by
  decide +kernel
example : Kind.ofPlain "2020-1-2".toList = .text := by decide +kernel

end SqlTemplate.Yaml
