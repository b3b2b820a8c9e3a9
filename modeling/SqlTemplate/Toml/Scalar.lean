import SqlTemplate.Numeral.Basic
import SqlTemplate.Text.Hex
import SqlTemplate.Value.Calendar

/-! Numbers, dates and times of a TOML document. -/
namespace SqlTemplate.Toml

/-- A text that breaks a rule, or an integer whose digits exceed the limit. -/
inductive Error
  | invalid
  | integerTooLong (digits : Nat)
  deriving DecidableEq, Repr

/-- What follows a digit in a row: digits, each after one underscore or none. -/
def moreDigits (isDigit : Char → Bool) : Text → Text × Text
  | [] => ([], [])
  | '_' :: [] => ([], ['_'])
  | '_' :: c :: rest =>
    if isDigit c then
      let (digits, after) := moreDigits isDigit rest
      (c :: digits, after)
    else ([], '_' :: c :: rest)
  | c :: rest =>
    if isDigit c then
      let (digits, after) := moreDigits isDigit rest
      (c :: digits, after)
    else ([], c :: rest)

/-- A row of digits with single underscores between them, without those underscores, and what
follows it. -/
def digitRow (isDigit : Char → Bool) : Text → Text × Text
  | [] => ([], [])
  | c :: rest =>
    if isDigit c then
      let (digits, after) := moreDigits isDigit rest
      (c :: digits, after)
    else ([], c :: rest)

/-- The radix that a letter after a zero selects. -/
def radix? : Char → Option Nat
  | 'x' => some 16
  | 'o' => some 8
  | 'b' => some 2
  | _ => none

def isDigitOf (radix : Nat) (c : Char) : Bool := (Text.hexValue? c).any (· < radix)

def ofDigitsIn (radix : Nat) (digits : Text) : Nat :=
  digits.foldl (fun n c => radix * n + (Text.hexValue? c).getD 0) 0

/-- An integer in a radix other than ten. -/
def radixInteger? : Text → Option (Nat × Text)
  | '0' :: letter :: rest => do
    let radix ← radix? letter
    let (digits, after) := digitRow (isDigitOf radix) rest
    if digits = [] then none else some (ofDigitsIn radix digits, after)
  | _ => none

/-- The digits before the point: one zero, or a row that does not start with zero. -/
def wholeRow : Text → Text × Text
  | '0' :: rest => (['0'], rest)
  | text => digitRow Char.isDigit text

/-- A point and at least one digit. -/
def fractionRow : Text → Option Text × Text
  | '.' :: rest =>
    let (digits, after) := digitRow Char.isDigit rest
    if digits = [] then (none, '.' :: rest) else (some digits, after)
  | text => (none, text)

/-- An exponent with at least one digit. -/
def exponentRow : Text → Option Numeral.Exponent × Text
  | [] => (none, [])
  | mark :: rest =>
    let (sign, unsigned) := Numeral.takeSign rest
    let (digits, after) := digitRow Char.isDigit unsigned
    if (mark = 'e' ∨ mark = 'E') ∧ digits ≠ [] then (some ⟨mark, sign, digits⟩, after)
    else (none, mark :: rest)

/-- A decimal number at the front, without its underscores. -/
def numeral? (text : Text) : Option (Numeral × Text) :=
  let (sign, unsigned) := Numeral.takeSign text
  let (whole, afterWhole) := wholeRow unsigned
  if whole = [] then none
  else
    let (fraction, afterFraction) := fractionRow afterWhole
    let (exponent, rest) := exponentRow afterFraction
    some (⟨sign, whole, fraction, exponent⟩, rest)

/-- The doubles that have names. -/
def named : List (Text × Value) :=
  [("inf".toList, .double (.infinite false)), ("+inf".toList, .double (.infinite false)),
    ("-inf".toList, .double (.infinite true)), ("nan".toList, .double .nan),
    ("+nan".toList, .double .nan), ("-nan".toList, .double .nan)]

/-- A number: an integer unless it has a fraction, an exponent or a name. -/
def number (text : Text) : Except Error (Value × Text) :=
  match radixInteger? text, numeral? text with
  | some (n, rest), _ => .ok (.int n, rest)
  | none, some (n, rest) =>
    if n.fraction = none ∧ n.exponent = none then
      if n.whole.length ≤ Numeral.digitLimit then .ok (.int (Numeral.signed n.sign n.whole), rest)
      else .error (.integerTooLong n.whole.length)
    else .ok (.double n.toDouble, rest)
  | none, none =>
    match named.find? fun entry => entry.1.isPrefixOf text with
    | some (name, v) => .ok (v, text.drop name.length)
    | none => .error .invalid

/-- A number of exactly `width` digits at the front. -/
def fixedDigits? (width : Nat) (text : Text) : Option (Nat × Text) :=
  let digits := text.take width
  if digits.length = width ∧ digits.all Char.isDigit then
    some (Numeral.ofDigits digits, text.drop width)
  else none

/-- The text after one given character. -/
def after? (c : Char) : Text → Option Text
  | d :: rest => if d = c then some rest else none
  | [] => none

/-- Year, month and day with hyphens between them. -/
def date? (text : Text) : Option (Calendar.Date × Text) := do
  let (year, text) ← fixedDigits? 4 text
  let (month, text) ← fixedDigits? 2 (← after? '-' text)
  let (day, text) ← fixedDigits? 2 (← after? '-' text)
  some (⟨year, month, day⟩, text)

/-- Hours, minutes and seconds with colons between them, and a fraction if there is one. -/
def time? (text : Text) : Option (Calendar.Time × Text) := do
  let (hour, text) ← fixedDigits? 2 text
  let (minute, text) ← fixedDigits? 2 (← after? ':' text)
  let (second, text) ← fixedDigits? 2 (← after? ':' text)
  let fraction := ((after? '.' text).getD []).takeWhile Char.isDigit
  let time : Calendar.Time := ⟨hour, minute, second, Calendar.microseconds fraction⟩
  let rest := if fraction = [] then text else text.drop (fraction.length + 1)
  if time.fault? = none then some (time, rest) else none

/-- An offset from universal time in minutes: a letter, or a sign with hours and minutes. -/
def offset? : Text → Option (Int × Text)
  | 'Z' :: rest | 'z' :: rest => some (0, rest)
  | sign :: rest => do
    let (hours, text) ← fixedDigits? 2 rest
    let (minutes, text) ← fixedDigits? 2 (← after? ':' text)
    let total : Int := hours * 60 + minutes
    if hours < 24 ∧ minutes < 60 then
      if sign = '+' then some (total, text) else if sign = '-' then some (-total, text) else none
    else none
  | [] => none

/-- The time that may follow a date after a letter or a blank, with its offset. -/
def timeAfterDate? : Text → Option ((Calendar.Time × Option Int) × Text)
  | mark :: rest => do
    if mark = 'T' ∨ mark = 't' ∨ mark = ' ' then
      let (time, text) ← time? rest
      match offset? text with
      | some (offset, text) => some ((time, some offset), text)
      | none => some ((time, none), text)
    else none
  | [] => none

/-- A date, a moment or a time of day. What has the shape of a date and is out of range cannot be
anything else. -/
def calendar? (text : Text) : Option (Except Error (Value × Text)) :=
  match date? text with
  | some (date, rest) =>
    let (time, last) := match timeAfterDate? rest with
      | some (time, last) => (some time, last)
      | none => (none, rest)
    some (match Calendar.value date time with
      | .ok v => .ok (v, last)
      | .error _ => .error .invalid)
  | none => (time? text).map fun (time, rest) => .ok (Calendar.timeValue time, rest)

/-- A boolean at the front. -/
def boolean? (text : Text) : Option (Value × Text) :=
  if "true".toList.isPrefixOf text then some (.bool true, text.drop 4)
  else if "false".toList.isPrefixOf text then some (.bool false, text.drop 5)
  else none

/-- A value that is neither a string nor a container, and what follows it. -/
def scalar (text : Text) : Except Error (Value × Text) :=
  match boolean? text with
  | some r => .ok r
  | none => (calendar? text).getD (number text)

end SqlTemplate.Toml
