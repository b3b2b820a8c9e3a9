import SqlTemplate.Text.Printable
import SqlTemplate.Text.Hex

/-! A text in quotes, with all that cannot be shown written as an escape. -/
namespace SqlTemplate.Text

/-- Double quotes only where they spare the escape of a single one. -/
def quoteFor (text : Text) : Char :=
  if text.contains '\'' && !text.contains '"' then '"' else '\''

def escapeChar (quote c : Char) : Text :=
  if c = quote ∨ c = '\\' then ['\\', c]
  else if c = '\t' then ['\\', 't']
  else if c = '\n' then ['\\', 'n']
  else if c = '\r' then ['\\', 'r']
  else if isPrintable c then [c]
  else if c.toNat < 0x100 then '\\' :: 'x' :: hexDigits 2 c.toNat
  else if c.toNat < 0x10000 then '\\' :: 'u' :: hexDigits 4 c.toNat
  else '\\' :: 'U' :: hexDigits 8 c.toNat

def quoted (text : Text) : Text :=
  let quote := quoteFor text
  quote :: text.flatMap (escapeChar quote) ++ [quote]

example : quoted "it's".toList = "\"it's\"".toList := by cbv
example : quoted ['\'', '"'] = ['\'', '\\', '\'', '"', '\''] := by decide
example : quoted ['\n', 'e'] = ['\'', '\\', 'n', 'e', '\''] := by decide

end SqlTemplate.Text
