import SqlTemplate.Template.Basic

/-! The tokens of a template: braces, placeholders, and single characters of literal text. -/
namespace SqlTemplate

inductive Token
  | char (c : Char)
  | placeholder (specifier : Specifier)
  | opening
  | closing
  deriving DecidableEq, Repr

namespace Token

def text : Token → Text
  | .char c => [c]
  | .placeholder s => s.token
  | .opening => ['{']
  | .closing => ['}']

def width (t : Token) : Nat := t.text.length

def isPlaceholder : Token → Bool
  | .placeholder _ => true
  | _ => false

/-- A question mark takes a specifier letter that follows it; there is no escape. -/
def ofText : Text → List Token
  | [] => []
  | '{' :: rest => .opening :: ofText rest
  | '}' :: rest => .closing :: ofText rest
  | ['?'] => [.placeholder .plain]
  | '?' :: c :: rest =>
    match Specifier.ofLetter? c with
    | some s => .placeholder s :: ofText rest
    | none => .placeholder .plain :: ofText (c :: rest)
  | c :: rest => .char c :: ofText rest

/-- The tokens of a text spell the text. -/
theorem flatMap_text_ofText (t : Text) : (ofText t).flatMap text = t := by
  fun_induction ofText t with
  | case1 => rfl
  | case2 rest ih => simp [text, ih]
  | case3 rest ih => simp [text, ih]
  | case4 => rfl
  | case5 c rest s hs ih =>
    simp [text, Specifier.token, Specifier.letter?_eq_some_iff.2 hs, ih]
  | case6 c rest hs ih => simp [text, Specifier.token, Specifier.letter?, ih]
  | case7 c rest _ _ _ _ ih => simp [text, ih]

example : ofText ['?', '?', 'd', '}'] = [.placeholder .plain, .placeholder .int, .closing] := by
  decide

end Token
end SqlTemplate
