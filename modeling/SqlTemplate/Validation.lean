import SqlTemplate.Text.Quoted
import SqlTemplate.Text.Blank

/-! A first look at built queries: known dialect, something to run, parentheses in pairs. -/
namespace SqlTemplate

/-- Why a text is not read as statements: it breaks a rule, there is no such dialect, or a fault of
another kind in its own wording. -/
inductive SqlFault
  | invalid
  | unknownDialect (name : Text)
  | unforeseen (message : String)
  deriving DecidableEq, Repr

/-- What reads a text in a dialect, and tells whether there is any statement in it. -/
abbrev SqlReader := (text dialect : Text) → Except SqlFault Bool

inductive ValidationError
  | unreadable (cause : SqlFault)
  | empty
  deriving DecidableEq, Repr

def ValidationError.message : ValidationError → String
  | .unreadable (.unknownDialect name) =>
    s!"Cannot validate query: Unknown dialect '{String.ofList name}'."
  | .unreadable .invalid => "Built query is not valid SQL"
  | .unreadable (.unforeseen message) => message
  | .empty => "Built query is empty"

namespace Validation

def defaultDialect : Text := "mysql".toList

/-- The empty name stands for the general dialect. -/
def dialects : List Text := [[], "mysql".toList, "sqlite".toList, "postgres".toList]

/-- Where a scan of a query stands. -/
inductive Place
  | code
  | quoted (quote : Char)
  | lineComment
  | blockComment
  deriving DecidableEq, Repr

/-- What a scan has seen: how many parentheses are open, whether they are in order, and whether
there is anything besides blanks, semicolons and comments. -/
structure Survey where
  depth : Nat
  ordered : Bool
  substance : Bool
  deriving DecidableEq, Repr

/-- One character of code outside quotes and comments. -/
def Survey.code (s : Survey) (c : Char) : Survey :=
  if Text.isBlank c ∨ c = ';' then s
  else if c = '(' then { s with depth := s.depth + 1, substance := true }
  else if c = ')' then
    { s with depth := s.depth - 1, ordered := s.ordered && 0 < s.depth, substance := true }
  else { s with substance := true }

def survey (s : Survey) : Place → Text → Survey
  | _, [] => s
  | .code, '-' :: '-' :: rest => survey s .lineComment rest
  | .code, '/' :: '*' :: rest => survey s .blockComment rest
  | .code, c :: rest =>
    survey (s.code c) (if c = '\'' ∨ c = '"' ∨ c = '\x60' then .quoted c else .code) rest
  | .quoted quote, c :: rest => survey s (if c = quote then .code else .quoted quote) rest
  | .lineComment, c :: rest => survey s (if c = '\n' then .code else .lineComment) rest
  | .blockComment, '*' :: '/' :: rest => survey s .code rest
  | .blockComment, _ :: rest => survey s .blockComment rest

/-- The dialect is looked at first, then the parentheses, then whether there is a statement. -/
def readSql : SqlReader := fun text dialect =>
  if dialect ∉ dialects then .error (.unknownDialect dialect)
  else
    let s := survey ⟨0, true, false⟩ .code text
    if !s.ordered ∨ s.depth ≠ 0 then .error .invalid else .ok s.substance

end Validation

/-- A query is to be read in the dialect and to have a statement. -/
def validate (query dialect : Text) (readSql : SqlReader := Validation.readSql) :
    Except ValidationError Unit :=
  match readSql query dialect with
  | .error cause => .error (.unreadable cause)
  | .ok true => .ok ()
  | .ok false => .error .empty

example : validate ['(', ')', ')'] [] = .error (.unreadable .invalid) := by rfl
example : validate [';', '-', '-', '('] [] = .error .empty := by rfl

end SqlTemplate
