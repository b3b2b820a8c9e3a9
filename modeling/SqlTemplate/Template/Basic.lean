import SqlTemplate.Text.Basic

/-! Query templates: literal text, typed placeholders, and conditional blocks of both. -/
namespace SqlTemplate

/-- How a placeholder writes its argument. -/
inductive Specifier
  | plain
  | int
  | double
  | array
  | identifier
  deriving DecidableEq, Repr

namespace Specifier

/-- The letter after the question mark; the plain specifier has none. -/
def letter? : Specifier → Option Char
  | .plain => none
  | .int => some 'd'
  | .double => some 'f'
  | .array => some 'a'
  | .identifier => some '#'

def token (s : Specifier) : Text := '?' :: s.letter?.toList

def ofLetter? : Char → Option Specifier
  | 'd' => some .int
  | 'f' => some .double
  | 'a' => some .array
  | '#' => some .identifier
  | _ => none

/-- The specifier that the text after a question mark selects: plain, unless it is one letter. -/
def ofFollowing : Option Text → Specifier
  | some [c] => (ofLetter? c).getD .plain
  | _ => .plain

def ofToken? : Text → Option Specifier
  | ['?'] => some .plain
  | ['?', c] => ofLetter? c
  | _ => none

theorem letter?_eq_some_iff {s : Specifier} {c : Char} :
    s.letter? = some c ↔ ofLetter? c = some s := by
  constructor
  · cases s <;> simp only [letter?, reduceCtorEq, Option.some.injEq, false_implies] <;>
      rintro rfl <;> rfl
  · simp only [ofLetter?]
    split <;> simp only [Option.some.injEq, reduceCtorEq, false_implies] <;> rintro rfl <;> rfl

@[simp] theorem ofToken?_token (s : Specifier) : ofToken? s.token = some s := by cases s <;> rfl

end Specifier

/-- What may stand inside a block. -/
inductive Fragment
  | literal (text : Text)
  | placeholder (specifier : Specifier)
  deriving DecidableEq, Repr

/-- A fragment, or a block that is kept or dropped as a whole; blocks hold no blocks. -/
inductive Node
  | fragment (f : Fragment)
  | block (children : List Fragment)
  deriving DecidableEq, Repr

namespace Fragment

/-- A literal as it is, a placeholder as its token. -/
def text : Fragment → Text
  | .literal t => t
  | .placeholder s => s.token

def isPlaceholder : Fragment → Bool
  | .literal _ => false
  | .placeholder _ => true

def placeholderCount (children : List Fragment) : Nat := children.countP isPlaceholder

end Fragment

namespace Node

def placeholderCount : Node → Nat
  | .fragment f => Fragment.placeholderCount [f]
  | .block children => Fragment.placeholderCount children

def isBlock : Node → Bool
  | .fragment _ => false
  | .block _ => true

/-- The text of a node; a block gives the text of its children, without braces. -/
def text : Node → Text
  | .fragment f => f.text
  | .block children => children.flatMap Fragment.text

/-- The node as it stands in a template, with the braces of a block. -/
def source : Node → Text
  | .fragment f => f.text
  | .block children => '{' :: children.flatMap Fragment.text ++ ['}']

end Node

/-- The text of all nodes in order. -/
def serialize (nodes : List Node) : Text := nodes.flatMap Node.text

@[simp] theorem serialize_append (m n : List Node) :
    serialize (m ++ n) = serialize m ++ serialize n := by simp [serialize]

/-- Nodes with a count of placeholders. A parsed template counts its own placeholders; a template
made by hand may state any number. -/
structure ParsedTemplate where
  nodes : List Node
  placeholderCount : Int
  deriving DecidableEq, Repr

namespace ParsedTemplate

def empty : ParsedTemplate := ⟨[], 0⟩

def blockCount (p : ParsedTemplate) : Nat := p.nodes.countP Node.isBlock

def preview (p : ParsedTemplate) : Text := serialize p.nodes

end ParsedTemplate
end SqlTemplate
