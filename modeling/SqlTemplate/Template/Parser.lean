import SqlTemplate.Template.Token

/-! Templates are read in one pass. Outside a block a closing brace is literal text; inside one an
opening brace is refused, and so is the end of the template. -/
namespace SqlTemplate

/-- What is wrong with the braces of a template. -/
inductive ParseFault
  | nestedBlock
  | unterminatedBlock
  deriving DecidableEq, Repr

/-- A fault and the position of the opening brace that it concerns. -/
structure ParseError where
  fault : ParseFault
  position : Nat
  deriving DecidableEq, Repr

/-- Puts a character in front, into the literal that is there or else into a new one. -/
def Fragment.pushChar (c : Char) : List Fragment → List Fragment
  | .literal t :: rest => .literal (c :: t) :: rest
  | fragments => .literal [c] :: fragments

def Node.pushChar (c : Char) : List Node → List Node
  | .fragment (.literal t) :: rest => .fragment (.literal (c :: t)) :: rest
  | nodes => .fragment (.literal [c]) :: nodes

namespace Parser

mutual

/-- The nodes of the tokens from a position outside any block. -/
def outside (position : Nat) : List Token → Except ParseError (List Node)
  | [] => .ok []
  | .char c :: rest => (Node.pushChar c) <$> outside (position + 1) rest
  | .closing :: rest => (Node.pushChar '}') <$> outside (position + 1) rest
  | .placeholder s :: rest =>
    (.fragment (.placeholder s) :: ·) <$> outside (position + s.token.length) rest
  | .opening :: rest =>
    (fun r => .block r.1 :: r.2) <$> inside position (position + 1) rest

/-- The rest of the block that was opened at `start`, and the nodes after it. -/
def inside (start position : Nat) : List Token → Except ParseError (List Fragment × List Node)
  | [] => .error ⟨.unterminatedBlock, start⟩
  | .opening :: _ => .error ⟨.nestedBlock, position⟩
  | .closing :: rest => (([], ·)) <$> outside (position + 1) rest
  | .char c :: rest =>
    (fun r => (Fragment.pushChar c r.1, r.2)) <$> inside start (position + 1) rest
  | .placeholder s :: rest =>
    (fun r => (.placeholder s :: r.1, r.2)) <$> inside start (position + s.token.length) rest

end

end Parser

/-- The nodes of a template and the number of its placeholders, those in blocks included. -/
def parse (template : Text) : Except ParseError ParsedTemplate :=
  let tokens := Token.ofText template
  (fun nodes => ⟨nodes, tokens.countP Token.isPlaceholder⟩) <$> Parser.outside 0 tokens

example : parse ['a', '?', '{', '?', 'd', '}', '}'] = .ok
    ⟨[.fragment (.literal ['a']), .fragment (.placeholder .plain), .block [.placeholder .int],
      .fragment (.literal ['}'])], 2⟩ := by rfl
example : parse ['{', '?', 'd', '{'] = .error ⟨.nestedBlock, 3⟩ := by rfl
example : parse ['a', 'b', '{'] = .error ⟨.unterminatedBlock, 2⟩ := by rfl

end SqlTemplate
