import SqlTemplate.Query

/-! Parsed templates as objects. A block can be written into, so it has an identity and stands in a
store. Parsing adds blocks to the store; binding adds copies of them and writes into the copies. -/
namespace SqlTemplate

/-- The children of each block there is. A block is known by its place, and none is ever removed. -/
abbrev BlockStore := List (List Fragment)

namespace BlockStore

def read (blocks : BlockStore) (block : Nat) : List Fragment := blocks.getD block []

/-- Puts a child of a block in the place of another one. -/
def write (blocks : BlockStore) (block index : Nat) (child : Fragment) : BlockStore :=
  blocks.modify block (·.set index child)

end BlockStore

/-- A fragment, or a reference to a block. -/
inductive NodeObject
  | fragment (f : Fragment)
  | block (block : Nat)
  deriving DecidableEq, Repr

/-- A parsed template whose blocks are in a store. -/
structure TemplateObject where
  nodes : List NodeObject
  placeholderCount : Int
  deriving DecidableEq, Repr

namespace NodeObject

def read (blocks : BlockStore) : NodeObject → Node
  | .fragment f => .fragment f
  | .block b => .block (blocks.read b)

/-- Puts a character in front, into the literal that is there or else into a new one. -/
def pushChar (c : Char) : List NodeObject → List NodeObject
  | .fragment (.literal t) :: rest => .fragment (.literal (c :: t)) :: rest
  | nodes => .fragment (.literal [c]) :: nodes

end NodeObject

namespace TemplateObject

def empty : TemplateObject := ⟨[], 0⟩

def read (blocks : BlockStore) (t : TemplateObject) : ParsedTemplate :=
  ⟨t.nodes.map (·.read blocks), t.placeholderCount⟩

end TemplateObject

namespace Parser

/-- How many placeholders a parser has passed, and the store. A scan that is refused leaves both as
they are then. -/
structure Scanner where
  passed : Nat
  blocks : BlockStore
  deriving DecidableEq, Repr

def Scanner.addBlock (s : Scanner) (children : List Fragment) : Scanner :=
  ⟨s.passed + Fragment.placeholderCount children, s.blocks ++ [children]⟩

/-- The children of the block that was opened at `start`, the position after its end, and the tokens
from there on. The end is looked for before anything in the block is counted. -/
def blockBody (start position : Nat) :
    List Token → Except ParseError (List Fragment × Nat × List Token)
  | [] => .error ⟨.unterminatedBlock, start⟩
  | .opening :: _ => .error ⟨.nestedBlock, position⟩
  | .closing :: rest => .ok ([], position + 1, rest)
  | .char c :: rest =>
    (fun r => (Fragment.pushChar c r.1, r.2)) <$> blockBody start (position + 1) rest
  | .placeholder s :: rest =>
    (fun r => (.placeholder s :: r.1, r.2)) <$> blockBody start (position + s.token.length) rest

theorem length_blockBody {start position : Nat} {tokens : List Token}
    {body : List Fragment × Nat × List Token} (h : blockBody start position tokens = .ok body) :
    body.2.2.length < tokens.length := by
  induction tokens generalizing position body with
  | nil => cases h
  | cons token rest ih =>
    cases token with
    | opening => cases h
    | closing =>
      cases h
      exact Nat.lt_succ_self _
    | char _ | placeholder _ =>
      rw [blockBody] at h
      cases hrest : blockBody start _ rest with
      | error e =>
        rw [hrest] at h
        cases h
      | ok r =>
        rw [hrest] at h
        cases h
        have hshorter := ih hrest
        exact Nat.lt_succ_of_lt hshorter

/-- The nodes of the tokens from a position outside any block, and the state after the scan. -/
def scan (position : Nat) (tokens : List Token) (s : Scanner) :
    Except ParseError (List NodeObject) × Scanner :=
  match tokens with
  | [] => (.ok [], s)
  | .char c :: rest => (scan (position + 1) rest s).map (NodeObject.pushChar c <$> ·) id
  | .closing :: rest => (scan (position + 1) rest s).map (NodeObject.pushChar '}' <$> ·) id
  | .placeholder p :: rest =>
    (scan (position + p.token.length) rest { s with passed := s.passed + 1 }).map
      ((.fragment (.placeholder p) :: ·) <$> ·) id
  | .opening :: rest =>
    match _ : blockBody position (position + 1) rest with
    | .error e => (.error e, s)
    | .ok (children, next, after) =>
      (scan next after (s.addBlock children)).map ((.block s.blocks.length :: ·) <$> ·) id
termination_by tokens.length
decreasing_by
  all_goals simp only [List.length_cons]
  · omega
  · omega
  · omega
  · exact Nat.lt_succ_of_lt (length_blockBody (by assumption))

end Parser

/-- Parses a template with a parser that has passed some placeholders before. -/
def parseObject (template : Text) (s : Parser.Scanner) :
    Except ParseError TemplateObject × Parser.Scanner :=
  let scanned := Parser.scan 0 (Token.ofText template) { s with passed := 0 }
  scanned.map ((fun nodes => ⟨nodes, scanned.2.passed⟩) <$> ·) id

/-- How many arguments a dropped block passes over, `remaining` of its placeholders being unbound. -/
def SkipMode.advance (mode : SkipMode) (remaining : Nat) : Nat :=
  match mode with
  | .leave => 1
  | .consume => remaining

/-- Binds the children of a block where they stand, from an index on, with a counter of the
placeholders that are still to be bound. Says whether the block is kept, with the arguments that are
left. No write reaches a child that is still to come. -/
def bindInPlace (mode : SkipMode) (block index remaining : Nat) :
    List Fragment → List Value → BlockStore → Except BindError (Bool × List Value) × BlockStore
  | [], args, blocks => (.ok (true, args), blocks)
  | .literal _ :: rest, args, blocks =>
    bindInPlace mode block (index + 1) remaining rest args blocks
  | .placeholder _ :: _, [], blocks => (.error .outOfArguments, blocks)
  | .placeholder s :: rest, arg :: args, blocks =>
    if arg.needsSkip then (.ok (false, (arg :: args).drop (mode.advance remaining)), blocks)
    else
      match formatValue s arg with
      | .error e => (.error (.format e), blocks)
      | .ok text =>
        bindInPlace mode block (index + 1) (remaining - 1) rest args
          (blocks.write block index (.literal text))

/-- Binds nodes in order; a block is copied first and bound in the copy. -/
def bindObjects (mode : SkipMode) :
    List NodeObject → List Value → BlockStore → Except BindError (List NodeObject) × BlockStore
  | [], _, blocks => (.ok [], blocks)
  | .fragment (.literal text) :: rest, args, blocks =>
    (bindObjects mode rest args blocks).map ((.fragment (.literal text) :: ·) <$> ·) id
  | .fragment (.placeholder _) :: _, [], blocks => (.error .outOfArguments, blocks)
  | .fragment (.placeholder s) :: rest, arg :: args, blocks =>
    match formatValue s arg with
    | .error e => (.error (.format e), blocks)
    | .ok text =>
      (bindObjects mode rest args blocks).map ((.fragment (.literal text) :: ·) <$> ·) id
  | .block block :: rest, args, blocks =>
    let children := blocks.read block
    let remaining := Fragment.placeholderCount children
    match bindInPlace mode blocks.length 0 remaining children args (blocks ++ [children]) with
    | (.error e, later) => (.error e, later)
    | (.ok (true, left), later) =>
      (bindObjects mode rest left later).map ((.block blocks.length :: ·) <$> ·) id
    | (.ok (false, left), later) => bindObjects mode rest left later

/-- Binds the arguments that a value holds, after their number is compared with the count. -/
def bindObject (mode : SkipMode) (t : TemplateObject) (args : Value) (blocks : BlockStore) :
    Except BindError (List NodeObject) × BlockStore :=
  match argumentsOf args with
  | .error e => (.error e, blocks)
  | .ok items =>
    if t.placeholderCount = items.length then bindObjects mode t.nodes items blocks
    else (.error (.countMismatch t.placeholderCount items.length), blocks)

end SqlTemplate
