import SqlTemplate.Yaml.Layout
import SqlTemplate.Yaml.Scalar

/-! The tree of a YAML document. References are replaced by the nodes that they name. -/
namespace SqlTemplate.Yaml

inductive Node
  | scalar (kind : Kind) (text : Text)
  | sequence (kind : Kind) (items : List Node)
  | mapping (kind : Kind) (entries : List (Node × Node))

namespace Node

/-- A node that is left out. -/
def absent : Node := .scalar .null []

end Node

/-- Tokens that are left, with the tags that handles stand for and the nodes that have names. -/
structure Source where
  handles : List (Text × Text)
  names : List (Text × Node)
  tokens : List Token

namespace Source

def withTokens (s : Source) (tokens : List Token) : Source := { s with tokens }

/-- A name is given once. -/
def give? (s : Source) (name : Option Text) (node : Node) : Option Source :=
  match name with
  | none => some s
  | some name =>
    if s.names.any (·.1 == name) then none else some { s with names := (name, node) :: s.names }

/-- The tag that a word stands for. A single exclamation mark is none. -/
def fullTag? (s : Source) (word : TagWord) : Option Text :=
  match word.handle with
  | none => some word.rest
  | some handle => (s.handles.find? (·.1 == handle)).map fun entry => entry.2 ++ word.rest

/-- The name and the tag in front of a node, in any order. -/
def properties (s : Source) : Option Text × Option TagWord × Source :=
  match s.tokens with
  | .anchor name :: .tag word :: rest => (some name, some word, s.withTokens rest)
  | .tag word :: .anchor name :: rest => (some name, some word, s.withTokens rest)
  | .anchor name :: rest => (some name, none, s.withTokens rest)
  | .tag word :: rest => (none, some word, s.withTokens rest)
  | _ => (none, none, s)

end Source

/-- The kind of a node: that of its tag, or its own where there is no tag. -/
def kindOf (tag : Option Text) (own : Kind) : Kind :=
  match tag with
  | none => own
  | some tag => if tag = ['!'] then own else .ofTag tag

/-- The kind of a scalar. Without a tag a scalar in quotes is a text; the single mark makes it count
as plain. -/
def scalarKind (tag : Option Text) (isPlain : Bool) (text : Text) : Kind :=
  if isPlain ∨ tag = some ['!'] then kindOf tag (.ofPlain text) else kindOf tag .text

/-- Whether the next token is none of those that end an empty node. -/
def startsNode (stops : List Token) (s : Source) : Bool := !s.tokens.head?.any stops.contains

mutual

/-- A node. Block collections may stand only where `inBlock`, and a sequence at the column of its
mapping only as a part of that mapping. No more than two calls share a token, so twice their number
is fuel enough. -/
def node? (inBlock inMapping : Bool) : Nat → Source → Option (Node × Source)
  | 0, _ => none
  | fuel + 1, s =>
    match s.tokens with
    | .reference name :: rest =>
      (s.names.find? (·.1 == name)).map fun entry => (entry.2, s.withTokens rest)
    | _ => do
      let (name, word, s) := s.properties
      let tag ← match word with
        | none => some none
        | some word => (s.fullTag? word).map some
      let (node, s) ← match s.tokens with
        | .scalar isPlain text :: rest =>
          some (Node.scalar (scalarKind tag isPlain text) text, s.withTokens rest)
        | .flowSequence :: rest => do
          let (items, s) ← flowItems? true fuel (s.withTokens rest)
          some (.sequence (kindOf tag .sequence) items, s)
        | .flowMapping :: rest => do
          let (entries, s) ← flowEntries? true fuel (s.withTokens rest)
          some (.mapping (kindOf tag .mapping) entries, s)
        | tokens =>
          match inBlock, inMapping, tokens with
          | _, true, .entry :: _ => do
            let (items, s) ← blockItems? false fuel s
            some (.sequence (kindOf tag .sequence) items, s)
          | true, _, .blockSequence :: rest => do
            let (items, s) ← blockItems? true fuel (s.withTokens rest)
            some (.sequence (kindOf tag .sequence) items, s)
          | true, _, .blockMapping :: rest => do
            let (entries, s) ← blockEntries? fuel (s.withTokens rest)
            some (.mapping (kindOf tag .mapping) entries, s)
          | _, _, _ =>
            if name.isSome ∨ tag.isSome then some (.scalar (scalarKind tag true []) [], s) else none
      let s ← s.give? name node
      some (node, s)

/-- A node, or an absent one in front of one of the tokens that end it. -/
def nodeOrAbsent? (inBlock inMapping : Bool) (stops : List Token) (fuel : Nat) (s : Source) :
    Option (Node × Source) :=
  match fuel with
  | 0 => none
  | fuel + 1 =>
    if startsNode stops s then node? inBlock inMapping fuel s else some (.absent, s)

/-- The items of a block sequence. One that is closed has an end of its own; one that stands at the
column of its mapping ends where no hyphen follows. -/
def blockItems? (closed : Bool) : Nat → Source → Option (List Node × Source)
  | 0, _ => none
  | fuel + 1, s =>
    match s.tokens with
    | .entry :: rest => do
      let stops : List Token :=
        if closed then [.entry, .blockEnd] else [.entry, .key, .value, .blockEnd]
      let (item, s) ← nodeOrAbsent? true false stops fuel (s.withTokens rest)
      let (items, s) ← blockItems? closed fuel s
      some (item :: items, s)
    | .blockEnd :: rest => some ([], if closed then s.withTokens rest else s)
    | _ => if closed then none else some ([], s)

/-- The entries of a block mapping up to its end. -/
def blockEntries? : Nat → Source → Option (List (Node × Node) × Source)
  | 0, _ => none
  | fuel + 1, s =>
    match s.tokens with
    | .key :: rest => do
      let stops : List Token := [.key, .value, .blockEnd]
      let (key, s) ← nodeOrAbsent? true true stops fuel (s.withTokens rest)
      let (value, s) ← match s.tokens with
        | .value :: rest => nodeOrAbsent? true true stops fuel (s.withTokens rest)
        | _ => some (.absent, s)
      let (entries, s) ← blockEntries? fuel s
      some ((key, value) :: entries, s)
    | .blockEnd :: rest => some ([], s.withTokens rest)
    | _ => none

/-- A key and a value inside a flow collection, from after the mark of the key on. -/
def flowEntry? (closing : Token) (fuel : Nat) (s : Source) : Option ((Node × Node) × Source) :=
  match fuel with
  | 0 => none
  | fuel + 1 => do
    let (key, s) ← nodeOrAbsent? false false [.value, .comma, closing] fuel s
    match s.tokens with
    | .value :: rest => do
      let (value, s) ← nodeOrAbsent? false false [.comma, closing] fuel (s.withTokens rest)
      some ((key, value), s)
    | _ => some ((key, .absent), s)

/-- The items of a flow sequence; a key and a value make a mapping of one entry. A comma may stand
behind the last item. -/
def flowItems? (first : Bool) : Nat → Source → Option (List Node × Source)
  | 0, _ => none
  | fuel + 1, s =>
    match s.tokens, first with
    | .flowSequenceEnd :: rest, _ => some ([], s.withTokens rest)
    | .comma :: .flowSequenceEnd :: rest, false => some ([], s.withTokens rest)
    | .comma :: rest, false => flowItems? true fuel (s.withTokens rest)
    | _, false => none
    | .key :: rest, true => do
      let (entry, s) ← flowEntry? .flowSequenceEnd fuel (s.withTokens rest)
      let (items, s) ← flowItems? false fuel s
      some (.mapping .mapping [entry] :: items, s)
    | _, true => do
      let (item, s) ← node? false false fuel s
      let (items, s) ← flowItems? false fuel s
      some (item :: items, s)

/-- The entries of a flow mapping; a node without the mark of a key is a key without a value. -/
def flowEntries? (first : Bool) : Nat → Source → Option (List (Node × Node) × Source)
  | 0, _ => none
  | fuel + 1, s =>
    match s.tokens, first with
    | .flowMappingEnd :: rest, _ => some ([], s.withTokens rest)
    | .comma :: .flowMappingEnd :: rest, false => some ([], s.withTokens rest)
    | .comma :: rest, false => flowEntries? true fuel (s.withTokens rest)
    | _, false => none
    | .key :: rest, true => do
      let (entry, s) ← flowEntry? .flowMappingEnd fuel (s.withTokens rest)
      let (entries, s) ← flowEntries? false fuel s
      some (entry :: entries, s)
    | _, true => do
      let (key, s) ← node? false false fuel s
      let (entries, s) ← flowEntries? false fuel s
      some ((key, .absent) :: entries, s)

end

/-- The handles that every document knows. -/
def commonHandles : List (Text × Text) := [(['!'], ['!']), (['!', '!'], commonTagStart)]

/-- The handles of a document that starts with directives. At most one of them states a version, of
which the first number is one, and no handle is declared twice. -/
def handlesOf? (versioned : Bool) (declared : List (Text × Text)) :
    List Token → Option (List (Text × Text) × List Token)
  | .directive (.version major) :: rest =>
    if versioned ∨ major ≠ 1 then none else handlesOf? true declared rest
  | .directive (.handle name start) :: rest =>
    if declared.any (·.1 == name) then none
    else handlesOf? versioned ((name, start) :: declared) rest
  | .directive .other :: rest => handlesOf? versioned declared rest
  | tokens => some (declared ++ commonHandles, tokens)

/-- The root node of a document, and the tokens after it. -/
def rootOf? (handles : List (Text × Text)) (tokens : List Token) : Option (Node × List Token) :=
  (node? true false (2 * tokens.length + 2) ⟨handles, [], tokens⟩).map fun (node, s) =>
    (node, s.tokens)

/-- The root of the only document in a text; a text without tokens has none. -/
def Node.ofTokens? (tokens : List Token) : Option (Option Node) := do
  let (root, rest) ← match tokens with
    | [] => some (none, [])
    | .documentStart :: _ | .directive _ :: _ => do
      let (handles, tokens) ← handlesOf? false [] tokens
      match tokens with
      | .documentStart :: rest =>
        match rest with
        | [] | .directive _ :: _ | .documentStart :: _ | .documentEnd :: _ =>
          some (some Node.absent, rest)
        | _ => (rootOf? handles rest).map fun (node, rest) => (some node, rest)
      | _ => none
    | tokens => (rootOf? commonHandles tokens).map fun (node, rest) => (some node, rest)
  if rest.all (· == .documentEnd) then some root else none

end SqlTemplate.Yaml
