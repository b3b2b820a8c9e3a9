import SqlTemplate.Yaml.Block
import SqlTemplate.Yaml.Quoted
import SqlTemplate.Yaml.Token

/-! The tokens of a YAML text. Block collections start and end by their columns, and what turns out
to be a key gets its token, and that of its mapping, in front of it afterwards. -/
namespace SqlTemplate.Yaml

/-- A node that a colon on the same line would make a key: the number of tokens before it and its
place. One at the column of its block has to become a key. -/
structure Candidate where
  tokensBefore : Nat
  required : Bool
  index : Nat
  line : Nat
  column : Nat
  deriving DecidableEq, Repr

/-- The longest key on one line. -/
def keyLimit : Nat := 1024

/-- A text that is read up to the cursor. `blocks` holds the columns of the open block collections
and `candidates` one place for the block and each open flow collection, the innermost first.
`tokens` starts with the last one. -/
structure Layout where
  cursor : Cursor
  blocks : List Nat
  candidates : List (Option Candidate)
  keyAllowed : Bool
  tokens : List Token
  deriving DecidableEq, Repr

namespace Layout

/-- A byte order mark at the start is no part of the text. -/
def ofText (text : Text) : Layout :=
  let start := Cursor.ofText text
  ⟨if text.head? = some '\ufeff' then start.next else start, [], [none], true, []⟩

def inFlow (l : Layout) : Bool := 1 < l.candidates.length

/-- The least column that lines inside the innermost block have. -/
def innerColumn (l : Layout) : Nat :=
  match l.blocks with
  | [] => 0
  | column :: _ => column + 1

def push (l : Layout) (t : Token) : Layout := { l with tokens := t :: l.tokens }

/-- Ends the block collections that stand to the right of a column; a flow collection ends none. -/
def unwind (column : Nat) (l : Layout) : Layout :=
  if l.inFlow then l
  else
    let kept := l.blocks.dropWhile (column < ·)
    let ended := l.blocks.length - kept.length
    { l with blocks := kept, tokens := List.replicate ended .blockEnd ++ l.tokens }

/-- Ends all block collections. -/
def unwindAll (l : Layout) : Layout :=
  if l.inFlow then l
  else { l with blocks := [], tokens := l.blocks.map (fun _ => .blockEnd) ++ l.tokens }

/-- Whether a block collection at this column is a new one. -/
def startsBlock (l : Layout) (column : Nat) : Bool :=
  !l.inFlow && l.innerColumn ≤ column

/-- Starts a block collection unless one is open at this column. -/
def openBlock (start : Token) (column : Nat) (l : Layout) : Layout :=
  if l.startsBlock column then { l with blocks := column :: l.blocks, tokens := start :: l.tokens }
  else l

/-- Forgets the innermost candidate, unless it has to become a key. -/
def dropCandidate? (l : Layout) : Option Layout :=
  match l.candidates with
  | some candidate :: outer =>
    if candidate.required then none else some { l with candidates := none :: outer }
  | _ => some l

/-- Makes what comes next a candidate, where a key may stand. -/
def saveCandidate? (l : Layout) : Option Layout := do
  if !l.keyAllowed then return l
  let l ← l.dropCandidate?
  let c := l.cursor
  let required := !l.inFlow && l.blocks.head? == some c.column
  some { l with
    candidates := some ⟨l.tokens.length, required, c.index, c.line, c.column⟩ :: l.candidates.tail }

/-- Forgets the candidates of earlier lines and those that are too long. -/
def dropStale? (l : Layout) : Option Layout := do
  let isStale (candidate : Candidate) : Bool :=
    candidate.line != l.cursor.line || candidate.index + keyLimit < l.cursor.index
  let candidates ← l.candidates.mapM fun
    | none => some none
    | some candidate =>
      if !isStale candidate then some (some candidate)
      else if candidate.required then none
      else some none
  some { l with candidates }

/-- Passes over spaces, comments and line ends; after a line end outside of flow collections a key
may stand. -/
def skipFiller : Nat → Layout → Layout
  | 0, l => l
  | fuel + 1, l =>
    let after := (l.cursor.skipWhile (· == ' ')).skipComment
    match after.lineEnd? with
    | some (_, next) =>
      skipFiller fuel { l with cursor := next, keyAllowed := l.keyAllowed || !l.inFlow }
    | none => { l with cursor := after }

/-- A mark of `width` characters that is a token by itself. -/
def mark (width : Nat) (t : Token) (l : Layout) : Layout :=
  { l with cursor := l.cursor.skip width, tokens := t :: l.tokens }

/-- The start or the end of a document. -/
def documentEdge? (t : Token) (l : Layout) : Option Layout := do
  let l ← l.unwindAll.dropCandidate?
  some { l.mark 3 t with keyAllowed := false }

def directiveLine? (l : Layout) : Option Layout := do
  let l ← l.unwindAll.dropCandidate?
  let (directive, after) ← Yaml.directive? l.cursor
  some { l.push (.directive directive) with cursor := after, keyAllowed := false }

/-- The start of a flow collection, which may be a key as a whole. -/
def openFlow? (t : Token) (l : Layout) : Option Layout := do
  let l ← l.saveCandidate?
  some { l.mark 1 t with candidates := none :: l.candidates, keyAllowed := true }

/-- The end of a flow collection. -/
def closeFlow? (t : Token) (l : Layout) : Option Layout := do
  if !l.inFlow then none
  let l ← l.dropCandidate?
  some { l.mark 1 t with candidates := l.candidates.tail, keyAllowed := false }

def comma? (l : Layout) : Option Layout := do
  let l ← l.dropCandidate?
  some { l.mark 1 .comma with keyAllowed := true }

/-- A hyphen in front of an item of a block sequence. -/
def hyphen? (l : Layout) : Option Layout := do
  if !l.inFlow && !l.keyAllowed then none
  let l ← (l.openBlock .blockSequence l.cursor.column).dropCandidate?
  some { l.mark 1 .entry with keyAllowed := true }

/-- A question mark in front of a key of any form. -/
def key? (l : Layout) : Option Layout := do
  if !l.inFlow && !l.keyAllowed then none
  let l ← (l.openBlock .blockMapping l.cursor.column).dropCandidate?
  some { l.mark 1 .key with keyAllowed := !l.inFlow }

/-- Makes a candidate a key: its token, and that of a mapping that it starts, go in front of it. -/
def confirm (candidate : Candidate) (l : Layout) : Layout :=
  let after := l.tokens.length - candidate.tokensBefore
  let starts := l.startsBlock candidate.column
  let marks : List Token := if starts then [.key, .blockMapping] else [.key]
  { l with
    blocks := if starts then candidate.column :: l.blocks else l.blocks
    candidates := none :: l.candidates.tail
    tokens := l.tokens.take after ++ marks ++ l.tokens.drop after }

/-- A colon in front of a value, behind a key on the same line or behind one of any form. -/
def value? (l : Layout) : Option Layout := do
  match l.candidates.head?.join with
  | some candidate => some { (l.confirm candidate).mark 1 .value with keyAllowed := false }
  | none =>
    if !l.inFlow && !l.keyAllowed then none
    let l ← (l.openBlock .blockMapping l.cursor.column).dropCandidate?
    some { l.mark 1 .value with keyAllowed := !l.inFlow }

/-- A token that is a node or a part of one, and may be a key. -/
def node? (read? : Cursor → Option (Token × Cursor)) (l : Layout) : Option Layout := do
  let l ← l.saveCandidate?
  let (t, after) ← read? l.cursor
  some { l.push t with cursor := after, keyAllowed := false }

/-- A plain scalar; a key may stand behind it if its last gap has a line end. -/
def plain? (l : Layout) : Option Layout := do
  let l ← l.saveCandidate?
  let (text, after, crossed) := Yaml.plain l.inFlow l.innerColumn l.cursor
  some { l.push (.scalar true text) with cursor := after, keyAllowed := crossed }

def block? (folded : Bool) (l : Layout) : Option Layout := do
  let l ← l.dropCandidate?
  let (text, after) ← Yaml.block? folded (max 1 l.innerColumn) l.cursor
  some { l.push (.scalar false text) with cursor := after, keyAllowed := true }

/-- The marks that start no plain scalar. -/
def isMark (c : Char) : Bool := "-?:,[]\x7b\x7d#&*!|>'\"%@\x60".toList.contains c

/-- Whether a plain scalar starts with `c` in front of `rest`. -/
def startsPlain (inFlow : Bool) (c : Char) (rest : Text) : Bool :=
  !isGap c && (!isMark c || (!atGap rest && (c == '-' || (!inFlow && (c == '?' || c == ':')))))

/-- The token at the cursor, `c` and `rest` being the text there. -/
def token? (l : Layout) (c : Char) (rest : Text) : Option Layout :=
  let atLineStart := l.cursor.column == 0
  let text := c :: rest
  if atLineStart && c == '%' then l.directiveLine?
  else if atLineStart && atRule '-' text then l.documentEdge? .documentStart
  else if atLineStart && atRule '.' text then l.documentEdge? .documentEnd
  else if c = '[' then l.openFlow? .flowSequence
  else if c = '\x7b' then l.openFlow? .flowMapping
  else if c = ']' then l.closeFlow? .flowSequenceEnd
  else if c = '\x7d' then l.closeFlow? .flowMappingEnd
  else if c = ',' then l.comma?
  else if c == '-' && atGap rest then l.hyphen?
  else if c == '?' && (l.inFlow || atGap rest) then l.key?
  else if c == ':' && (l.inFlow || atGap rest) then l.value?
  else if c = '*' then l.node? fun c => (name? c).map fun (name, after) => (.reference name, after)
  else if c = '&' then l.node? fun c => (name? c).map fun (name, after) => (.anchor name, after)
  else if c = '!' then l.node? fun c => (tag? c).map fun (word, after) => (.tag word, after)
  else if c == '|' && !l.inFlow then l.block? false
  else if c == '>' && !l.inFlow then l.block? true
  else if c = '\'' ∨ c = '"' then
    l.node? fun c => (quoted? c).map fun (text, after) => (.scalar false text, after)
  else if startsPlain l.inFlow c rest then l.plain?
  else none

/-- Reads tokens up to the end of the text. Each one uses a character. -/
def finish? : Nat → Layout → Option Layout
  | 0, _ => none
  | fuel + 1, l => do
    let l ← (skipFiller (l.cursor.rest.length + 1) l).dropStale?
    match l.cursor.rest with
    | [] => l.unwindAll.dropCandidate?
    | c :: rest => (l.unwind l.cursor.column).token? c rest >>= finish? fuel

end Layout

/-- Characters that a YAML text may hold. -/
def isAllowed (c : Char) : Bool :=
  let n := c.toNat
  n == 0x9 || n == 0xA || n == 0xD || (0x20 ≤ n && n ≤ 0x7E) || n == 0x85 ||
    (0xA0 ≤ n && n ≤ 0xD7FF) || (0xE000 ≤ n && n ≤ 0xFFFD) || 0x10000 ≤ n

/-- The tokens of a text. -/
def tokens? (text : Text) : Option (List Token) := do
  if !text.all isAllowed then none
  let l ← (Layout.ofText text).finish? (text.length + 1)
  some l.tokens.reverse

end SqlTemplate.Yaml
