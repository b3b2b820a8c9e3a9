import SqlTemplate.Value.Entries
import SqlTemplate.Yaml.Node

/-! YAML documents are read into values. Containers are filled level by level, so of several
scalars that cannot be converted the one that lies least deep is reported. -/
namespace SqlTemplate.Yaml

/-- An error with the depth of the node that it comes from. -/
structure DeepError where
  depth : Nat
  cause : Error
  deriving DecidableEq, Repr

abbrev Outcome (α : Type) := Except DeepError α

def failAt {α : Type} (depth : Nat) (cause : Error) : Outcome α := .error ⟨depth, cause⟩

/-- All results, or the error that lies least deep; of two that are equally deep the first. -/
def gather {α : Type} : List (Outcome α) → Outcome (List α)
  | [] => .ok []
  | .ok a :: rest => (a :: ·) <$> gather rest
  | .error e :: rest =>
    match gather rest with
    | .error f => if f.depth < e.depth then .error f else .error e
    | .ok _ => .error e

def Kind.isContainer : Kind → Bool
  | .sequence | .mapping | .set | .pairs => true
  | _ => false

/-- The value of a scalar. One that is tagged as a container fails where its items would be. -/
def scalarValue (depth : Nat) (kind : Kind) (text : Text) : Outcome Value :=
  let converted : Except Error Value := match kind with
    | .null => .ok .null
    | .boolean => booleanValue text
    | .integer => integerValue text
    | .double => doubleValue text
    | .timestamp => momentValue text
    | .text => .ok (.str text)
    | _ => .error .invalid
  match converted with
  | .ok v => .ok v
  | .error cause => failAt (if kind.isContainer then depth + 1 else depth) cause

mutual

/-- The text of a scalar; a mapping that has a default value stands for that value. -/
def textOf? : Node → Option Text
  | .scalar _ text => some text
  | .sequence _ _ => none
  | .mapping _ entries => defaultText? entries

def defaultText? : List (Node × Node) → Option Text
  | [] => none
  | (.scalar .defaultValue _, v) :: _ => textOf? v
  | _ :: rest => defaultText? rest

end

/-- A container that is tagged as a value of another kind. -/
def misfit (depth : Nat) (kind : Kind) (text : Option Text) : Outcome Value :=
  if kind.isContainer then failAt (depth + 1) .invalid
  else
    match text with
    | some text => scalarValue depth kind text
    | none => failAt depth .invalid

/-- The key of an entry; only scalars can be keys. -/
def keyValue (depth : Nat) : Node → Outcome Value
  | .scalar .defaultValue text => .ok (.str text)
  | .scalar kind text =>
    if kind.isContainer then failAt depth .invalid else scalarValue depth kind text
  | _ => failAt depth .invalid

def isMergeKey : Node → Bool
  | .scalar .merge _ => true
  | _ => false

/-- The key and the value of an entry, of which the key is converted first. -/
def pairOf {α : Type} (key : Outcome α) (v : Outcome α) : Outcome (α × α) := do
  let key ← key
  let v ← v
  pure (key, v)

/-- What a mapping merges from another, in front of its own entries. -/
structure Pairs where
  merged : List (Outcome (Value × Value))
  own : List (Outcome (Value × Value))

def Pairs.all (p : Pairs) : List (Outcome (Value × Value)) := p.merged ++ p.own

mutual

/-- The value of a node at a depth. -/
def valueOf (depth : Nat) : Node → Outcome Value
  | .scalar kind text => scalarValue depth kind text
  | .sequence .sequence items => Value.list <$> gather (valuesOf (depth + 1) items)
  | .sequence .pairs items => Value.list <$> gather (tuplesOf (depth + 1) items)
  | .sequence kind _ => misfit depth kind none
  | .mapping .mapping entries =>
    (fun pairs => Value.dict (Value.entriesOf pairs)) <$> gather (pairsOf (depth + 1) entries).all
  | .mapping .set entries =>
    (fun pairs => Value.set ((Value.entriesOf pairs).map (·.1))) <$>
      gather (pairsOf (depth + 1) entries).all
  | .mapping kind entries => misfit depth kind (defaultText? entries)

def valuesOf (depth : Nat) : List Node → List (Outcome Value)
  | [] => []
  | item :: rest => valueOf depth item :: valuesOf depth rest

/-- Items of a sequence of pairs: mappings of one entry each. -/
def tuplesOf (depth : Nat) : List Node → List (Outcome Value)
  | [] => []
  | .mapping _ [(key, v)] :: rest =>
    ((fun pair => .sequence .tuple [pair.1, pair.2]) <$>
      pairOf (valueOf depth key) (valueOf depth v)) ::
      tuplesOf depth rest
  | _ :: rest => failAt depth .invalid :: tuplesOf depth rest

/-- The entries of a mapping, with those that it merges. -/
def pairsOf (depth : Nat) : List (Node × Node) → Pairs
  | [] => ⟨[], []⟩
  | (key, v) :: rest =>
    let more := pairsOf depth rest
    if isMergeKey key then { more with merged := mergedFrom depth v ++ more.merged }
    else { more with own := pairOf (keyValue depth key) (valueOf depth v) :: more.own }

/-- The entries of a mapping, or those of a sequence of mappings from the last to the first. -/
def mergedFrom (depth : Nat) : Node → List (Outcome (Value × Value))
  | .mapping _ entries => (pairsOf depth entries).all
  | .sequence _ items => mergedFromAll depth items
  | .scalar _ _ => [failAt depth .invalid]

def mergedFromAll (depth : Nat) : List Node → List (Outcome (Value × Value))
  | [] => []
  | .mapping _ entries :: rest => mergedFromAll depth rest ++ (pairsOf depth entries).all
  | _ :: rest => mergedFromAll depth rest ++ [failAt depth .invalid]

end

/-- The value of the only document in a text; null if there is none. -/
def read (text : Text) : Except Error Value :=
  match tokens? text >>= Node.ofTokens? with
  | none => .error .invalid
  | some none => .ok .null
  | some (some root) =>
    match valueOf 0 root with
    | .ok v => .ok v
    | .error e => .error e.cause

end SqlTemplate.Yaml
