import SqlTemplate.Binding.Format
import SqlTemplate.Binding.Skip

/-! Arguments take the places of placeholders, from left to right through blocks and all. -/
namespace SqlTemplate

/-- What a dropped block does with the arguments after the one that drops it: leaves them to later
placeholders, or passes over those of its own placeholders. -/
inductive SkipMode
  | leave
  | consume
  deriving DecidableEq, Repr

namespace SkipMode

def ofBool (consumeSkipped : Bool) : SkipMode := if consumeSkipped then .consume else .leave

def toBool : SkipMode → Bool
  | .leave => false
  | .consume => true

/-- The arguments that are left after a block is dropped, `following` being the placeholders of the
block after the one that drops it. -/
def afterDrop (mode : SkipMode) (following : Nat) (args : List Value) : List Value :=
  match mode with
  | .leave => args
  | .consume => args.drop following

end SkipMode

/-- Whether a block is kept, with its bound children, and the arguments that are left. -/
abbrev BlockOutcome := Option (List Fragment) × List Value

/-- Binds the children of a block; the first argument that needs a skip drops the block. -/
def bindBlock (mode : SkipMode) : List Fragment → List Value → Except BindError BlockOutcome
  | [], args => .ok (some [], args)
  | .literal text :: rest, args =>
    (fun r => (r.1.map (.literal text :: ·), r.2)) <$> bindBlock mode rest args
  | .placeholder _ :: _, [] => .error .outOfArguments
  | .placeholder s :: rest, arg :: args =>
    if arg.needsSkip then .ok (none, mode.afterDrop (Fragment.placeholderCount rest) args)
    else
      match formatValue s arg with
      | .error e => .error (.format e)
      | .ok text => (fun r => (r.1.map (.literal text :: ·), r.2)) <$> bindBlock mode rest args

/-- Binds nodes in order; gives the bound nodes and the arguments that are left. -/
def bindNodes (mode : SkipMode) : List Node → List Value → Except BindError (List Node × List Value)
  | [], args => .ok ([], args)
  | .fragment (.literal text) :: rest, args =>
    (fun r => (.fragment (.literal text) :: r.1, r.2)) <$> bindNodes mode rest args
  | .fragment (.placeholder _) :: _, [] => .error .outOfArguments
  | .fragment (.placeholder s) :: rest, arg :: args =>
    match formatValue s arg with
    | .error e => .error (.format e)
    | .ok text => (fun r => (.fragment (.literal text) :: r.1, r.2)) <$> bindNodes mode rest args
  | .block children :: rest, args =>
    match bindBlock mode children args with
    | .error e => .error e
    | .ok (some kept, left) => (fun r => (.block kept :: r.1, r.2)) <$> bindNodes mode rest left
    | .ok (none, left) => bindNodes mode rest left

/-- Binds a template after its count of placeholders is compared with the number of arguments. -/
def bind (mode : SkipMode) (parsed : ParsedTemplate) (args : List Value) :
    Except BindError (List Node) :=
  if parsed.placeholderCount = args.length then (·.1) <$> bindNodes mode parsed.nodes args
  else .error (.countMismatch parsed.placeholderCount args.length)

/-- The arguments in a value: any value that can be walked over, texts and bytes excepted. -/
def argumentsOf (v : Value) : Except BindError (List Value) :=
  match v with
  | .str _ | .bytes .. => .error (.textArguments v.typeName)
  | v =>
    match v.iterate? with
    | some args => .ok args
    | none => .error (.notIterable v.qualifiedTypeName)

end SqlTemplate
