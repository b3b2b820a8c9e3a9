import SqlTemplate.Proofs.Binding.Step
import SqlTemplate.Proofs.Template.Slot

/-! Binding with a log of the arguments that placeholders read. The outcome and the log are produced
together. -/
namespace SqlTemplate

/-- What comes of an argument that a placeholder reads. One that drops a block leaves the
placeholders of the block that follow. -/
inductive Effect
  | written (text : Text)
  | refused (cause : FormatError)
  | dropping (following : Nat)

/-- An argument read for placeholder number `slot`. -/
structure Reading where
  slot : Nat
  specifier : Specifier
  value : Value
  effect : Effect

namespace Reading

/-- An argument that drops a block is not formatted, any other is. -/
def isFormatted (r : Reading) : Bool :=
  match r.effect with
  | .dropping _ => false
  | _ => true

/-- The placeholders that get no argument of their own when a block is dropped. -/
def following (r : Reading) : Nat :=
  match r.effect with
  | .dropping n => n
  | _ => 0

end Reading

structure Logged (α : Type) where
  readings : List Reading
  outcome : Except BindError α

namespace Logged
variable {α β : Type}

def map (f : α → β) (x : Logged α) : Logged β := ⟨x.readings, f <$> x.outcome⟩

def after (r : Reading) (x : Logged α) : Logged α := ⟨r :: x.readings, x.outcome⟩

/-- Goes on with the result, unless there is none. -/
def andThen (x : Logged α) (f : α → Logged β) : Logged β :=
  match x.outcome with
  | .ok a => ⟨x.readings ++ (f a).readings, (f a).outcome⟩
  | .error e => ⟨x.readings, .error e⟩

theorem andThen_of_ok {x : Logged α} {a : α} (h : x.outcome = .ok a) (f : α → Logged β) :
    x.andThen f = ⟨x.readings ++ (f a).readings, (f a).outcome⟩ := by rw [andThen, h]

theorem andThen_of_error {x : Logged α} {e : BindError} (h : x.outcome = .error e)
    (f : α → Logged β) : x.andThen f = ⟨x.readings, .error e⟩ := by rw [andThen, h]

end Logged

/-- Binds the children of a block, with placeholders numbered from `k` on. -/
def logBlock (mode : SkipMode) (k : Nat) : List Fragment → List Value → Logged BlockOutcome
  | [], args => ⟨[], .ok (some [], args)⟩
  | .literal text :: rest, args =>
    (logBlock mode k rest args).map fun r => (r.1.map (.literal text :: ·), r.2)
  | .placeholder _ :: _, [] => ⟨[], .error .outOfArguments⟩
  | .placeholder s :: rest, arg :: args =>
    if arg.needsSkip then
      ⟨[⟨k, s, arg, .dropping (Fragment.placeholderCount rest)⟩],
        .ok (none, mode.afterDrop (Fragment.placeholderCount rest) args)⟩
    else
      match formatValue s arg with
      | .error e => ⟨[⟨k, s, arg, .refused e⟩], .error (.format e)⟩
      | .ok text =>
        ((logBlock mode (k + 1) rest args).map fun r => (r.1.map (.literal text :: ·), r.2)).after
          ⟨k, s, arg, .written text⟩

/-- Binds nodes, with placeholders numbered from `k` on. -/
def logNodes (mode : SkipMode) (k : Nat) : List Node → List Value → Logged (List Node × List Value)
  | [], args => ⟨[], .ok ([], args)⟩
  | .fragment (.literal text) :: rest, args =>
    (logNodes mode k rest args).map fun r => (.fragment (.literal text) :: r.1, r.2)
  | .fragment (.placeholder _) :: _, [] => ⟨[], .error .outOfArguments⟩
  | .fragment (.placeholder s) :: rest, arg :: args =>
    match formatValue s arg with
    | .error e => ⟨[⟨k, s, arg, .refused e⟩], .error (.format e)⟩
    | .ok text =>
      ((logNodes mode (k + 1) rest args).map fun r =>
        (.fragment (.literal text) :: r.1, r.2)).after ⟨k, s, arg, .written text⟩
  | .block children :: rest, args =>
    (logBlock mode k children args).andThen fun r =>
      (logNodes mode (k + Fragment.placeholderCount children) rest r.2).map fun later =>
        (keptNode r.1 ++ later.1, later.2)

/-- The arguments that a run over a template reads, in order. -/
def ParsedTemplate.readings (p : ParsedTemplate) (mode : SkipMode) (args : List Value) :
    List Reading := (logNodes mode 0 p.nodes args).readings

end SqlTemplate
