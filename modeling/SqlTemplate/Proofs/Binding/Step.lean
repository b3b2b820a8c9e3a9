import Mathlib.Control.Monad.Basic
import SqlTemplate.Query

/-! The steps of binding as equations: one for each thing that can happen at a placeholder, and one
for a block that fails or not. -/
namespace SqlTemplate

variable {mode : SkipMode} {s : Specifier} {arg : Value} {args : List Value}

namespace BindBlock
variable {rest : List Fragment}

theorem placeholder_cons : bindBlock mode (.placeholder s :: rest) (arg :: args) =
    if arg.needsSkip then .ok (none, mode.afterDrop (Fragment.placeholderCount rest) args)
    else
      match formatValue s arg with
      | .error e => .error (.format e)
      | .ok text => (fun r => (r.1.map (.literal text :: ·), r.2)) <$> bindBlock mode rest args :=
  rfl

theorem step_skip (h : arg.needsSkip = true) :
    bindBlock mode (.placeholder s :: rest) (arg :: args) =
      .ok (none, mode.afterDrop (Fragment.placeholderCount rest) args) := by
  rw [placeholder_cons, if_pos h]

theorem step_error {cause : FormatError} (h : ¬ arg.needsSkip = true)
    (hcause : formatValue s arg = .error cause) :
    bindBlock mode (.placeholder s :: rest) (arg :: args) = .error (.format cause) := by
  rw [placeholder_cons, if_neg h, hcause]

theorem step_text {text : Text} (h : ¬ arg.needsSkip = true)
    (htext : formatValue s arg = .ok text) :
    bindBlock mode (.placeholder s :: rest) (arg :: args) =
      (fun r => (r.1.map (.literal text :: ·), r.2)) <$> bindBlock mode rest args := by
  rw [placeholder_cons, if_neg h, htext]

end BindBlock

/-- What a bound block adds to the nodes: itself if it is kept, and nothing if it is dropped. -/
def keptNode (kept : Option (List Fragment)) : List Node := (kept.map Node.block).toList

namespace BindNodes
variable {rest : List Node} {children : List Fragment}

theorem placeholder_cons : bindNodes mode (.fragment (.placeholder s) :: rest) (arg :: args) =
    match formatValue s arg with
    | .error e => .error (.format e)
    | .ok text => (fun r => (.fragment (.literal text) :: r.1, r.2)) <$> bindNodes mode rest args :=
  rfl

theorem block_cons : bindNodes mode (.block children :: rest) args =
    match bindBlock mode children args with
    | .error e => .error e
    | .ok (some kept, left) => (fun r => (.block kept :: r.1, r.2)) <$> bindNodes mode rest left
    | .ok (none, left) => bindNodes mode rest left := rfl

theorem step_error {cause : FormatError} (hcause : formatValue s arg = .error cause) :
    bindNodes mode (.fragment (.placeholder s) :: rest) (arg :: args) =
      .error (.format cause) := by rw [placeholder_cons, hcause]

theorem step_text {text : Text} (htext : formatValue s arg = .ok text) :
    bindNodes mode (.fragment (.placeholder s) :: rest) (arg :: args) =
      (fun r => (.fragment (.literal text) :: r.1, r.2)) <$> bindNodes mode rest args := by
  rw [placeholder_cons, htext]

theorem step_block_error {e : BindError} (h : bindBlock mode children args = .error e) :
    bindNodes mode (.block children :: rest) args = .error e := by rw [block_cons, h]

theorem step_block {kept : Option (List Fragment)} {left : List Value}
    (h : bindBlock mode children args = .ok (kept, left)) :
    bindNodes mode (.block children :: rest) args =
      (fun r => (keptNode kept ++ r.1, r.2)) <$> bindNodes mode rest left := by
  rw [block_cons, h]
  cases kept with
  | none => exact (id_map _).symm
  | some kept => rfl

end BindNodes

/-- A list of arguments of the right length is bound without more ado. -/
theorem bindValue_list {parsed : ParsedTemplate}
    (h : parsed.placeholderCount = args.length) :
    bindValue mode parsed (.list args) = (·.1) <$> bindNodes mode parsed.nodes args := if_pos h

end SqlTemplate
