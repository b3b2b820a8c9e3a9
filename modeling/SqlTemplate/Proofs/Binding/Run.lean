import SqlTemplate.Proofs.Binding.Log

/-! The runs of binding, step after step: what is read, and what comes of it. -/
namespace SqlTemplate

/-- A run over the children of a block. It ends at their end, at the first argument that drops the
block, or with the first one that cannot be written. -/
inductive BlockRun (mode : SkipMode) :
    Nat → List Fragment → List Value → List Reading → Except BindError BlockOutcome → Prop
  | done {k : Nat} {args : List Value} : BlockRun mode k [] args [] (.ok (some [], args))
  | literal {k : Nat} (text : Text) {rest : List Fragment} {args : List Value}
      {readings : List Reading} {outcome : Except BindError BlockOutcome}
      (later : BlockRun mode k rest args readings outcome) :
      BlockRun mode k (.literal text :: rest) args readings
        ((fun r => (r.1.map (.literal text :: ·), r.2)) <$> outcome)
  | outOfArguments {k : Nat} {s : Specifier} {rest : List Fragment} :
      BlockRun mode k (.placeholder s :: rest) [] [] (.error .outOfArguments)
  | dropped {k : Nat} {s : Specifier} {rest : List Fragment} {arg : Value} {args : List Value}
      (skips : arg.needsSkip = true) :
      BlockRun mode k (.placeholder s :: rest) (arg :: args)
        [⟨k, s, arg, .dropping (Fragment.placeholderCount rest)⟩]
        (.ok (none, mode.afterDrop (Fragment.placeholderCount rest) args))
  | refused {k : Nat} {s : Specifier} {rest : List Fragment} {arg : Value} {args : List Value}
      {cause : FormatError} (keeps : ¬ arg.needsSkip = true)
      (fails : formatValue s arg = .error cause) :
      BlockRun mode k (.placeholder s :: rest) (arg :: args) [⟨k, s, arg, .refused cause⟩]
        (.error (.format cause))
  | written {k : Nat} {s : Specifier} {rest : List Fragment} {arg : Value} {args : List Value}
      {text : Text} {readings : List Reading} {outcome : Except BindError BlockOutcome}
      (keeps : ¬ arg.needsSkip = true) (writes : formatValue s arg = .ok text)
      (later : BlockRun mode (k + 1) rest args readings outcome) :
      BlockRun mode k (.placeholder s :: rest) (arg :: args)
        (⟨k, s, arg, .written text⟩ :: readings)
        ((fun r => (r.1.map (.literal text :: ·), r.2)) <$> outcome)

/-- A run over nodes. -/
inductive NodesRun (mode : SkipMode) : Nat → List Node → List Value → List Reading →
    Except BindError (List Node × List Value) → Prop
  | done {k : Nat} {args : List Value} : NodesRun mode k [] args [] (.ok ([], args))
  | literal {k : Nat} (text : Text) {rest : List Node} {args : List Value}
      {readings : List Reading} {outcome : Except BindError (List Node × List Value)}
      (later : NodesRun mode k rest args readings outcome) :
      NodesRun mode k (.fragment (.literal text) :: rest) args readings
        ((fun r => (.fragment (.literal text) :: r.1, r.2)) <$> outcome)
  | outOfArguments {k : Nat} {s : Specifier} {rest : List Node} :
      NodesRun mode k (.fragment (.placeholder s) :: rest) [] [] (.error .outOfArguments)
  | refused {k : Nat} {s : Specifier} {rest : List Node} {arg : Value} {args : List Value}
      {cause : FormatError} (fails : formatValue s arg = .error cause) :
      NodesRun mode k (.fragment (.placeholder s) :: rest) (arg :: args)
        [⟨k, s, arg, .refused cause⟩] (.error (.format cause))
  | written {k : Nat} {s : Specifier} {rest : List Node} {arg : Value} {args : List Value}
      {text : Text} {readings : List Reading}
      {outcome : Except BindError (List Node × List Value)}
      (writes : formatValue s arg = .ok text)
      (later : NodesRun mode (k + 1) rest args readings outcome) :
      NodesRun mode k (.fragment (.placeholder s) :: rest) (arg :: args)
        (⟨k, s, arg, .written text⟩ :: readings)
        ((fun r => (.fragment (.literal text) :: r.1, r.2)) <$> outcome)
  | failed {k : Nat} {children : List Fragment} {rest : List Node} {args : List Value}
      {readings : List Reading} {e : BindError}
      (block : BlockRun mode k children args readings (.error e)) :
      NodesRun mode k (.block children :: rest) args readings (.error e)
  | block {k : Nat} {children : List Fragment} {rest : List Node} {args left : List Value}
      {kept : Option (List Fragment)} {readings more : List Reading}
      {outcome : Except BindError (List Node × List Value)}
      (block : BlockRun mode k children args readings (.ok (kept, left)))
      (later : NodesRun mode (k + Fragment.placeholderCount children) rest left more outcome) :
      NodesRun mode k (.block children :: rest) args (readings ++ more)
        ((fun r => (keptNode kept ++ r.1, r.2)) <$> outcome)

theorem blockRun_logBlock (mode : SkipMode) (k : Nat) (children : List Fragment)
    (args : List Value) : BlockRun mode k children args (logBlock mode k children args).readings
      (logBlock mode k children args).outcome := by
  induction children generalizing k args with
  | nil => exact .done
  | cons f rest ih =>
    match f, args with
    | .literal text, args => exact .literal text (ih k args)
    | .placeholder s, [] => exact .outOfArguments
    | .placeholder s, arg :: args =>
      rw [logBlock]
      by_cases hskip : arg.needsSkip
      · rw [if_pos hskip]
        exact .dropped hskip
      · rw [if_neg hskip]
        cases htext : formatValue s arg with
        | error cause => exact .refused hskip htext
        | ok text => exact .written hskip htext (ih (k + 1) args)

theorem nodesRun_logNodes (mode : SkipMode) (k : Nat) (nodes : List Node) (args : List Value) :
    NodesRun mode k nodes args (logNodes mode k nodes args).readings
      (logNodes mode k nodes args).outcome := by
  induction nodes generalizing k args with
  | nil => exact .done
  | cons node rest ih =>
    match node, args with
    | .fragment (.literal text), args => exact .literal text (ih k args)
    | .fragment (.placeholder s), [] => exact .outOfArguments
    | .fragment (.placeholder s), arg :: args =>
      rw [logNodes]
      cases htext : formatValue s arg with
      | error cause => exact .refused htext
      | ok text => exact .written htext (ih (k + 1) args)
    | .block children, args =>
      have hblock := blockRun_logBlock mode k children args
      rw [logNodes]
      match houtcome : (logBlock mode k children args).outcome with
      | .error e =>
        rw [houtcome] at hblock
        rw [Logged.andThen_of_error houtcome]
        exact .failed hblock
      | .ok (kept, left) =>
        rw [houtcome] at hblock
        rw [Logged.andThen_of_ok houtcome]
        exact .block hblock (ih (k + Fragment.placeholderCount children) left)

section
variable {mode : SkipMode} {k : Nat} {args : List Value} {readings : List Reading}

/-- Binding a block comes to what its run comes to. -/
theorem BlockRun.bindBlock_eq {children : List Fragment} {outcome : Except BindError BlockOutcome}
    (h : BlockRun mode k children args readings outcome) :
    bindBlock mode children args = outcome := by
  induction h with
  | done => rfl
  | literal _ _ ih => rw [bindBlock, ih]
  | outOfArguments => rfl
  | dropped skips => exact BindBlock.step_skip skips
  | refused keeps fails => exact BindBlock.step_error keeps fails
  | written keeps writes _ ih => rw [BindBlock.step_text keeps writes, ih]

/-- Binding comes to what its run comes to. -/
theorem NodesRun.bindNodes_eq {nodes : List Node}
    {outcome : Except BindError (List Node × List Value)}
    (h : NodesRun mode k nodes args readings outcome) :
    bindNodes mode nodes args = outcome := by
  induction h with
  | done => rfl
  | literal _ _ ih => rw [bindNodes, ih]
  | outOfArguments => rfl
  | refused fails => exact BindNodes.step_error fails
  | written writes _ ih => rw [BindNodes.step_text writes, ih]
  | failed block => exact BindNodes.step_block_error block.bindBlock_eq
  | block block _ ih => rw [BindNodes.step_block block.bindBlock_eq, ih]

end

/-- The log does not change what binding gives. -/
theorem outcome_logNodes (mode : SkipMode) (k : Nat) (nodes : List Node) (args : List Value) :
    (logNodes mode k nodes args).outcome = bindNodes mode nodes args :=
  (nodesRun_logNodes mode k nodes args).bindNodes_eq.symm

theorem nodesRun_bindNodes (mode : SkipMode) (k : Nat) (nodes : List Node) (args : List Value) :
    NodesRun mode k nodes args (logNodes mode k nodes args).readings
      (bindNodes mode nodes args) := by
  rw [← outcome_logNodes mode k nodes args]
  exact nodesRun_logNodes mode k nodes args

end SqlTemplate
