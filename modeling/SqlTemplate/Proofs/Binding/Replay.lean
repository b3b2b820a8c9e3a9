import SqlTemplate.Proofs.Binding.Run
import SqlTemplate.Proofs.Outcome
import SqlTemplate.Proofs.Template.Slot

/-! A run can be repeated from its readings alone, in either mode. In consuming mode each drop is
followed by fillers for the placeholders that it passes over. -/
namespace SqlTemplate

namespace Reading

/-- The arguments from which a mode makes this reading and what it passes over: the argument itself,
and in consuming mode a filler for each placeholder that is dropped with it. -/
def cells (mode : SkipMode) (filler : Nat → Value) (r : Reading) : List Value :=
  match mode with
  | .leave => [r.value]
  | .consume => r.value :: (List.range' (r.slot + 1) r.following).map filler

section
variable {mode : SkipMode} {filler : Nat → Value} {k : Nat} {s : Specifier} {arg : Value}

@[simp] theorem cells_written {text : Text} :
    cells mode filler ⟨k, s, arg, .written text⟩ = [arg] := by cases mode <;> rfl

@[simp] theorem cells_refused {cause : FormatError} :
    cells mode filler ⟨k, s, arg, .refused cause⟩ = [arg] := by cases mode <;> rfl

end

/-- What a drop passes over is what its mode takes away after it. -/
theorem cells_dropping (mode : SkipMode) (filler : Nat → Value) (k : Nat) (s : Specifier)
    (arg : Value) (following : Nat) :
    ∃ passed, cells mode filler ⟨k, s, arg, .dropping following⟩ = arg :: passed ∧
      ∀ extra, mode.afterDrop following (passed ++ extra) = extra := by
  cases mode with
  | leave => exact ⟨[], rfl, fun _ => rfl⟩
  | consume =>
    refine ⟨_, rfl, ?_⟩
    intro extra
    exact List.drop_left' (by simp [Reading.following])

end Reading

section
variable {source : SkipMode} {k : Nat} {args : List Value} {readings : List Reading}

/-- The readings of a block bring any mode to the same outcome, and nothing else is read. -/
theorem BlockRun.replay {children : List Fragment} {outcome : Except BindError BlockOutcome}
    (h : BlockRun source k children args readings outcome)
    (henough : outcome ≠ .error .outOfArguments) (mode : SkipMode) (filler : Nat → Value)
    (extra : List Value) :
    BlockRun mode k children (readings.flatMap (Reading.cells mode filler) ++ extra) readings
      ((fun r => (r.1, extra)) <$> outcome) := by
  induction h with
  | done => exact .done
  | literal text _ ih =>
    have hlater := (ih (Outcome.ne_error_of_map henough)).literal text
    rw [Functor.map_map] at hlater ⊢
    exact hlater
  | outOfArguments => exact (henough rfl).elim
  | @dropped k s rest arg args skips =>
    obtain ⟨passed, hcells, hpassed⟩ :=
      Reading.cells_dropping mode filler k s arg (Fragment.placeholderCount rest)
    have hdrop : BlockRun mode k (.placeholder s :: rest) (arg :: (passed ++ extra)) _ _ :=
      .dropped skips
    rw [hpassed extra] at hdrop
    rw [List.flatMap_singleton, hcells]
    exact hdrop
  | refused keeps fails =>
    rw [List.flatMap_singleton, Reading.cells_refused]
    exact .refused keeps fails
  | written keeps writes _ ih =>
    have hlater := (ih (Outcome.ne_error_of_map henough)).written keeps writes
    rw [Functor.map_map] at hlater ⊢
    rw [List.flatMap_cons, Reading.cells_written]
    exact hlater

/-- The readings of a run bring any mode to the same outcome, and nothing else is read. -/
theorem NodesRun.replay {nodes : List Node} {outcome : Except BindError (List Node × List Value)}
    (h : NodesRun source k nodes args readings outcome)
    (henough : outcome ≠ .error .outOfArguments) (mode : SkipMode) (filler : Nat → Value)
    (extra : List Value) :
    NodesRun mode k nodes (readings.flatMap (Reading.cells mode filler) ++ extra) readings
      ((fun r => (r.1, extra)) <$> outcome) := by
  induction h with
  | done => exact .done
  | literal text _ ih =>
    have hlater := (ih (Outcome.ne_error_of_map henough)).literal text
    rw [Functor.map_map] at hlater ⊢
    exact hlater
  | outOfArguments => exact (henough rfl).elim
  | refused fails =>
    rw [List.flatMap_singleton, Reading.cells_refused]
    exact .refused fails
  | written writes _ ih =>
    have hlater := (ih (Outcome.ne_error_of_map henough)).written writes
    rw [Functor.map_map] at hlater ⊢
    rw [List.flatMap_cons, Reading.cells_written]
    exact hlater
  | failed block => exact .failed (block.replay (by simpa using henough) mode filler extra)
  | block block _ ih =>
    have hlater := ih (Outcome.ne_error_of_map henough)
    rw [List.flatMap_append, List.append_assoc, Functor.map_map]
    have hrun := NodesRun.block (block.replay nofun mode filler _) hlater
    rwa [Functor.map_map] at hrun

end

/-! A run has arguments enough when there is one for each placeholder. -/

section
variable {mode : SkipMode} {k : Nat} {args : List Value} {readings : List Reading}

theorem BlockRun.length_left {children : List Fragment} {outcome : Except BindError BlockOutcome}
    (h : BlockRun mode k children args readings outcome) {kept : Option (List Fragment)}
    {left : List Value} (hleft : outcome = .ok (kept, left)) :
    args.length ≤ left.length + Fragment.placeholderCount children := by
  induction h generalizing kept left with
  | done =>
    cases hleft
    exact Nat.le_refl _
  | literal _ _ ih =>
    obtain ⟨⟨later, _⟩, hlater, ⟨⟩⟩ := Outcome.map_eq_ok_iff.mp hleft
    rw [Fragment.placeholderCount_literal]
    exact ih hlater
  | outOfArguments => cases hleft
  | dropped =>
    cases hleft
    rw [Fragment.placeholderCount_placeholder]
    cases mode with
    | leave => simp [SkipMode.afterDrop]
    | consume =>
      simp only [SkipMode.afterDrop, List.length_cons, List.length_drop]
      omega
  | refused => cases hleft
  | written _ _ _ ih =>
    obtain ⟨⟨later, _⟩, hlater, ⟨⟩⟩ := Outcome.map_eq_ok_iff.mp hleft
    have hrest := ih hlater
    rw [List.length_cons, Fragment.placeholderCount_placeholder]
    dsimp only
    omega

theorem BlockRun.ne_outOfArguments {children : List Fragment}
    {outcome : Except BindError BlockOutcome}
    (h : BlockRun mode k children args readings outcome)
    (henough : Fragment.placeholderCount children ≤ args.length) :
    outcome ≠ .error .outOfArguments := by
  induction h with
  | done => nofun
  | literal _ _ ih =>
    rw [ne_eq, Outcome.map_eq_error_iff]
    exact ih (by simpa using henough)
  | outOfArguments => simp at henough
  | dropped => nofun
  | refused => nofun
  | written _ _ _ ih =>
    rw [ne_eq, Outcome.map_eq_error_iff]
    exact ih (by simpa using henough)

theorem NodesRun.ne_outOfArguments {nodes : List Node}
    {outcome : Except BindError (List Node × List Value)}
    (h : NodesRun mode k nodes args readings outcome)
    (henough : Node.slotCount nodes ≤ args.length) : outcome ≠ .error .outOfArguments := by
  induction h with
  | done => nofun
  | literal _ _ ih =>
    rw [ne_eq, Outcome.map_eq_error_iff]
    exact ih (by simpa using henough)
  | outOfArguments => simp at henough
  | refused => nofun
  | written _ _ ih =>
    rw [Node.slotCount_cons, Node.placeholderCount_placeholder, List.length_cons] at henough
    rw [ne_eq, Outcome.map_eq_error_iff]
    exact ih (by omega)
  | failed block =>
    rw [Node.slotCount_cons, Node.placeholderCount_block] at henough
    have hblock := block.ne_outOfArguments (by omega)
    simpa using hblock
  | block block _ ih =>
    rw [Node.slotCount_cons, Node.placeholderCount_block] at henough
    have hleft := block.length_left rfl
    rw [ne_eq, Outcome.map_eq_error_iff]
    exact ih (by omega)

/-- A block has room for its readings and the fillers among them. -/
theorem BlockRun.length_cells_le {children : List Fragment}
    {outcome : Except BindError BlockOutcome}
    (h : BlockRun mode k children args readings outcome) (filler : Nat → Value) :
    (readings.flatMap (Reading.cells .consume filler)).length ≤
      Fragment.placeholderCount children := by
  induction h with
  | done => exact Nat.le_refl 0
  | literal _ _ ih => simpa using ih
  | outOfArguments => exact Nat.zero_le _
  | dropped => simp [Reading.cells, Reading.following]
  | refused => simp
  | written _ _ _ ih =>
    rw [List.flatMap_cons, List.length_append, Reading.cells_written, List.length_singleton,
      Fragment.placeholderCount_placeholder]
    omega

theorem NodesRun.length_cells_le {nodes : List Node}
    {outcome : Except BindError (List Node × List Value)}
    (h : NodesRun mode k nodes args readings outcome) (filler : Nat → Value) :
    (readings.flatMap (Reading.cells .consume filler)).length ≤ Node.slotCount nodes := by
  induction h with
  | done => exact Nat.le_refl 0
  | literal _ _ ih => simpa using ih
  | outOfArguments => exact Nat.zero_le _
  | refused => simp
  | written _ _ ih =>
    rw [List.flatMap_cons, List.length_append, Reading.cells_written, List.length_singleton,
      Node.slotCount_cons, Node.placeholderCount_placeholder]
    omega
  | failed block =>
    have hblock := block.length_cells_le filler
    rw [Node.slotCount_cons, Node.placeholderCount_block]
    omega
  | block block _ ih =>
    have hblock := block.length_cells_le filler
    rw [List.flatMap_append, List.length_append, Node.slotCount_cons, Node.placeholderCount_block]
    omega

end

end SqlTemplate
