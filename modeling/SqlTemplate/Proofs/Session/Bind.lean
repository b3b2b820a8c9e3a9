import Mathlib.Tactic.SplitIfs
import SqlTemplate.Proofs.Binding.Step
import SqlTemplate.Proofs.Session.Object

/-! Binding of objects, read as binding of values. -/
namespace SqlTemplate

theorem BlockStore.write_last (old : BlockStore) (before rest : List Fragment)
    (child written : Fragment) :
    write (old ++ [before ++ child :: rest]) old.length before.length written =
      old ++ [before ++ written :: rest] := by
  rw [write, List.modify_eq_set_getElem?]
  simp

/-- Binding in the last block of a store, after the children `before` that are bound already: it
leaves the other blocks alone, and in a block that is kept there stand the children that binding
gives. -/
structure BindsLast (old : BlockStore) (before : List Fragment)
    (result : Except BindError (Bool × List Value) × BlockStore)
    (expected : Except BindError BlockOutcome) : Prop where
  outcome : result.1 = (fun r => (r.1.isSome, r.2)) <$> expected
  store : ∃ children, result.2 = old ++ [before ++ children] ∧
    ∀ kept left, expected = .ok (some kept, left) → children = kept

namespace BindsLast
variable {old : BlockStore} {before : List Fragment}
  {result : Except BindError (Bool × List Value) × BlockStore}
  {expected : Except BindError BlockOutcome}

theorem literal {text : Text} (h : BindsLast old (before ++ [.literal text]) result expected) :
    BindsLast old before result
      ((fun r => (r.1.map (.literal text :: ·), r.2)) <$> expected) := by
  obtain ⟨houtcome, children, hstore, hkept⟩ := h
  refine ⟨?_, .literal text :: children, ?_, ?_⟩
  · rw [houtcome, Functor.map_map]
    simp
  · rw [hstore, List.append_assoc]
    rfl
  · intro kept left hmap
    obtain ⟨⟨inner, left⟩, hinner, hsome⟩ := Outcome.map_eq_ok_iff.mp hmap
    cases inner with
    | none => cases hsome
    | some inner =>
      cases hsome
      rw [hkept inner left hinner]

end BindsLast

/-- The counter stands at the placeholder that drops a block and those after it, so the arguments of
these are passed over. -/
theorem SkipMode.drop_advance (mode : SkipMode) (arg : Value) (args : List Value) (s : Specifier)
    (rest : List Fragment) :
    (arg :: args).drop (mode.advance (Fragment.placeholderCount (.placeholder s :: rest))) =
      mode.afterDrop (Fragment.placeholderCount rest) args := by
  cases mode with
  | leave => rfl
  | consume =>
    rw [advance, afterDrop, Fragment.placeholderCount_placeholder]
    rfl

section
variable {mode : SkipMode}

/-- Binding in place, with the counter started at the placeholders of the block, is binding. -/
theorem bindInPlace_last (old : BlockStore) (before children : List Fragment) (args : List Value) :
    BindsLast old before
      (bindInPlace mode old.length before.length (Fragment.placeholderCount children) children args
        (old ++ [before ++ children]))
      (bindBlock mode children args) := by
  induction children generalizing before args with
  | nil =>
    refine ⟨rfl, [], rfl, ?_⟩
    rintro kept left ⟨⟩
    rfl
  | cons child rest ih =>
    cases child with
    | literal text =>
      have hrest := ih (before ++ [.literal text]) args
      rw [List.length_append, List.append_assoc] at hrest
      exact hrest.literal
    | placeholder s =>
      cases args with
      | nil => exact ⟨rfl, _, rfl, nofun⟩
      | cons arg args =>
        rw [bindInPlace]
        by_cases hskip : arg.needsSkip = true
        · rw [if_pos hskip, BindBlock.step_skip hskip, mode.drop_advance]
          exact ⟨rfl, _, rfl, nofun⟩
        · rw [if_neg hskip]
          cases htext : formatValue s arg with
          | error cause =>
            rw [BindBlock.step_error hskip htext]
            exact ⟨rfl, _, rfl, nofun⟩
          | ok text =>
            rw [BindBlock.step_text hskip htext]
            have hrest := ih (before ++ [.literal text]) args
            rw [List.length_append, List.append_assoc] at hrest
            simp only [BlockStore.write_last, Fragment.placeholderCount_placeholder,
              Nat.add_sub_cancel]
            exact hrest.literal

/-- A block is bound in its copy, and the rest in the store with the copy. -/
theorem bindObjects_block {b : Nat} {rest : List NodeObject} {values : List Node}
    {blocks : BlockStore} (args : List Value)
    (hrest : ∀ left later, blocks <+: later →
      ReadsAs later (bindObjects mode rest left later).2 (bindObjects mode rest left later).1
        ((·.1) <$> bindNodes mode values left)) :
    ReadsAs blocks (bindObjects mode (.block b :: rest) args blocks).2
      (bindObjects mode (.block b :: rest) args blocks).1
      ((·.1) <$> bindNodes mode (.block (blocks.read b) :: values) args) := by
  obtain ⟨houtcome, children, hstore, hkept⟩ :=
    @bindInPlace_last mode blocks [] (blocks.read b) args
  rw [bindObjects]
  rw [List.nil_append, List.length_nil] at houtcome hstore
  generalize bindInPlace mode blocks.length 0 (Fragment.placeholderCount (blocks.read b))
    (blocks.read b) args (blocks ++ [blocks.read b]) = placed at houtcome hstore
  obtain ⟨outcome, later⟩ := placed
  have hgrown : blocks <+: blocks ++ [children] := List.prefix_append _ _
  obtain rfl : later = blocks ++ [children] := hstore
  cases hblock : bindBlock mode (blocks.read b) args with
  | error e =>
    rw [hblock] at houtcome
    obtain rfl : outcome = .error e := houtcome
    rw [BindNodes.step_block_error hblock]
    exact .error hgrown
  | ok r =>
    obtain ⟨kept, left⟩ := r
    rw [hblock] at houtcome
    obtain rfl : outcome = .ok (kept.isSome, left) := houtcome
    have hafter := hrest left (blocks ++ [children]) hgrown
    rw [BindNodes.step_block hblock, Outcome.fst_map (keptNode kept ++ ·)]
    cases kept with
    | none =>
      rw [keptNode, Option.map_none, Option.toList_none]
      simp only [List.nil_append, id_map']
      exact hafter.of_prefix hgrown
    | some kept =>
      obtain rfl := hkept kept left hblock
      exact .block hafter.grown (hafter.of_prefix hgrown)

/-- A binding of objects gives what binding of their values gives. No block that was there before is
written into, whether the binding succeeds or not. -/
theorem bindObjects_readsAs (nodes : List NodeObject) (args : List Value) (blocks : BlockStore)
    (hknown : ∀ node ∈ nodes, node.Known blocks) :
    ReadsAs blocks (bindObjects mode nodes args blocks).2 (bindObjects mode nodes args blocks).1
      ((·.1) <$> bindNodes mode (nodes.map (·.read blocks)) args) := by
  induction nodes generalizing args blocks with
  | nil => exact .nil
  | cons node rest ih =>
    obtain ⟨-, hrest⟩ := List.forall_mem_cons.mp hknown
    rw [List.map_cons]
    cases node with
    | fragment f =>
      cases f with
      | literal text =>
        rw [NodeObject.read, bindNodes, Outcome.fst_map (Node.fragment (.literal text) :: ·)]
        exact (ih args blocks hrest).fragment (.literal text)
      | placeholder s =>
        cases args with
        | nil => exact .error List.prefix_rfl
        | cons arg args =>
          rw [NodeObject.read, bindObjects]
          cases htext : formatValue s arg with
          | error cause =>
            rw [BindNodes.step_error htext]
            exact .error List.prefix_rfl
          | ok text =>
            rw [BindNodes.step_text htext, Outcome.fst_map (Node.fragment (.literal text) :: ·)]
            exact (ih args blocks hrest).fragment (.literal text)
    | block b =>
      apply bindObjects_block
      intro left later hgrown
      rw [← NodeObject.map_read_eq hrest hgrown]
      exact ih left later fun node hmem => (hrest node hmem).mono hgrown

theorem bindObject_readsAs {t : TemplateObject} {blocks : BlockStore} (args : Value)
    (hknown : t.Known blocks) :
    ReadsAs blocks (bindObject mode t args blocks).2 (bindObject mode t args blocks).1
      (bindValue mode (t.read blocks) args) := by
  rw [bindObject, bindValue]
  cases argumentsOf args with
  | error e => exact .error List.prefix_rfl
  | ok items =>
    simp only [Outcome.ok_bind, bind, TemplateObject.read]
    split_ifs with hcount
    · exact bindObjects_readsAs t.nodes items blocks hknown
    · exact .error List.prefix_rfl

end
end SqlTemplate
