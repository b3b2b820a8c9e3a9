import Mathlib.Data.List.Forall2
import SqlTemplate.Proofs.Binding.Placement

/-! What a run makes of nodes, told by its readings alone. The account is the same in either mode. -/
namespace SqlTemplate

/-- A literal stays as it is, and a placeholder becomes the text of a reading made at it. -/
def Fragment.WrittenBy (readings : List Reading) : Nat × Fragment → Fragment → Prop
  | (_, .literal text), bound => bound = .literal text
  | (k, .placeholder s), bound =>
    ∃ v text, ⟨k, s, v, .written text⟩ ∈ readings ∧ bound = .literal text

theorem Fragment.WrittenBy.mono {readings others : List Reading} (hsub : readings ⊆ others)
    {f : Nat × Fragment} {bound : Fragment} (h : WrittenBy readings f bound) :
    WrittenBy others f bound := by
  match f, h with
  | (_, .literal _), h => exact h
  | (_, .placeholder _), ⟨v, text, hmem, htext⟩ => exact ⟨v, text, hsub hmem, htext⟩

namespace Node

/-- A node that stays, with each placeholder in it replaced by the text of a reading made at it. -/
def WrittenBy (readings : List Reading) : Nat × Node → Node → Prop
  | (k, .fragment f), bound => ∃ g, Fragment.WrittenBy readings (k, f) g ∧ bound = .fragment g
  | (k, .block children), bound =>
    ∃ kept, List.Forall₂ (Fragment.WrittenBy readings) (Fragment.numbered k children) kept ∧
      bound = .block kept

/-- Whether a node is no block that the readings drop. -/
def stays (readings : List Reading) (node : Nat × Node) : Bool := (skippedAt? readings node).isNone

@[simp] theorem stays_fragment (readings : List Reading) (k : Nat) (f : Fragment) :
    stays readings (k, .fragment f) = true := rfl

end Node

section
variable {mode : SkipMode} {k : Nat} {args left : List Value} {readings : List Reading}

theorem BlockRun.writtenBy {children kept : List Fragment}
    {outcome : Except BindError BlockOutcome}
    (h : BlockRun mode k children args readings outcome) (hok : outcome = .ok (some kept, left)) :
    List.Forall₂ (Fragment.WrittenBy readings) (Fragment.numbered k children) kept := by
  induction h generalizing kept left with
  | done =>
    cases hok
    exact .nil
  | literal _ _ ih =>
    obtain ⟨⟨later, _⟩, hlater, hkept⟩ := Outcome.map_eq_ok_iff.mp hok
    obtain ⟨kept, rfl, rfl⟩ := Option.map_eq_some_iff.mp (Prod.mk.inj hkept).1
    exact .cons rfl (ih hlater)
  | outOfArguments => cases hok
  | dropped => cases hok
  | refused => cases hok
  | written _ _ _ ih =>
    obtain ⟨⟨later, _⟩, hlater, hkept⟩ := Outcome.map_eq_ok_iff.mp hok
    obtain ⟨kept, rfl, rfl⟩ := Option.map_eq_some_iff.mp (Prod.mk.inj hkept).1
    refine .cons ⟨_, _, List.mem_cons_self, rfl⟩ ((ih hlater).imp fun _ _ => ?_)
    exact Fragment.WrittenBy.mono (List.subset_cons_self _ _)

/-- A run that succeeds leaves out the blocks that a reading drops, and of the other nodes it
replaces each placeholder by the text of a reading made there. What was read earlier, at
placeholders before these nodes, makes no difference. -/
theorem NodesRun.writtenBy {nodes bound : List Node}
    {outcome : Except BindError (List Node × List Value)}
    (h : NodesRun mode k nodes args readings outcome) (hok : outcome = .ok (bound, left))
    {earlier : List Reading} (hearlier : ∀ r ∈ earlier, r.slot < k) :
    List.Forall₂ (Node.WrittenBy (earlier ++ readings))
      ((Node.numbered k nodes).filter (Node.stays (earlier ++ readings))) bound := by
  induction h generalizing bound left earlier with
  | done =>
    cases hok
    exact .nil
  | literal _ _ ih =>
    obtain ⟨⟨later, _⟩, hlater, ⟨⟩⟩ := Outcome.map_eq_ok_iff.mp hok
    exact .cons ⟨_, rfl, rfl⟩ (ih hlater hearlier)
  | outOfArguments => cases hok
  | refused => cases hok
  | @written k s _ arg _ text more _ _ _ ih =>
    obtain ⟨⟨later, _⟩, hlater, ⟨⟩⟩ := Outcome.map_eq_ok_iff.mp hok
    have hslot : ∀ r ∈ [(⟨k, s, arg, .written text⟩ : Reading)], r.slot < k + 1 := by simp
    have hrest := ih hlater (Node.slot_lt_of_mem_append hearlier hslot)
    rw [List.append_assoc, List.singleton_append] at hrest
    have hmem : ⟨k, s, arg, .written text⟩ ∈ earlier ++ ⟨k, s, arg, .written text⟩ :: more :=
      List.mem_append_right _ List.mem_cons_self
    exact .cons ⟨_, ⟨arg, text, hmem, rfl⟩, rfl⟩ hrest
  | failed => cases hok
  | @block k children rest _ _ kept readings more _ block later ih =>
    obtain ⟨⟨bound, _⟩, hlater, ⟨⟩⟩ := Outcome.map_eq_ok_iff.mp hok
    have hplaced := block.placed
    have hrest := ih hlater (Node.slot_lt_of_mem_append hearlier
      fun r hr => (hplaced r hr).bounds.2)
    rw [List.append_assoc] at hrest
    have hstays : Node.stays (earlier ++ (readings ++ more)) (k, .block children) = kept.isSome := by
      rw [Node.stays, Node.skippedAt?_of_placed hearlier hplaced fun r hr => (later.placed r hr).le,
        Option.isNone_map, block.find?_isNone rfl]
    rw [Node.numbered_cons, Node.placeholderCount_block]
    cases kept with
    | none =>
      rw [List.filter_cons_of_neg (by simp [hstays])]
      exact hrest
    | some kept =>
      rw [List.filter_cons_of_pos (by simp [hstays])]
      refine .cons ⟨kept, (block.writtenBy rfl).imp fun _ _ => ?_, rfl⟩ hrest
      refine Fragment.WrittenBy.mono ?_
      exact fun r hr => List.mem_append_right _ (List.mem_append_left _ hr)

end

end SqlTemplate
