import SqlTemplate.Proofs.Binding.Position
import SqlTemplate.Proofs.Binding.Run

/-! What binding one block can come to. The block takes the arguments from number `k` on, and its
placeholders are numbered from `k` on. -/
namespace SqlTemplate

/-- The outcomes of a block: it is kept with all its placeholders bound, it is dropped at the first
argument that needs a skip, or it fails at an argument before that. -/
inductive BlockBinding (mode : SkipMode) (args : List Value) (k : Nat) (children : List Fragment) :
    Except BindError BlockOutcome → Prop
  | kept (bound : List Fragment)
      (unskipped : ∀ i, k ≤ i → i < k + Fragment.placeholderCount children → skipAt args i = false)
      (boundTo : List.Forall₂ (Fragment.BoundTo args) (Fragment.numbered k children) bound) :
      BlockBinding mode args k children
        (.ok (some bound, args.drop (k + Fragment.placeholderCount children)))
  | dropped (j : Nat) (s : Specifier) (mem : (j, .placeholder s) ∈ Fragment.numbered k children)
      (skips : skipAt args j = true) (first : ∀ i, k ≤ i → i < j → skipAt args i = false)
      (written : WrittenBefore args (Fragment.numbered k children) j) :
      BlockBinding mode args k children
        (.ok (none, mode.afterDrop (k + Fragment.placeholderCount children - (j + 1))
          (args.drop (j + 1))))
  | refused (j : Nat) (s : Specifier) (cause : FormatError)
      (mem : (j, .placeholder s) ∈ Fragment.numbered k children)
      (unskipped : ∀ i, k ≤ i → i ≤ j → skipAt args i = false)
      (fails : textAt args j s = some (.error cause))
      (written : WrittenBefore args (Fragment.numbered k children) j) :
      BlockBinding mode args k children (.error (.format cause))

namespace BlockBinding
variable {mode : SkipMode} {args : List Value} {k : Nat} {rest : List Fragment}

theorem literal {text : Text} {outcome : Except BindError BlockOutcome}
    (h : BlockBinding mode args k rest outcome) :
    BlockBinding mode args k (.literal text :: rest)
      ((fun r => (r.1.map (.literal text :: ·), r.2)) <$> outcome) := by
  have hwritten : ∀ {j}, WrittenBefore args (Fragment.numbered k rest) j →
      WrittenBefore args (Fragment.numbered k (.literal text :: rest)) j := by
    intro j hj i s hmem
    exact hj i s (by simpa using hmem)
  cases h with
  | kept bound unskipped boundTo =>
    refine .kept (.literal text :: bound) ?_ (.cons rfl boundTo)
    rwa [Fragment.placeholderCount_literal]
  | dropped j s mem skips first written =>
    rw [← Fragment.placeholderCount_literal text]
    exact .dropped j s (List.mem_cons_of_mem _ mem) skips first (hwritten written)
  | refused j s cause mem unskipped fails written =>
    exact .refused j s cause (List.mem_cons_of_mem _ mem) unskipped fails (hwritten written)

theorem placeholder {s : Specifier} {text : Text} {outcome : Except BindError BlockOutcome}
    (hskip : skipAt args k = false) (htext : textAt args k s = some (.ok text))
    (h : BlockBinding mode args (k + 1) rest outcome) :
    BlockBinding mode args k (.placeholder s :: rest)
      ((fun r => (r.1.map (.literal text :: ·), r.2)) <$> outcome) := by
  have hcount : k + 1 + Fragment.placeholderCount rest =
      k + Fragment.placeholderCount (.placeholder s :: rest) := by
    rw [Fragment.placeholderCount_placeholder]
    omega
  have hwritten : ∀ {j}, WrittenBefore args (Fragment.numbered (k + 1) rest) j →
      WrittenBefore args (Fragment.numbered k (.placeholder s :: rest)) j := by
    intro j hj i t hmem hij
    rcases List.mem_cons.mp hmem with hmem | hmem
    · cases hmem
      exact ⟨text, htext⟩
    · exact hj i t hmem hij
  have hunskipped : ∀ {i}, k ≤ i → (k + 1 ≤ i → skipAt args i = false) →
      skipAt args i = false := by
    intro i hki hi
    rcases Nat.eq_or_lt_of_le hki with rfl | hlt
    · exact hskip
    · exact hi hlt
  cases h with
  | kept bound unskipped boundTo =>
    rw [hcount] at unskipped ⊢
    refine .kept (.literal text :: bound) ?_ (.cons ⟨text, htext, rfl⟩ boundTo)
    exact fun i hki hi => hunskipped hki fun hlt => unskipped i hlt hi
  | dropped j t mem skips first written =>
    rw [hcount]
    refine .dropped j t (List.mem_cons_of_mem _ mem) skips ?_ (hwritten written)
    exact fun i hki hi => hunskipped hki fun hlt => first i hlt hi
  | refused j t cause mem unskipped fails written =>
    refine .refused j t cause (List.mem_cons_of_mem _ mem) ?_ fails (hwritten written)
    exact fun i hki hi => hunskipped hki fun hlt => unskipped i hlt hi

end BlockBinding

section
variable {mode : SkipMode} {args given : List Value} {k : Nat} {children : List Fragment}
  {readings : List Reading} {outcome : Except BindError BlockOutcome}

/-- A run over a block comes to one of these outcomes if there are arguments enough. -/
theorem BlockRun.binding (h : BlockRun mode k children given readings outcome)
    (hgiven : args.drop k = given)
    (hroom : k + Fragment.placeholderCount children ≤ args.length) :
    BlockBinding mode args k children outcome := by
  have hnone : ∀ {k i : Nat}, k ≤ i → ¬ i < k := fun hki => Nat.not_lt.mpr hki
  have hwritten : ∀ {k : Nat} {s : Specifier} {rest : List Fragment},
      WrittenBefore args (Fragment.numbered k (.placeholder s :: rest)) k := by
    intro k s rest i t hmem hi
    exact (hnone (Fragment.number_lt_of_mem hmem).1 hi).elim
  induction h with
  | done =>
    rw [← hgiven]
    exact .kept [] (fun i hki hi => (hnone hki hi).elim) .nil
  | literal text _ ih =>
    rw [Fragment.placeholderCount_literal] at hroom
    exact (ih hgiven hroom).literal
  | outOfArguments =>
    rw [Fragment.placeholderCount_placeholder] at hroom
    have hlength := List.drop_eq_nil_iff.mp hgiven
    omega
  | @dropped k s rest arg given skips =>
    obtain ⟨harg, hrest⟩ := getElem?_of_drop_eq_cons hgiven
    have hcount : Fragment.placeholderCount rest =
        k + Fragment.placeholderCount (.placeholder s :: rest) - (k + 1) := by
      rw [Fragment.placeholderCount_placeholder]
      omega
    rw [hcount, ← hrest]
    exact .dropped k s List.mem_cons_self ((skipAt_eq harg).trans skips)
      (fun i hki hi => (hnone hki hi).elim) hwritten
  | @refused k s _ _ _ cause keeps fails =>
    have harg := (getElem?_of_drop_eq_cons hgiven).1
    refine .refused k s cause List.mem_cons_self ?_ ?_ hwritten
    · intro i hki hik
      rw [Nat.le_antisymm hik hki, skipAt_eq harg]
      exact Bool.eq_false_iff.mpr keeps
    · rw [textAt_eq harg, fails]
  | written keeps writes _ ih =>
    obtain ⟨harg, hrest⟩ := getElem?_of_drop_eq_cons hgiven
    rw [Fragment.placeholderCount_placeholder] at hroom
    refine .placeholder ?_ ?_ (ih hrest (by omega))
    · rw [skipAt_eq harg]
      exact Bool.eq_false_iff.mpr keeps
    · rw [textAt_eq harg, writes]

end

theorem SkipMode.afterDrop_consume_drop {args : List Value} {j m : Nat} (h : j < m) :
    SkipMode.consume.afterDrop (m - (j + 1)) (args.drop (j + 1)) = args.drop m := by
  rw [afterDrop, List.drop_drop, Nat.add_sub_cancel' h]

/-- In consuming mode a block leaves the arguments from the number of the next placeholder on,
whether it is kept or dropped. -/
theorem BlockBinding.consume_left {args left : List Value} {children : List Fragment} {k : Nat}
    {kept : Option (List Fragment)}
    (h : BlockBinding .consume args k children (.ok (kept, left))) :
    args.drop (k + Fragment.placeholderCount children) = left := by
  cases h with
  | kept => rfl
  | dropped j s mem =>
    exact (SkipMode.afterDrop_consume_drop (Fragment.number_lt_of_mem mem).2).symm

end SqlTemplate
