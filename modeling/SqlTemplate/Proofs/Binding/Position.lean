import Mathlib.Data.List.Forall2
import SqlTemplate.Proofs.Binding.Step
import SqlTemplate.Proofs.Template.Slot

/-! Binding position by position: placeholder number `k` and argument number `k` belong together,
whatever happens to the blocks before. Nothing here moves a cursor through the arguments. -/
namespace SqlTemplate

/-- Whether argument `k` drops the block around its placeholder. -/
def skipAt (args : List Value) (k : Nat) : Bool := args[k]?.any Value.needsSkip

/-- How argument `k` is written for a specifier. -/
def textAt (args : List Value) (k : Nat) (s : Specifier) : Option (Except FormatError Text) :=
  args[k]?.map (formatValue s)

theorem skipAt_eq {args : List Value} {k : Nat} {v : Value} (h : args[k]? = some v) :
    skipAt args k = v.needsSkip := by rw [skipAt, h, Option.any_some]

theorem textAt_eq {args : List Value} {k : Nat} {v : Value} (h : args[k]? = some v)
    (s : Specifier) : textAt args k s = some (formatValue s v) := by rw [textAt, h, Option.map_some]

/-- The first of the arguments from number `k` on is argument `k`. -/
theorem getElem?_of_drop_eq_cons {args rest : List Value} {arg : Value} {k : Nat}
    (h : args.drop k = arg :: rest) : args[k]? = some arg ∧ args.drop (k + 1) = rest := by
  constructor
  · rw [← List.head?_drop, h, List.head?_cons]
  · rw [← List.tail_drop, h, List.tail_cons]

/-- All of the numbered placeholders before number `j` have a text. -/
def WrittenBefore (args : List Value) (fragments : List (Nat × Fragment)) (j : Nat) : Prop :=
  ∀ i s, (i, .placeholder s) ∈ fragments → i < j → ∃ text, textAt args i s = some (.ok text)

namespace Fragment

/-- A literal stays as it is, and a placeholder becomes the text of its own argument. -/
def BoundTo (args : List Value) : Nat × Fragment → Fragment → Prop
  | (_, .literal text), bound => bound = .literal text
  | (k, .placeholder s), bound =>
    ∃ text, textAt args k s = some (.ok text) ∧ bound = .literal text

theorem boundTo_rightUnique (args : List Value) : Relator.RightUnique (BoundTo args) := by
  rintro ⟨k, f⟩ g h hg hh
  cases f with
  | literal text => exact Eq.trans hg (Eq.symm hh)
  | placeholder s =>
    obtain ⟨text, htext, rfl⟩ := hg
    obtain ⟨other, hother, rfl⟩ := hh
    rw [htext] at hother
    cases hother
    rfl

/-- Bound fragments show the text of each placeholder among them. -/
theorem exists_text_of_boundTo {args : List Value} {fragments : List (Nat × Fragment)}
    {bound : List Fragment} (h : List.Forall₂ (BoundTo args) fragments bound) {j : Nat}
    {s : Specifier} (hmem : (j, .placeholder s) ∈ fragments) :
    ∃ text, textAt args j s = some (.ok text) := by
  induction h with
  | nil => exact (List.not_mem_nil hmem).elim
  | cons hfirst _ ih =>
    rcases List.mem_cons.mp hmem with rfl | hmem
    · obtain ⟨text, htext, -⟩ := hfirst
      exact ⟨text, htext⟩
    · exact ih hmem

end Fragment

namespace Node

/-- A block goes if the argument of some placeholder in it drops it. -/
def isDropped (args : List Value) : Nat × Node → Bool
  | (_, .fragment _) => false
  | (k, .block children) =>
    (Fragment.numbered k children).any fun f => f.2.isPlaceholder && skipAt args f.1

theorem isDropped_block_of_mem {args : List Value} {k j : Nat} {children : List Fragment}
    {s : Specifier} (h : (j, .placeholder s) ∈ Fragment.numbered k children)
    (hskip : skipAt args j = true) : isDropped args (k, .block children) = true :=
  List.any_eq_true.mpr ⟨_, h, by simpa [Fragment.isPlaceholder] using hskip⟩

theorem isDropped_block_eq_false {args : List Value} {k : Nat} {children : List Fragment}
    (h : ∀ i, k ≤ i → i < k + Fragment.placeholderCount children → skipAt args i = false) :
    isDropped args (k, .block children) = false := by
  refine List.any_eq_false.mpr ?_
  rintro ⟨j, f⟩ hmem
  cases f with
  | literal text => simp [Fragment.isPlaceholder]
  | placeholder s =>
    obtain ⟨hkj, hj⟩ := Fragment.number_lt_of_mem hmem
    simp [h j hkj hj]

/-- A node that stays, with each placeholder in it replaced by the text of its own argument. -/
def BoundTo (args : List Value) : Nat × Node → Node → Prop
  | (k, .fragment f), bound => ∃ g, Fragment.BoundTo args (k, f) g ∧ bound = .fragment g
  | (k, .block children), bound =>
    ∃ kept, List.Forall₂ (Fragment.BoundTo args) (Fragment.numbered k children) kept ∧
      bound = .block kept

theorem boundTo_rightUnique (args : List Value) : Relator.RightUnique (BoundTo args) := by
  rintro ⟨k, node⟩ m n hm hn
  cases node with
  | fragment f =>
    obtain ⟨g, hg, rfl⟩ := hm
    obtain ⟨h, hh, rfl⟩ := hn
    rw [Fragment.boundTo_rightUnique args hg hh]
  | block children =>
    obtain ⟨kept, hkept, rfl⟩ := hm
    obtain ⟨others, hothers, rfl⟩ := hn
    rw [(Fragment.boundTo_rightUnique args).forall₂ hkept hothers]

/-- Placeholder `j` is one that is formatted: it stands outside any block, or in a block where no
argument up to its own needs a skip. -/
def IsFormatted (args : List Value) (k : Nat) (nodes : List Node) (j : Nat) (s : Specifier) :
    Prop :=
  (j, .fragment (.placeholder s)) ∈ numbered k nodes ∨
    ∃ start children, (start, .block children) ∈ numbered k nodes ∧
      (j, .placeholder s) ∈ Fragment.numbered start children ∧
      ∀ i, start ≤ i → i ≤ j → skipAt args i = false

variable {args : List Value} {k j : Nat} {s : Specifier} {rest : List Node}

theorem isFormatted_literal {text : Text} :
    IsFormatted args k (.fragment (.literal text) :: rest) j s ↔ IsFormatted args k rest j s := by
  simp [IsFormatted]

theorem isFormatted_placeholder {t : Specifier} :
    IsFormatted args k (.fragment (.placeholder t) :: rest) j s ↔
      (j = k ∧ s = t) ∨ IsFormatted args (k + 1) rest j s := by
  simp [IsFormatted, or_assoc]

theorem isFormatted_block {children : List Fragment} :
    IsFormatted args k (.block children :: rest) j s ↔
      ((j, .placeholder s) ∈ Fragment.numbered k children ∧
        ∀ i, k ≤ i → i ≤ j → skipAt args i = false) ∨
      IsFormatted args (k + Fragment.placeholderCount children) rest j s := by
  simp only [IsFormatted, numbered_cons, placeholderCount_block, List.mem_cons, Prod.mk.injEq,
    reduceCtorEq, and_false, false_or, Node.block.injEq]
  constructor
  · rintro (h | ⟨start, others, ⟨rfl, rfl⟩ | hmem, hrest⟩)
    · exact .inr (.inl h)
    · exact .inl hrest
    · exact .inr (.inr ⟨start, others, hmem, hrest⟩)
  · rintro (hblock | h | ⟨start, others, hmem, hrest⟩)
    · exact .inr ⟨k, children, .inl ⟨rfl, rfl⟩, hblock⟩
    · exact .inl h
    · exact .inr ⟨start, others, .inr hmem, hrest⟩

theorem IsFormatted.le (h : IsFormatted args k rest j s) : k ≤ j := by
  rcases h with h | ⟨start, children, hblock, hmem, -⟩
  · exact le_of_mem_numbered h
  · have hstart := le_of_mem_numbered hblock
    have hnumber := Fragment.number_lt_of_mem hmem
    omega

end Node
end SqlTemplate
