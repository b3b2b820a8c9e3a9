import Mathlib.Algebra.GroupWithZero.Nat
import SqlTemplate.Proofs.Template.RoundTrip

/-! What a parsed template counts can be seen in its text: a question mark for each placeholder and
an opening brace for each block. -/
namespace SqlTemplate

namespace Node

/-- A placeholder that stands outside any block. -/
def isPlaceholder : Node → Bool
  | .fragment f => f.isPlaceholder
  | .block _ => false

/-- The placeholders are those outside any block and those that the blocks count for themselves. -/
theorem slotCount_eq_add (nodes : List Node) : slotCount nodes =
    nodes.countP isPlaceholder + ((nodes.filter isBlock).map placeholderCount).sum := by
  induction nodes with
  | nil => rfl
  | cons node rest ih =>
    rw [slotCount_cons, ih, List.countP_cons, List.filter_cons]
    match node with
    | .fragment (.literal text) => simp [isPlaceholder, Fragment.isPlaceholder, isBlock]
    | .fragment (.placeholder s) =>
      simp only [placeholderCount_placeholder, isPlaceholder, Fragment.isPlaceholder, isBlock,
        ↓reduceIte, Bool.false_eq_true]
      omega
    | .block children =>
      simp only [placeholderCount_block, isPlaceholder, isBlock, Bool.false_eq_true, ↓reduceIte,
        List.map_cons, List.sum_cons]
      omega

/-- The one opening brace in the written form of a node is that of a block. -/
theorem count_opening_source {node : Node} (h : node.Clean) :
    node.source.count '{' = [node].countP isBlock := by
  match node with
  | .fragment (.literal text) => exact List.count_eq_zero.mpr (h.2 '{' (by simp))
  | .fragment (.placeholder s) => exact List.count_eq_zero.mpr s.opening_not_mem_token
  | .block children =>
    have hbody : '{' ∉ children.flatMap Fragment.text :=
      Fragment.not_mem_flatMap_text (by simp) Specifier.opening_not_mem_token h.1
    simp [source, isBlock, List.count_eq_zero.mpr hbody]

theorem count_opening_flatMap_source {nodes : List Node} (h : ∀ node ∈ nodes, node.Clean) :
    (nodes.flatMap source).count '{' = nodes.countP isBlock := by
  induction nodes with
  | nil => rfl
  | cons node rest ih =>
    obtain ⟨hnode, hrest⟩ := List.forall_mem_cons.mp h
    rw [List.flatMap_cons, List.count_append, count_opening_source hnode, ih hrest,
      ← List.countP_append, List.singleton_append]

end Node

/-- A question mark of a template begins a placeholder, wherever it stands. -/
theorem placeholderCount_eq_count {t : Text} {p : ParsedTemplate} (h : parse t = .ok p) :
    p.placeholderCount = t.count '?' := by
  rw [placeholderCount_of_parse h, Token.countP_isPlaceholder_ofText]

/-- The count of placeholders is the number of question marks in the template, and it is made up of
the placeholders outside any block and of the counts of the blocks. The count of blocks is the
number of opening braces. -/
theorem counts_of_parse {t : Text} {p : ParsedTemplate} (h : parse t = .ok p) :
    p.placeholderCount = t.count '?' ∧
    p.placeholderCount = p.nodes.countP Node.isPlaceholder +
      ((p.nodes.filter Node.isBlock).map Node.placeholderCount).sum ∧
    p.blockCount = t.count '{' := by
  have hcanonical := canonical_of_parse h
  have hcounted := hcanonical.counted
  rw [ParsedTemplate.Counted, Node.slotCount_eq_add, Int.natCast_add] at hcounted
  refine ⟨placeholderCount_eq_count h, hcounted, ?_⟩
  calc p.blockCount = p.source.count '{' :=
        (Node.count_opening_flatMap_source hcanonical.clean).symm
    _ = t.count '{' := by rw [source_of_parse h]

/-- Two question marks in a row, one before a closing brace, one at the end, and a closing brace that
is literal text. -/
theorem counts_of_parse_adjacent :
    parse ['{', '?', '?', 'd', '}', '}', '{', 'd', '?', '}', '{', '}', '?'] = .ok
      ⟨[.block [.placeholder .plain, .placeholder .int], .fragment (.literal ['}']),
        .block [.literal ['d'], .placeholder .plain], .block [],
        .fragment (.placeholder .plain)], 4⟩ ∧
    List.count '?' ['{', '?', '?', 'd', '}', '}', '{', 'd', '?', '}', '{', '}', '?'] = 4 ∧
    List.count '{' ['{', '?', '?', 'd', '}', '}', '{', 'd', '?', '}', '{', '}', '?'] = 3 := by
  have h : parse ['{', '?', '?', 'd', '}', '}', '{', 'd', '?', '}', '{', '}', '?'] = .ok
      ⟨[.block [.placeholder .plain, .placeholder .int], .fragment (.literal ['}']),
        .block [.literal ['d'], .placeholder .plain], .block [],
        .fragment (.placeholder .plain)], 4⟩ := rfl
  obtain ⟨hplaceholders, -, hblocks⟩ := counts_of_parse h
  exact ⟨h, Int.ofNat_inj.mp hplaceholders.symm, hblocks.symm⟩

end SqlTemplate
