import SqlTemplate.Proofs.Outcome
import SqlTemplate.Proofs.Template.Scan
import SqlTemplate.Proofs.Template.Slot
import SqlTemplate.Template.Parser

/-! Canonical trees, which are the trees that parsing gives. A tree is written back with its tokens,
its literal text and the braces of its blocks. -/
namespace SqlTemplate

namespace Fragment

/-- Fragments that may be neighbours: two literals would be one, and a plain placeholder would take
a specifier letter that comes next. -/
def Adjacent : Fragment → Fragment → Prop
  | .literal _, .literal _ => False
  | .placeholder .plain, .literal text => ∀ c ∈ text.head?, c ∉ ['d', 'f', 'a', '#']
  | _, _ => True

/-- A literal has some text, and none of the given characters in it. -/
def Clean (control : List Char) : Fragment → Prop
  | .literal text => text ≠ [] ∧ ∀ c ∈ control, c ∉ text
  | .placeholder _ => True

theorem clean_singleton {control : List Char} {c : Char} (hc : c ∉ control) :
    Clean control (.literal [c]) := by
  refine ⟨List.cons_ne_nil _ _, ?_⟩
  rintro d hd hmem
  rw [List.mem_singleton.mp hmem] at hd
  exact hc hd

theorem Clean.ne {control : List Char} {text : Text} (h : Clean control (.literal text))
    {c d : Char} (hc : c ∈ text) (hd : d ∈ control) : c ≠ d := by
  rintro rfl
  exact h.2 c hd hc

theorem Clean.cons {control : List Char} {c : Char} {text : Text} (hc : c ∉ control)
    (h : Clean control (.literal text)) : Clean control (.literal (c :: text)) := by
  refine ⟨List.cons_ne_nil _ _, ?_⟩
  intro d hd hmem
  rcases List.mem_cons.mp hmem with rfl | hmem
  · exact hc hd
  · exact h.2 d hd hmem

/-- A control character that no token has is not in the text of clean fragments. -/
theorem not_mem_flatMap_text {control : List Char} {c : Char} (hc : c ∈ control)
    (htoken : ∀ s : Specifier, c ∉ s.token) {fragments : List Fragment}
    (h : ∀ f ∈ fragments, f.Clean control) : c ∉ fragments.flatMap text := by
  intro hmem
  obtain ⟨f, hf, hin⟩ := List.mem_flatMap.mp hmem
  cases f with
  | literal text => exact (h _ hf).2 c hc hin
  | placeholder s => exact htoken s hin

/-- What stands after a literal does not hang on its text. -/
theorem adjacent_literal_iff {text : Text} {f : Fragment} :
    Adjacent (.literal text) f ↔ ∀ other, f ≠ .literal other := by
  cases f <;> simp [Adjacent]

/-- Either there is a literal that grows, or a new literal fits in front. -/
theorem pushChar_cases (c : Char) (fragments : List Fragment) :
    (∃ text others, fragments = .literal text :: others ∧
      pushChar c fragments = .literal (c :: text) :: others) ∨
    ((∀ f ∈ fragments.head?, ∀ text, f ≠ .literal text) ∧
      pushChar c fragments = .literal [c] :: fragments) := by
  fun_cases pushChar c fragments with
  | case1 text others => exact .inl ⟨text, others, rfl, rfl⟩
  | case2 _ hnot =>
    refine .inr ⟨?_, rfl⟩
    rintro f hf text rfl
    obtain ⟨others, rfl⟩ := List.head?_eq_some_iff.mp hf
    exact hnot text others rfl

@[simp] theorem placeholderCount_pushChar (c : Char) (fragments : List Fragment) :
    placeholderCount (pushChar c fragments) = placeholderCount fragments := by
  rcases pushChar_cases c fragments with ⟨text, others, rfl, heq⟩ | ⟨-, heq⟩ <;> simp [heq]

theorem pushChar_of_not_literal {c : Char} {fragments : List Fragment}
    (h : ∀ f ∈ fragments.head?, ∀ text, f ≠ .literal text) :
    pushChar c fragments = .literal [c] :: fragments := by
  rcases pushChar_cases c fragments with ⟨text, others, rfl, -⟩ | ⟨-, heq⟩
  · exact (h _ rfl text rfl).elim
  · exact heq

/-- The tokens of a fragment in a block. -/
def tokens : Fragment → List Token
  | .literal text => text.map .char
  | .placeholder s => [.placeholder s]

end Fragment

namespace Node

/-- A block may stand beside anything. -/
def Adjacent : Node → Node → Prop
  | .fragment f, .fragment g => f.Adjacent g
  | _, _ => True

theorem adjacent_literal_iff {text : Text} {node : Node} :
    Adjacent (.fragment (.literal text)) node ↔ ∀ other, node ≠ .fragment (.literal other) := by
  cases node <;> simp [Adjacent, Fragment.adjacent_literal_iff]

theorem pushChar_cases (c : Char) (nodes : List Node) :
    (∃ text others, nodes = .fragment (.literal text) :: others ∧
      pushChar c nodes = .fragment (.literal (c :: text)) :: others) ∨
    ((∀ node ∈ nodes.head?, ∀ text, node ≠ .fragment (.literal text)) ∧
      pushChar c nodes = .fragment (.literal [c]) :: nodes) := by
  fun_cases pushChar c nodes with
  | case1 text others => exact .inl ⟨text, others, rfl, rfl⟩
  | case2 _ hnot =>
    refine .inr ⟨?_, rfl⟩
    rintro node hnode text rfl
    obtain ⟨others, rfl⟩ := List.head?_eq_some_iff.mp hnode
    exact hnot text others rfl

theorem pushChar_of_not_literal {c : Char} {nodes : List Node}
    (h : ∀ node ∈ nodes.head?, ∀ text, node ≠ .fragment (.literal text)) :
    pushChar c nodes = .fragment (.literal [c]) :: nodes := by
  rcases pushChar_cases c nodes with ⟨text, others, rfl, -⟩ | ⟨-, heq⟩
  · exact (h _ rfl text rfl).elim
  · exact heq

/-- Outside a block a closing brace is literal text; inside one it is not. -/
def Clean : Node → Prop
  | .fragment f => f.Clean ['?', '{']
  | .block children =>
    (∀ f ∈ children, f.Clean ['?', '{', '}']) ∧ children.IsChain Fragment.Adjacent

/-- The tokens of a node outside any block. -/
def tokens : Node → List Token
  | .fragment (.literal text) => text.map Token.ofPlainChar
  | .fragment (.placeholder s) => [.placeholder s]
  | .block children => .opening :: children.flatMap Fragment.tokens ++ [.closing]

end Node

namespace ParsedTemplate

/-- The nodes written back in order, blocks in braces. -/
def source (p : ParsedTemplate) : Text := p.nodes.flatMap Node.source

/-- Literals are maximal and hold no control character, no placeholder stands where it would read
on, and the count is right. -/
structure Canonical (p : ParsedTemplate) : Prop where
  clean : ∀ node ∈ p.nodes, node.Clean
  adjacent : p.nodes.IsChain Node.Adjacent
  counted : p.Counted

end ParsedTemplate

/-! The tokens of a tree spell its written form, and there are as many placeholders among them. -/

namespace Fragment

theorem flatMap_text_tokens (f : Fragment) : f.tokens.flatMap Token.text = f.text := by
  cases f with
  | literal text => simp [tokens, Token.text, Fragment.text, List.flatMap_map]
  | placeholder s => simp [tokens, Token.text, Fragment.text]

theorem flatMap_text_flatMap_tokens (fragments : List Fragment) :
    (fragments.flatMap tokens).flatMap Token.text = fragments.flatMap Fragment.text := by
  rw [List.flatMap_assoc]
  exact List.flatMap_congr fun f _ => flatMap_text_tokens f

theorem countP_flatMap_tokens (fragments : List Fragment) :
    (fragments.flatMap tokens).countP Token.isPlaceholder = placeholderCount fragments := by
  induction fragments with
  | nil => rfl
  | cons f rest ih =>
    rw [List.flatMap_cons, List.countP_append, ih]
    cases f with
    | literal text =>
      have hnone : (text.map Token.char).countP Token.isPlaceholder = 0 := by
        simp [List.countP_eq_zero, Token.isPlaceholder]
      simp [tokens, hnone]
    | placeholder s => simp [tokens, Token.isPlaceholder, Nat.add_comm]

end Fragment

namespace Node

theorem flatMap_text_tokens (node : Node) : node.tokens.flatMap Token.text = node.source := by
  cases node with
  | fragment f =>
    cases f with
    | literal text => simp [tokens, source, Fragment.text, List.flatMap_map]
    | placeholder s => simp [tokens, source, Token.text, Fragment.text]
  | block children =>
    simp only [tokens, source, List.flatMap_append, List.flatMap_cons, List.cons_append,
      Fragment.flatMap_text_flatMap_tokens]
    rfl

theorem flatMap_text_flatMap_tokens (nodes : List Node) :
    (nodes.flatMap tokens).flatMap Token.text = nodes.flatMap source := by
  rw [List.flatMap_assoc]
  exact List.flatMap_congr fun node _ => flatMap_text_tokens node

theorem countP_tokens (node : Node) :
    node.tokens.countP Token.isPlaceholder = node.placeholderCount := by
  cases node with
  | fragment f =>
    cases f with
    | literal text =>
      rw [placeholderCount_literal, List.countP_eq_zero]
      intro token h
      obtain ⟨c, -, rfl⟩ := List.mem_map.mp h
      rw [Token.ofPlainChar]
      split <;> simp [Token.isPlaceholder]
    | placeholder s => simp [tokens, Token.isPlaceholder]
  | block children =>
    simp [tokens, Token.isPlaceholder, Fragment.countP_flatMap_tokens]

theorem countP_flatMap_tokens (nodes : List Node) :
    (nodes.flatMap tokens).countP Token.isPlaceholder = slotCount nodes := by
  induction nodes with
  | nil => rfl
  | cons node rest ih =>
    rw [List.flatMap_cons, List.countP_append, ih, countP_tokens, slotCount_cons]

end Node
end SqlTemplate
