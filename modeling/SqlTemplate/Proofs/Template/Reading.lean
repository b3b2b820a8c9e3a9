import SqlTemplate.Proofs.Template.Canonical
import SqlTemplate.Proofs.Template.Run

/-! The parser against the written form: it gives a tree for a list of tokens exactly when the tree
is canonical and its tokens are that list. -/
namespace SqlTemplate

namespace Fragment

/-- Fragments of a block that are canonical and have the given tokens. -/
structure Spells (children : List Fragment) (ts : List Token) : Prop where
  clean : ∀ f ∈ children, f.Clean ['?', '{', '}']
  adjacent : children.IsChain Adjacent
  tokens_eq : children.flatMap tokens = ts

namespace Spells
variable {children : List Fragment} {ts rest : List Token}

theorem nil : Spells [] [] := ⟨by simp, .nil, rfl⟩

theorem pushChar {c : Char} (hc : c ≠ '?' ∧ c ≠ '{' ∧ c ≠ '}') (h : Spells children ts) :
    Spells (Fragment.pushChar c children) (.char c :: ts) := by
  obtain ⟨hclean, hadjacent, rfl⟩ := h
  rcases pushChar_cases c children with ⟨text, others, rfl, heq⟩ | ⟨hnext, heq⟩
  · obtain ⟨hfirst, hothers⟩ := List.forall_mem_cons.mp hclean
    rw [heq]
    refine ⟨List.forall_mem_cons.mpr ⟨hfirst.cons (by simp [hc]), hothers⟩, ?_, rfl⟩
    simp only [List.isChain_cons, adjacent_literal_iff] at hadjacent ⊢
    exact hadjacent
  · rw [heq]
    refine ⟨List.forall_mem_cons.mpr ⟨clean_singleton (by simp [hc]), hclean⟩, ?_, rfl⟩
    simp only [List.isChain_cons, adjacent_literal_iff]
    exact ⟨hnext, hadjacent⟩

theorem placeholder {s : Specifier} (hs : Token.Scanned (.placeholder s :: (ts ++ rest)))
    (h : Spells children ts) : Spells (.placeholder s :: children) (.placeholder s :: ts) := by
  obtain ⟨hclean, hadjacent, rfl⟩ := h
  refine ⟨by simpa [Clean] using hclean, List.isChain_cons.mpr ⟨?_, hadjacent⟩, rfl⟩
  intro f hf
  obtain ⟨others, rfl⟩ := List.head?_eq_some_iff.mp hf
  cases f with
  | placeholder t => cases s <;> trivial
  | literal text =>
    cases s with
    | plain =>
      intro c hc
      obtain ⟨tail, rfl⟩ := List.head?_eq_some_iff.mp hc
      exact Specifier.ofLetter?_eq_none_iff.mp hs.ofLetter?_after_plain
    | int | double | array | identifier => trivial

end Spells
end Fragment

namespace Node

/-- Nodes that are canonical and have the given tokens. -/
structure Spells (nodes : List Node) (ts : List Token) : Prop where
  clean : ∀ node ∈ nodes, node.Clean
  adjacent : nodes.IsChain Adjacent
  tokens_eq : nodes.flatMap tokens = ts

namespace Spells
variable {nodes : List Node} {ts : List Token}

theorem nil : Spells [] [] := ⟨by simp, .nil, rfl⟩

/-- Outside a block a closing brace goes into a literal like any character. -/
theorem pushChar {c : Char} (hc : c ≠ '?' ∧ c ≠ '{') (h : Spells nodes ts) :
    Spells (Node.pushChar c nodes) (.ofPlainChar c :: ts) := by
  obtain ⟨hclean, hadjacent, rfl⟩ := h
  rcases pushChar_cases c nodes with ⟨text, others, rfl, heq⟩ | ⟨hnext, heq⟩
  · obtain ⟨hfirst, hothers⟩ := List.forall_mem_cons.mp hclean
    have hgrown : (Node.fragment (.literal (c :: text))).Clean :=
      Fragment.Clean.cons (by simp [hc]) hfirst
    rw [heq]
    refine ⟨List.forall_mem_cons.mpr ⟨hgrown, hothers⟩, ?_, rfl⟩
    simp only [List.isChain_cons, adjacent_literal_iff] at hadjacent ⊢
    exact hadjacent
  · have hnew : (Node.fragment (.literal [c])).Clean :=
      Fragment.clean_singleton (by simp [hc])
    rw [heq]
    refine ⟨List.forall_mem_cons.mpr ⟨hnew, hclean⟩, ?_, rfl⟩
    simp only [List.isChain_cons, adjacent_literal_iff]
    exact ⟨hnext, hadjacent⟩

theorem placeholder {s : Specifier} (hs : Token.Scanned (.placeholder s :: ts))
    (h : Spells nodes ts) :
    Spells (.fragment (.placeholder s) :: nodes) (.placeholder s :: ts) := by
  obtain ⟨hclean, hadjacent, rfl⟩ := h
  refine ⟨by simpa [Clean, Fragment.Clean] using hclean,
    List.isChain_cons.mpr ⟨?_, hadjacent⟩, rfl⟩
  intro node hnode
  obtain ⟨others, rfl⟩ := List.head?_eq_some_iff.mp hnode
  match node with
  | .block children => trivial
  | .fragment (.placeholder t) => cases s <;> trivial
  | .fragment (.literal text) =>
    cases s with
    | plain =>
      intro c hc
      obtain ⟨tail, rfl⟩ := List.head?_eq_some_iff.mp hc
      by_cases hclosing : c = '}'
      · subst hclosing
        decide
      · rw [List.flatMap_cons, tokens, List.map_cons, Token.ofPlainChar_of_ne hclosing] at hs
        exact Specifier.ofLetter?_eq_none_iff.mp hs.ofLetter?_after_plain
    | int | double | array | identifier => trivial

theorem block {children : List Fragment} {body : List Token} (hbody : Fragment.Spells children body)
    (h : Spells nodes ts) :
    Spells (.block children :: nodes) (.opening :: (body ++ .closing :: ts)) := by
  obtain ⟨hclean, hadjacent, rfl⟩ := h
  obtain ⟨hchildren, hchain, rfl⟩ := hbody
  refine ⟨?_, List.isChain_cons.mpr ⟨fun node _ => by cases node <;> trivial, hadjacent⟩, ?_⟩
  · exact List.forall_mem_cons.mpr ⟨⟨hchildren, hchain⟩, hclean⟩
  · simp [tokens]

end Spells
end Node

/-- What a run gives, outside a block and inside one: canonical trees whose tokens it has read.
Inside, the tokens up to the closing brace belong to the block. -/
theorem Parser.Run.spells {body : Option (List Fragment)} {ts : List Token} {nodes : List Node} :
    Run body ts nodes → Token.Scanned ts →
      match body with
      | none => Node.Spells nodes ts
      | some children => ∃ inner rest, ts = inner ++ .closing :: rest ∧
          Fragment.Spells children inner ∧ Node.Spells nodes rest := by
  intro h hs
  induction h with
  | done => exact .nil
  | @char c _ _ _ ih =>
    have hc := hs.head_char
    have hgrown := (ih hs.tail).pushChar ⟨hc.1, hc.2.1⟩
    rwa [Token.ofPlainChar_of_ne hc.2.2] at hgrown
  | brace _ ih => exact (ih hs.tail).pushChar (c := '}') (by decide)
  | placeholder _ ih => exact (ih hs.tail).placeholder hs
  | opening _ ih =>
    obtain ⟨inner, rest, rfl, hinner, hrest⟩ := ih hs.tail
    exact .block hinner hrest
  | innerChar _ ih =>
    obtain ⟨inner, rest, rfl, hinner, hrest⟩ := ih hs.tail
    exact ⟨_, rest, rfl, hinner.pushChar hs.head_char, hrest⟩
  | innerPlaceholder _ ih =>
    obtain ⟨inner, rest, rfl, hinner, hrest⟩ := ih hs.tail
    exact ⟨_, rest, rfl, hinner.placeholder hs, hrest⟩
  | closing _ ih => exact ⟨[], _, rfl, .nil, ih hs.tail⟩

end SqlTemplate
