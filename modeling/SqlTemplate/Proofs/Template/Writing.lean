import SqlTemplate.Proofs.Template.Canonical
import SqlTemplate.Proofs.Template.Run

/-! Canonical trees are read back from their written form. First the scan of the written form gives
the tokens of the tree, then the parser gives the tree for its tokens. -/
namespace SqlTemplate

/-- No specifier letter stands at the front of the text. -/
def Text.OpensPlain (text : Text) : Prop := ∀ c ∈ text.head?, Specifier.ofLetter? c = none

namespace Text

theorem opensPlain_nil : OpensPlain [] := by simp [OpensPlain]

theorem opensPlain_cons {c : Char} {rest : Text} :
    OpensPlain (c :: rest) ↔ Specifier.ofLetter? c = none := by simp [OpensPlain]

theorem opensPlain_token (s : Specifier) (rest : Text) : OpensPlain (s.token ++ rest) := by
  rw [Specifier.token, List.cons_append, opensPlain_cons]
  rfl

end Text

namespace Fragment

theorem opensPlain_of_adjacent {f : Fragment} (h : Adjacent (.placeholder .plain) f)
    (hclean : f.Clean ['?', '{', '}']) (rest : Text) : Text.OpensPlain (f.text ++ rest) := by
  cases f with
  | placeholder s => exact Text.opensPlain_token s rest
  | literal text =>
    cases text with
    | nil => exact (hclean.1 rfl).elim
    | cons c others =>
      rw [Fragment.text, List.cons_append, Text.opensPlain_cons]
      exact Specifier.ofLetter?_eq_none_iff.mpr (h c rfl)

theorem ofText_literal_append {text : Text} (h : Clean ['?', '{', '}'] (.literal text))
    (rest : Text) : Token.ofText (text ++ rest) = text.map .char ++ Token.ofText rest := by
  have hplain : ∀ c ∈ text, c ≠ '?' ∧ c ≠ '{' := fun c hc =>
    ⟨h.ne hc (by simp), h.ne hc (by simp)⟩
  have hchars : text.map Token.ofPlainChar = text.map .char :=
    List.map_congr_left fun c hc => Token.ofPlainChar_of_ne (h.ne hc (by simp))
  rw [Token.ofText_append_of_plain hplain, hchars]

/-- The scan of the fragments of a block gives their tokens, up to a text that does not go on with
a specifier letter. -/
theorem ofText_flatMap_text {fragments : List Fragment}
    (hclean : ∀ f ∈ fragments, f.Clean ['?', '{', '}']) (hadjacent : fragments.IsChain Adjacent)
    {rest : Text} (hrest : rest.OpensPlain) :
    Token.ofText (fragments.flatMap text ++ rest) =
      fragments.flatMap tokens ++ Token.ofText rest := by
  induction fragments with
  | nil => rfl
  | cons f others ih =>
    obtain ⟨hf, hothers⟩ := List.forall_mem_cons.mp hclean
    obtain ⟨hnext, hchain⟩ := List.isChain_cons.mp hadjacent
    rw [List.flatMap_cons, List.append_assoc, List.flatMap_cons, List.append_assoc,
      ← ih hothers hchain]
    cases f with
    | literal text => exact ofText_literal_append hf _
    | placeholder s =>
      refine Token.ofText_token_append s _ ?_
      rintro rfl
      cases others with
      | nil => exact hrest
      | cons g others =>
        rw [List.flatMap_cons, List.append_assoc]
        exact opensPlain_of_adjacent (hnext g rfl) (hothers g List.mem_cons_self) _

end Fragment

namespace Node

theorem opensPlain_of_adjacent {node : Node} (h : Adjacent (.fragment (.placeholder .plain)) node)
    (hclean : node.Clean) (rest : Text) : Text.OpensPlain (node.source ++ rest) := by
  match node with
  | .block children =>
    rw [source, List.cons_append, List.cons_append, Text.opensPlain_cons]
    rfl
  | .fragment (.placeholder s) => exact Text.opensPlain_token s rest
  | .fragment (.literal []) => exact (hclean.1 rfl).elim
  | .fragment (.literal (c :: others)) =>
    rw [source, Fragment.text, List.cons_append, Text.opensPlain_cons]
    exact Specifier.ofLetter?_eq_none_iff.mpr (h c rfl)

theorem ofText_literal_append {text : Text} (h : Clean (.fragment (.literal text)))
    (rest : Text) :
    Token.ofText (text ++ rest) = tokens (.fragment (.literal text)) ++ Token.ofText rest :=
  Token.ofText_append_of_plain (fun _ hc =>
    ⟨Fragment.Clean.ne h hc (by simp), Fragment.Clean.ne h hc (by simp)⟩) rest

/-- The scan of the written form of canonical nodes gives their tokens. -/
theorem ofText_flatMap_source {nodes : List Node} (hclean : ∀ node ∈ nodes, node.Clean)
    (hadjacent : nodes.IsChain Adjacent) :
    Token.ofText (nodes.flatMap source) = nodes.flatMap tokens := by
  induction nodes with
  | nil => rfl
  | cons node others ih =>
    obtain ⟨hnode, hothers⟩ := List.forall_mem_cons.mp hclean
    obtain ⟨hnext, hchain⟩ := List.isChain_cons.mp hadjacent
    rw [List.flatMap_cons, List.flatMap_cons, ← ih hothers hchain]
    match node with
    | .fragment (.literal text) => exact ofText_literal_append hnode _
    | .fragment (.placeholder s) =>
      refine Token.ofText_token_append s _ ?_
      rintro rfl
      cases others with
      | nil => exact Text.opensPlain_nil
      | cons next others =>
        rw [List.flatMap_cons]
        exact opensPlain_of_adjacent (hnext next rfl) (hothers next List.mem_cons_self) _
    | .block children =>
      have hclosing : Text.OpensPlain ('}' :: others.flatMap source) :=
        Text.opensPlain_cons.mpr rfl
      have hbody := Fragment.ofText_flatMap_text hnode.1 hnode.2 hclosing
      simp only [source, tokens, List.cons_append, List.append_assoc, List.nil_append,
        Token.ofText, hbody]

end Node

/-! The parser takes the tokens of a literal one by one and gives the literal back. -/

namespace Parser
variable {ts : List Token} {nodes : List Node}

theorem run_literal_inside {text : Text} (hne : text ≠ []) {children : List Fragment}
    (hnext : ∀ f ∈ children.head?, Fragment.Adjacent (.literal text) f)
    (h : Run (some children) ts nodes) :
    Run (some (.literal text :: children)) (text.map .char ++ ts) nodes := by
  simp only [Fragment.adjacent_literal_iff] at hnext
  induction text with
  | nil => exact (hne rfl).elim
  | cons c text ih =>
    cases text with
    | nil =>
      rw [← Fragment.pushChar_of_not_literal hnext]
      exact h.innerChar
    | cons d text => exact (ih (List.cons_ne_nil _ _)).innerChar

theorem Run.plainChar {c : Char} (h : Run none ts nodes) :
    Run none (.ofPlainChar c :: ts) (Node.pushChar c nodes) := by
  by_cases hc : c = '}'
  · subst hc
    exact h.brace
  · rw [Token.ofPlainChar_of_ne hc]
    exact h.char

theorem run_literal {text : Text} (hne : text ≠ [])
    (hnext : ∀ node ∈ nodes.head?, Node.Adjacent (.fragment (.literal text)) node)
    (h : Run none ts nodes) :
    Run none (text.map .ofPlainChar ++ ts) (.fragment (.literal text) :: nodes) := by
  simp only [Node.adjacent_literal_iff] at hnext
  induction text with
  | nil => exact (hne rfl).elim
  | cons c text ih =>
    cases text with
    | nil =>
      rw [← Node.pushChar_of_not_literal hnext]
      exact h.plainChar
    | cons d text => exact (ih (List.cons_ne_nil _ _)).plainChar

theorem run_tokens_inside {children : List Fragment}
    (hclean : ∀ f ∈ children, f.Clean ['?', '{', '}'])
    (hadjacent : children.IsChain Fragment.Adjacent) (h : Run none ts nodes) :
    Run (some children) (children.flatMap Fragment.tokens ++ .closing :: ts) nodes := by
  induction children with
  | nil => exact h.closing
  | cons f others ih =>
    obtain ⟨hf, hothers⟩ := List.forall_mem_cons.mp hclean
    obtain ⟨hnext, hchain⟩ := List.isChain_cons.mp hadjacent
    rw [List.flatMap_cons, List.append_assoc]
    cases f with
    | literal text => exact run_literal_inside hf.1 hnext (ih hothers hchain)
    | placeholder s => exact (ih hothers hchain).innerPlaceholder

/-- The parser gives canonical nodes for their own tokens. -/
theorem run_tokens (hclean : ∀ node ∈ nodes, node.Clean)
    (hadjacent : nodes.IsChain Node.Adjacent) : Run none (nodes.flatMap Node.tokens) nodes := by
  induction nodes with
  | nil => exact .done
  | cons node others ih =>
    obtain ⟨hnode, hothers⟩ := List.forall_mem_cons.mp hclean
    obtain ⟨hnext, hchain⟩ := List.isChain_cons.mp hadjacent
    have hrest := ih hothers hchain
    rw [List.flatMap_cons]
    match node with
    | .fragment (.literal text) => exact run_literal hnode.1 hnext hrest
    | .fragment (.placeholder s) => exact hrest.placeholder
    | .block children =>
      have hinside := run_tokens_inside hnode.1 hnode.2 hrest
      rw [Node.tokens, List.cons_append, List.cons_append, List.append_assoc, List.cons_append,
        List.nil_append]
      exact hinside.opening

end Parser
end SqlTemplate
