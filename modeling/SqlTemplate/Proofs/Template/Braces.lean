import SqlTemplate.Proofs.Template.RoundTrip

/-! The braces of blocks in the text of a template, apart from closing braces that are literal. -/
namespace SqlTemplate

namespace Text

/-- The text without the braces that open and close its blocks, read from outside a block or from
inside one. A closing brace outside any block stays. -/
def unbraced (inBlock : Bool) : Text → Text
  | [] => []
  | c :: rest =>
    match inBlock with
    | false => if c = '{' then unbraced true rest else c :: unbraced false rest
    | true => if c = '}' then unbraced false rest else c :: unbraced true rest

theorem unbraced_false_append {text : Text} (h : '{' ∉ text) (rest : Text) :
    unbraced false (text ++ rest) = text ++ unbraced false rest := by
  induction text with
  | nil => rfl
  | cons c text ih =>
    obtain ⟨hc, htext⟩ := List.ne_and_not_mem_of_not_mem_cons h
    rw [List.cons_append, unbraced, if_neg hc.symm, ih htext]
    rfl

theorem unbraced_true_append {text : Text} (h : '}' ∉ text) (rest : Text) :
    unbraced true (text ++ rest) = text ++ unbraced true rest := by
  induction text with
  | nil => rfl
  | cons c text ih =>
    obtain ⟨hc, htext⟩ := List.ne_and_not_mem_of_not_mem_cons h
    rw [List.cons_append, unbraced, if_neg hc.symm, ih htext]
    rfl

/-- Without an opening brace there is no block. -/
theorem unbraced_false_of_not_mem {text : Text} (h : '{' ∉ text) : unbraced false text = text := by
  have happend := unbraced_false_append h []
  rwa [List.append_nil, unbraced, List.append_nil] at happend

end Text

theorem Node.unbraced_source_append {node : Node} (h : node.Clean) (rest : Text) :
    Text.unbraced false (node.source ++ rest) = node.text ++ Text.unbraced false rest := by
  match node with
  | .fragment (.literal text) => exact Text.unbraced_false_append (h.2 '{' (by simp)) rest
  | .fragment (.placeholder s) => exact Text.unbraced_false_append s.opening_not_mem_token rest
  | .block children =>
    have hbody := Fragment.not_mem_flatMap_text (by simp) Specifier.closing_not_mem_token h.1
    rw [source, List.cons_append, List.cons_append, Text.unbraced, if_pos rfl, List.append_assoc,
      Text.unbraced_true_append hbody, List.cons_append, Text.unbraced, if_pos rfl]
    rfl

theorem Node.unbraced_flatMap_source {nodes : List Node} (h : ∀ node ∈ nodes, node.Clean) :
    Text.unbraced false (nodes.flatMap source) = serialize nodes := by
  induction nodes with
  | nil => rfl
  | cons node rest ih =>
    obtain ⟨hnode, hrest⟩ := List.forall_mem_cons.mp h
    rw [List.flatMap_cons, unbraced_source_append hnode, ih hrest]
    rfl

/-- The parser loses and invents nothing: its nodes are written as the template, and serialized they
are the template without the braces of its blocks. -/
theorem source_and_serialize_of_parse {t : Text} {p : ParsedTemplate} (h : parse t = .ok p) :
    p.source = t ∧ serialize p.nodes = Text.unbraced false t ∧
      ('{' ∉ t → serialize p.nodes = t) := by
  have hsource := source_of_parse h
  have hserialize : serialize p.nodes = Text.unbraced false t := by
    rw [← Node.unbraced_flatMap_source (canonical_of_parse h).clean, ← hsource]
    rfl
  refine ⟨hsource, hserialize, ?_⟩
  intro hopening
  rw [hserialize, Text.unbraced_false_of_not_mem hopening]

/-- A block that ends in a question mark, and a closing brace after it that is literal text. -/
theorem source_and_serialize_of_parse_closing :
    parse ['{', 'a', '?', '}', 'd', '}', '?'] = .ok
      ⟨[.block [.literal ['a'], .placeholder .plain], .fragment (.literal ['d', '}']),
        .fragment (.placeholder .plain)], 2⟩ ∧
    serialize [.block [.literal ['a'], .placeholder .plain], .fragment (.literal ['d', '}']),
        .fragment (.placeholder .plain)] = ['a', '?', 'd', '}', '?'] := by
  have h : parse ['{', 'a', '?', '}', 'd', '}', '?'] = .ok
      ⟨[.block [.literal ['a'], .placeholder .plain], .fragment (.literal ['d', '}']),
        .fragment (.placeholder .plain)], 2⟩ := rfl
  exact ⟨h, (source_and_serialize_of_parse h).2.1⟩

end SqlTemplate
