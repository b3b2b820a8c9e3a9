import SqlTemplate.Proofs.Template.Reading
import SqlTemplate.Proofs.Template.Writing

/-! Parsing and writing back are inverse to each other: texts without a fault in their braces on one
side, canonical trees on the other. -/
namespace SqlTemplate

theorem spells_of_parse {t : Text} {p : ParsedTemplate} (h : parse t = .ok p) :
    Node.Spells p.nodes (Token.ofText t) ∧
      p.placeholderCount = (Token.ofText t).countP Token.isPlaceholder := by
  refine ⟨(Parser.run_of_parse h).spells (Token.scanned_ofText t), ?_⟩
  obtain ⟨nodes, -, rfl⟩ := Outcome.map_eq_ok_iff.mp h
  rfl

theorem placeholderCount_of_parse {t : Text} {p : ParsedTemplate} (h : parse t = .ok p) :
    p.placeholderCount = (Token.ofText t).countP Token.isPlaceholder := (spells_of_parse h).2

/-- What the parser gives is canonical. -/
theorem canonical_of_parse {t : Text} {p : ParsedTemplate} (h : parse t = .ok p) :
    p.Canonical := by
  obtain ⟨hspells, hcount⟩ := spells_of_parse h
  refine ⟨hspells.clean, hspells.adjacent, ?_⟩
  rw [ParsedTemplate.Counted, hcount, ← hspells.tokens_eq, Node.countP_flatMap_tokens]

/-- What the parser gives is written as the text that it was given. -/
theorem source_of_parse {t : Text} {p : ParsedTemplate} (h : parse t = .ok p) : p.source = t := by
  obtain ⟨hspells, -⟩ := spells_of_parse h
  calc p.source = (p.nodes.flatMap Node.tokens).flatMap Token.text :=
        (Node.flatMap_text_flatMap_tokens p.nodes).symm
    _ = (Token.ofText t).flatMap Token.text := by rw [hspells.tokens_eq]
    _ = t := Token.flatMap_text_ofText t

/-- A canonical tree is read back from its written form. -/
theorem parse_source {p : ParsedTemplate} (h : p.Canonical) : parse p.source = .ok p := by
  have htokens : Token.ofText p.source = p.nodes.flatMap Node.tokens :=
    Node.ofText_flatMap_source h.clean h.adjacent
  have hnodes : Parser.outside 0 (p.nodes.flatMap Node.tokens) = .ok p.nodes :=
    Parser.outside_eq_ok_iff.mpr (Parser.run_tokens h.clean h.adjacent)
  have hcount := h.counted
  rw [ParsedTemplate.Counted, ← Node.countP_flatMap_tokens] at hcount
  simp only [parse]
  rw [htokens, hnodes, Except.map_ok, ← hcount]

/-- Parsing is a bijection from the texts that it takes onto the canonical trees, and writing a tree
back is its inverse. -/
theorem parse_eq_ok_iff_canonical (t : Text) (p : ParsedTemplate) :
    parse t = .ok p ↔ p.Canonical ∧ p.source = t := by
  constructor
  · intro h
    exact ⟨canonical_of_parse h, source_of_parse h⟩
  · rintro ⟨hcanonical, rfl⟩
    exact parse_source hcanonical

end SqlTemplate
