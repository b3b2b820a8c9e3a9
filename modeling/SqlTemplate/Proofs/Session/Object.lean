import SqlTemplate.Proofs.Template.Canonical
import SqlTemplate.Session.Object

/-! Work on objects, read as work on values. The store only grows: what a parser or a binder writes
into are blocks of its own, so every object that is there before reads the same afterwards. -/
namespace SqlTemplate

/-- A reference to a block that there is. -/
def NodeObject.Known (blocks : BlockStore) : NodeObject → Prop
  | .fragment _ => True
  | .block b => b < blocks.length

def TemplateObject.Known (blocks : BlockStore) (t : TemplateObject) : Prop :=
  ∀ node ∈ t.nodes, node.Known blocks

section
variable {blocks later : BlockStore} {node : NodeObject} {nodes : List NodeObject}

theorem NodeObject.Known.mono (h : node.Known blocks) (hgrown : blocks <+: later) :
    node.Known later := by
  cases node with
  | fragment _ => trivial
  | block b => exact Nat.lt_of_lt_of_le h hgrown.length_le

theorem NodeObject.Known.read_eq (h : node.Known blocks) (hgrown : blocks <+: later) :
    node.read later = node.read blocks := by
  cases node with
  | fragment _ => rfl
  | block b =>
    obtain ⟨added, rfl⟩ := hgrown
    rw [read, read, BlockStore.read, BlockStore.read, List.getD_eq_getElem?_getD,
      List.getElem?_append_left h, List.getD_eq_getElem?_getD]

theorem NodeObject.map_read_eq (h : ∀ node ∈ nodes, node.Known blocks) (hgrown : blocks <+: later) :
    nodes.map (·.read later) = nodes.map (·.read blocks) :=
  List.map_congr_left fun node hnode => (h node hnode).read_eq hgrown

theorem TemplateObject.Known.read_eq {t : TemplateObject} (h : t.Known blocks)
    (hgrown : blocks <+: later) : t.read later = t.read blocks := by
  rw [read, read, NodeObject.map_read_eq h hgrown]

theorem NodeObject.map_read_pushChar (c : Char) :
    (pushChar c nodes).map (·.read blocks) = Node.pushChar c (nodes.map (·.read blocks)) := by
  unfold pushChar
  split
  · rfl
  · next hnew =>
    rcases nodes with _ | ⟨⟨⟨text⟩ | ⟨s⟩⟩ | ⟨b⟩, rest⟩
    · rfl
    · exact (hnew text rest rfl).elim
    · rfl
    · rfl

theorem NodeObject.known_of_mem_pushChar {c : Char} (h : ∀ node ∈ nodes, node.Known blocks)
    (hnode : node ∈ pushChar c nodes) : node.Known blocks := by
  unfold pushChar at hnode
  split at hnode
  · rcases List.mem_cons.mp hnode with rfl | hrest
    · trivial
    · exact h node (List.mem_cons_of_mem _ hrest)
  · rcases List.mem_cons.mp hnode with rfl | hrest
    · trivial
    · exact h node hrest

end

/-- Work on a store that reads as work on values: the blocks before it are as they were, and what
comes out reads as the values. -/
structure ReadsAs {ε : Type} (blocks later : BlockStore) (outcome : Except ε (List NodeObject))
    (expected : Except ε (List Node)) : Prop where
  grown : blocks <+: later
  read : List.map (·.read later) <$> outcome = expected
  known : ∀ nodes, outcome = .ok nodes → ∀ node ∈ nodes, node.Known later

namespace ReadsAs
variable {ε : Type} {earlier blocks later : BlockStore} {outcome : Except ε (List NodeObject)}
  {expected : Except ε (List Node)}

theorem nil : ReadsAs blocks blocks (.ok [] : Except ε _) (.ok []) := by
  refine ⟨List.prefix_rfl, rfl, ?_⟩
  rintro nodes ⟨⟩ node ⟨⟩

theorem error {e : ε} (hgrown : blocks <+: later) :
    ReadsAs blocks later (.error e) (.error e) :=
  ⟨hgrown, rfl, nofun⟩

theorem of_prefix (h : ReadsAs blocks later outcome expected) (hgrown : earlier <+: blocks) :
    ReadsAs earlier later outcome expected :=
  ⟨hgrown.trans h.grown, h.read, h.known⟩

theorem cons {node : NodeObject} {value : Node} (h : ReadsAs blocks later outcome expected)
    (hknown : node.Known later) (hread : node.read later = value) :
    ReadsAs blocks later ((node :: ·) <$> outcome) ((value :: ·) <$> expected) := by
  obtain ⟨hgrown, rfl, hrest⟩ := h
  refine ⟨hgrown, ?_, ?_⟩
  · cases outcome with
    | error e => rfl
    | ok nodes =>
      change Except.ok (node.read later :: nodes.map (·.read later)) = .ok (value :: _)
      rw [hread]
  · intro nodes hnodes
    cases outcome with
    | error e => cases hnodes
    | ok rest =>
      cases hnodes
      exact List.forall_mem_cons.mpr ⟨hknown, hrest rest rfl⟩

theorem fragment (h : ReadsAs blocks later outcome expected) (f : Fragment) :
    ReadsAs blocks later ((.fragment f :: ·) <$> outcome) ((.fragment f :: ·) <$> expected) :=
  h.cons trivial rfl

theorem pushChar (h : ReadsAs blocks later outcome expected) (c : Char) :
    ReadsAs blocks later (NodeObject.pushChar c <$> outcome) (Node.pushChar c <$> expected) := by
  obtain ⟨hgrown, rfl, hknown⟩ := h
  refine ⟨hgrown, ?_, ?_⟩
  · cases outcome with
    | error e => rfl
    | ok nodes => exact congrArg Except.ok (NodeObject.map_read_pushChar c)
  · intro nodes hnodes
    cases outcome with
    | error e => cases hnodes
    | ok rest =>
      cases hnodes
      exact fun node hnode => NodeObject.known_of_mem_pushChar (hknown rest rfl) hnode

/-- A block that is new in the store has the children that it was made with. -/
theorem block {children : List Fragment} (hgrown : blocks ++ [children] <+: later)
    (h : ReadsAs blocks later outcome expected) :
    ReadsAs blocks later ((.block blocks.length :: ·) <$> outcome)
      ((.block children :: ·) <$> expected) := by
  have hnew : NodeObject.Known (blocks ++ [children]) (.block blocks.length) := by
    simp [NodeObject.Known]
  refine h.cons (hnew.mono hgrown) ?_
  rw [hnew.read_eq hgrown]
  simp [NodeObject.read, BlockStore.read]

end ReadsAs

/-- Nodes as objects, with their blocks put into a store. -/
def NodeObject.ofNodes (blocks : BlockStore) : List Node → List NodeObject × BlockStore
  | [] => ([], blocks)
  | .fragment f :: rest => (ofNodes blocks rest).map (.fragment f :: ·) id
  | .block children :: rest =>
    (ofNodes (blocks ++ [children]) rest).map (.block blocks.length :: ·) id

theorem NodeObject.ofNodes_readsAs (blocks : BlockStore) (nodes : List Node) :
    ReadsAs blocks (ofNodes blocks nodes).2 (.ok (ofNodes blocks nodes).1 : Except ParseError _)
      (.ok nodes) := by
  induction nodes generalizing blocks with
  | nil => exact .nil
  | cons node rest ih =>
    cases node with
    | fragment f => exact (ih blocks).fragment f
    | block children =>
      have hrest := ih (blocks ++ [children])
      exact .block hrest.grown (hrest.of_prefix (List.prefix_append _ _))

namespace Parser

/-- The body of a block and what follows it, read in one go. -/
theorem inside_eq_blockBody (start position : Nat) (tokens : List Token) :
    inside start position tokens = blockBody start position tokens >>= fun body =>
      (fun nodes => (body.1, nodes)) <$> outside body.2.1 body.2.2 := by
  induction tokens generalizing position with
  | nil => rfl
  | cons token rest ih =>
    cases token with
    | opening => rfl
    | closing => rfl
    | char _ | placeholder _ =>
      rw [inside, blockBody, ih]
      cases blockBody start _ rest with
      | error e => rfl
      | ok body => simp

theorem countP_of_blockBody {start position : Nat} {tokens : List Token}
    {body : List Fragment × Nat × List Token} (h : blockBody start position tokens = .ok body) :
    tokens.countP Token.isPlaceholder =
      Fragment.placeholderCount body.1 + body.2.2.countP Token.isPlaceholder := by
  induction tokens generalizing position body with
  | nil => cases h
  | cons token rest ih =>
    cases token with
    | opening => cases h
    | closing =>
      cases h
      simp [Token.isPlaceholder]
    | char c =>
      obtain ⟨r, hr, rfl⟩ := Outcome.map_eq_ok_iff.mp h
      have hrest := ih hr
      simpa [Token.isPlaceholder] using hrest
    | placeholder p =>
      obtain ⟨r, hr, rfl⟩ := Outcome.map_eq_ok_iff.mp h
      have hrest := ih hr
      rw [List.countP_cons_of_pos rfl, Fragment.placeholderCount_placeholder, hrest]
      exact Nat.add_right_comm ..

theorem scan_readsAs (position : Nat) (tokens : List Token) (s : Scanner) :
    ReadsAs s.blocks (scan position tokens s).2.blocks (scan position tokens s).1
      (outside position tokens) := by
  fun_induction scan position tokens s with
  | case1 position s => exact .nil
  | case2 position s c rest ih => exact ih.pushChar c
  | case3 position s rest ih => exact ih.pushChar '}'
  | case4 position s p rest ih => exact ih.fragment (.placeholder p)
  | case5 position s rest e h =>
    rw [outside, inside_eq_blockBody, h]
    exact .error List.prefix_rfl
  | case6 position s rest children next after h ih =>
    rw [outside, inside_eq_blockBody, h, Outcome.ok_bind, Functor.map_map]
    exact .block ih.grown (ih.of_prefix (List.prefix_append _ _))

/-- Once a scan succeeds, the parser has passed the placeholders of the whole text. -/
theorem passed_scan {position : Nat} {tokens : List Token} {s : Scanner} {nodes : List NodeObject}
    (h : (scan position tokens s).1 = .ok nodes) :
    (scan position tokens s).2.passed = s.passed + tokens.countP Token.isPlaceholder := by
  fun_induction scan position tokens s generalizing nodes with
  | case1 position s => rfl
  | case2 position s c rest ih =>
    obtain ⟨_, hrest, -⟩ := Outcome.map_eq_ok_iff.mp h
    simpa [Token.isPlaceholder] using ih hrest
  | case3 position s rest ih =>
    obtain ⟨_, hrest, -⟩ := Outcome.map_eq_ok_iff.mp h
    simpa [Token.isPlaceholder] using ih hrest
  | case4 position s p rest ih =>
    obtain ⟨_, hrest, -⟩ := Outcome.map_eq_ok_iff.mp h
    have hpassed := ih hrest
    rw [List.countP_cons_of_pos rfl, Prod.map_snd, id_eq, hpassed]
    dsimp only
    omega
  | case5 position s rest e hbody => cases h
  | case6 position s rest children next after hbody ih =>
    obtain ⟨_, hrest, -⟩ := Outcome.map_eq_ok_iff.mp h
    have hpassed := ih hrest
    rw [List.countP_cons_of_neg (by decide), countP_of_blockBody hbody, Prod.map_snd, id_eq,
      hpassed]
    dsimp only [Scanner.addBlock]
    omega

end Parser

/-- Parsing with a parser that has been in use gives what parsing the text gives: the count starts
from zero each time, whatever an earlier scan left of it. -/
theorem parseObject_readsAs (template : Text) (s : Parser.Scanner) :
    s.blocks <+: (parseObject template s).2.blocks ∧
      TemplateObject.read (parseObject template s).2.blocks <$> (parseObject template s).1 =
        parse template ∧
      ∀ t, (parseObject template s).1 = .ok t → t.Known (parseObject template s).2.blocks := by
  have hscan := Parser.scan_readsAs 0 (Token.ofText template) { s with passed := 0 }
  have hpassed := @Parser.passed_scan 0 (Token.ofText template) { s with passed := 0 }
  simp only [parseObject, Prod.map_fst, Prod.map_snd, id_eq]
  refine ⟨hscan.grown, ?_, ?_⟩
  · rw [parse, ← hscan.read]
    cases houtcome : (Parser.scan 0 (Token.ofText template) { s with passed := 0 }).1 with
    | error e => rfl
    | ok nodes =>
      change Except.ok (ParsedTemplate.mk _ _) = .ok (ParsedTemplate.mk _ _)
      rw [hpassed houtcome, Nat.zero_add]
  · intro t ht
    obtain ⟨nodes, hnodes, rfl⟩ := Outcome.map_eq_ok_iff.mp ht
    exact hscan.known nodes hnodes

-- A scan that is refused leaves what it has counted; the next one does not see it.
example : (parseObject ['?', '{'] ⟨5, []⟩).2.passed = 1 := by cbv

end SqlTemplate
