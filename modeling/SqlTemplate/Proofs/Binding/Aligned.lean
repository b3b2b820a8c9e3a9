import SqlTemplate.Proofs.Binding.Block

/-! Binding that passes over the arguments of dropped blocks is binding position by position. -/
namespace SqlTemplate

/-- The outcomes of nodes from number `k` on: each node is bound to its own arguments and dropped
blocks are left out, or the leftmost argument that cannot be written is the error. -/
inductive AlignedBinding (args : List Value) (k : Nat) (nodes : List Node) :
    Except BindError (List Node × List Value) → Prop
  | done (bound : List Node)
      (written : ∀ j s, Node.IsFormatted args k nodes j s →
        ∃ text, textAt args j s = some (.ok text))
      (boundTo : List.Forall₂ (Node.BoundTo args)
        ((Node.numbered k nodes).filter fun node => !Node.isDropped args node) bound) :
      AlignedBinding args k nodes (.ok (bound, args.drop (k + Node.slotCount nodes)))
  | refused (j : Nat) (s : Specifier) (cause : FormatError)
      (formatted : Node.IsFormatted args k nodes j s)
      (fails : textAt args j s = some (.error cause))
      (written : ∀ i t, Node.IsFormatted args k nodes i t → i < j →
        ∃ text, textAt args i t = some (.ok text)) :
      AlignedBinding args k nodes (.error (.format cause))

namespace AlignedBinding
variable {args : List Value} {k : Nat} {rest : List Node}
  {outcome : Except BindError (List Node × List Value)}

theorem literal {text : Text} (h : AlignedBinding args k rest outcome) :
    AlignedBinding args k (.fragment (.literal text) :: rest)
      ((fun r => (.fragment (.literal text) :: r.1, r.2)) <$> outcome) := by
  cases h with
  | done bound written boundTo =>
    rw [← Nat.zero_add (Node.slotCount rest), ← Node.placeholderCount_literal text,
      ← Node.slotCount_cons]
    refine .done _ ?_ ?_
    · simpa only [Node.isFormatted_literal] using written
    · exact .cons ⟨_, rfl, rfl⟩ boundTo
  | refused j s cause formatted fails written =>
    refine .refused j s cause (Node.isFormatted_literal.mpr formatted) fails ?_
    simpa only [Node.isFormatted_literal] using written

theorem placeholder {s : Specifier} {text : Text} (htext : textAt args k s = some (.ok text))
    (h : AlignedBinding args (k + 1) rest outcome) :
    AlignedBinding args k (.fragment (.placeholder s) :: rest)
      ((fun r => (.fragment (.literal text) :: r.1, r.2)) <$> outcome) := by
  cases h with
  | done bound written boundTo =>
    rw [Nat.add_assoc, ← Node.placeholderCount_placeholder s, ← Node.slotCount_cons]
    refine .done _ ?_ ?_
    · intro j t hformatted
      rcases Node.isFormatted_placeholder.mp hformatted with ⟨rfl, rfl⟩ | hlater
      · exact ⟨text, htext⟩
      · exact written j t hlater
    · exact .cons ⟨_, ⟨text, htext, rfl⟩, rfl⟩ boundTo
  | refused j t cause formatted fails written =>
    refine .refused j t cause (Node.isFormatted_placeholder.mpr (.inr formatted)) fails ?_
    intro i u hformatted hij
    rcases Node.isFormatted_placeholder.mp hformatted with ⟨rfl, rfl⟩ | hlater
    · exact ⟨text, htext⟩
    · exact written i u hlater hij

/-- A placeholder that fails outside any block fails before all that follow. -/
theorem placeholder_refused {s : Specifier} {cause : FormatError}
    (hfails : textAt args k s = some (.error cause)) :
    AlignedBinding args k (.fragment (.placeholder s) :: rest) (.error (.format cause)) := by
  refine .refused k s cause (Node.isFormatted_placeholder.mpr (.inl ⟨rfl, rfl⟩)) hfails ?_
  intro i t hformatted hik
  have hle := hformatted.le
  omega

/-- A block adds itself in front if it is kept, and nothing if it is dropped. -/
theorem block {children : List Fragment}
    (hblock : ∀ j s, (j, .placeholder s) ∈ Fragment.numbered k children →
      (∀ i, k ≤ i → i ≤ j → skipAt args i = false) → ∃ text, textAt args j s = some (.ok text))
    {front : List Node}
    (hfront : ∀ bound, List.Forall₂ (Node.BoundTo args) ((Node.numbered
        (k + Fragment.placeholderCount children) rest).filter fun node => !Node.isDropped args node)
        bound →
      List.Forall₂ (Node.BoundTo args) ((Node.numbered k (.block children :: rest)).filter
        fun node => !Node.isDropped args node) (front ++ bound))
    (h : AlignedBinding args (k + Fragment.placeholderCount children) rest outcome) :
    AlignedBinding args k (.block children :: rest)
      ((fun r => (front ++ r.1, r.2)) <$> outcome) := by
  cases h with
  | done bound written boundTo =>
    rw [Nat.add_assoc, ← Node.placeholderCount_block, ← Node.slotCount_cons]
    refine .done _ ?_ (hfront bound boundTo)
    intro j s hformatted
    rcases Node.isFormatted_block.mp hformatted with ⟨hmem, hskip⟩ | hlater
    · exact hblock j s hmem hskip
    · exact written j s hlater
  | refused j s cause formatted fails written =>
    refine .refused j s cause (Node.isFormatted_block.mpr (.inr formatted)) fails ?_
    intro i t hformatted hij
    rcases Node.isFormatted_block.mp hformatted with ⟨hmem, hskip⟩ | hlater
    · exact hblock i t hmem hskip
    · exact written i t hlater hij

/-- A block that fails does so before all that follow. -/
theorem block_refused {mode : SkipMode} {children : List Fragment} {e : BindError}
    (h : BlockBinding mode args k children (.error e)) :
    AlignedBinding args k (.block children :: rest) (.error e) := by
  cases h with
  | refused j s cause mem unskipped fails written =>
    refine .refused j s cause (Node.isFormatted_block.mpr (.inl ⟨mem, unskipped⟩)) fails ?_
    intro i t hformatted hij
    rcases Node.isFormatted_block.mp hformatted with ⟨hmem, -⟩ | hlater
    · exact written i t hmem hij
    · have hle := hlater.le
      have hj := (Fragment.number_lt_of_mem mem).2
      omega

theorem block_bound {mode : SkipMode} {children : List Fragment} {left : List Value}
    {kept : Option (List Fragment)}
    (h : AlignedBinding args (k + Fragment.placeholderCount children) rest outcome)
    (hblock : BlockBinding mode args k children (.ok (kept, left))) :
    AlignedBinding args k (.block children :: rest)
      ((fun r => (keptNode kept ++ r.1, r.2)) <$> outcome) := by
  cases hblock with
  | kept bound unskipped boundTo =>
    refine h.block ?_ ?_
    · exact fun j s hmem _ => Fragment.exists_text_of_boundTo boundTo hmem
    · intro later hbound
      rw [Node.numbered_cons, List.filter_cons_of_pos
        (by rw [Node.isDropped_block_eq_false unskipped]; rfl)]
      exact .cons ⟨bound, boundTo, rfl⟩ hbound
  | dropped j s mem skips first written =>
    refine h.block ?_ ?_
    · intro i t hmem hskip
      refine written i t hmem ?_
      by_contra hji
      have hfalse := hskip j (Fragment.number_lt_of_mem mem).1 (Nat.not_lt.mp hji)
      rw [skips] at hfalse
      cases hfalse
    · intro later hbound
      rw [Node.numbered_cons, List.filter_cons_of_neg
        (by rw [Node.isDropped_block_of_mem mem skips]; decide)]
      exact hbound

end AlignedBinding

/-- A run in consuming mode keeps to the positions: the arguments left after each node are those
from the number of its next placeholder on. -/
theorem NodesRun.aligned {args given : List Value} {k : Nat} {nodes : List Node}
    {readings : List Reading} {outcome : Except BindError (List Node × List Value)}
    (h : NodesRun .consume k nodes given readings outcome) (hgiven : args.drop k = given)
    (hroom : k + Node.slotCount nodes ≤ args.length) : AlignedBinding args k nodes outcome := by
  induction h with
  | done =>
    rw [← hgiven]
    exact .done [] (by simp [Node.IsFormatted]) .nil
  | literal text _ ih => exact (ih hgiven (by simpa using hroom)).literal
  | outOfArguments =>
    rw [Node.slotCount_cons, Node.placeholderCount_placeholder] at hroom
    have hlength := List.drop_eq_nil_iff.mp hgiven
    omega
  | refused fails =>
    have harg := (getElem?_of_drop_eq_cons hgiven).1
    exact .placeholder_refused (by rw [textAt_eq harg, fails])
  | written writes _ ih =>
    obtain ⟨harg, hrest⟩ := getElem?_of_drop_eq_cons hgiven
    rw [Node.slotCount_cons, Node.placeholderCount_placeholder] at hroom
    exact (ih hrest (by omega)).placeholder (by rw [textAt_eq harg, writes])
  | failed block =>
    rw [Node.slotCount_cons, Node.placeholderCount_block] at hroom
    exact .block_refused (block.binding hgiven (by omega))
  | block block _ ih =>
    rw [Node.slotCount_cons, Node.placeholderCount_block] at hroom
    have hbinding := block.binding hgiven (by omega)
    exact (ih hbinding.consume_left (by omega)).block_bound hbinding

/-! The log of a run shows the same: a reading is of the placeholder's own argument, and it is not
of one that stands after the argument by which its block is dropped. -/

section
variable {mode : SkipMode} {args given : List Value} {k : Nat} {readings : List Reading}

theorem BlockRun.reading {children : List Fragment} {outcome : Except BindError BlockOutcome}
    (h : BlockRun mode k children given readings outcome) (hgiven : args.drop k = given)
    {r : Reading} (hr : r ∈ readings) :
    (r.slot, .placeholder r.specifier) ∈ Fragment.numbered k children ∧
      args[r.slot]? = some r.value ∧ (∀ i, k ≤ i → i < r.slot → skipAt args i = false) ∧
      (r.isFormatted = true → skipAt args r.slot = false) := by
  induction h with
  | done => exact (List.not_mem_nil hr).elim
  | literal _ _ ih =>
    obtain ⟨hmem, hrest⟩ := ih hgiven hr
    exact ⟨List.mem_cons_of_mem _ hmem, hrest⟩
  | outOfArguments => exact (List.not_mem_nil hr).elim
  | dropped skips =>
    obtain rfl := List.mem_singleton.mp hr
    refine ⟨List.mem_cons_self, (getElem?_of_drop_eq_cons hgiven).1, ?_, nofun⟩
    exact fun i hki hi => (Nat.not_lt.mpr hki hi).elim
  | refused keeps fails =>
    have harg := (getElem?_of_drop_eq_cons hgiven).1
    obtain rfl := List.mem_singleton.mp hr
    refine ⟨List.mem_cons_self, harg, ?_, fun _ => ?_⟩
    · exact fun i hki hi => (Nat.not_lt.mpr hki hi).elim
    · exact (skipAt_eq harg).trans (Bool.eq_false_iff.mpr keeps)
  | written keeps writes _ ih =>
    obtain ⟨harg, hrest⟩ := getElem?_of_drop_eq_cons hgiven
    have hkeep := (skipAt_eq harg).trans (Bool.eq_false_iff.mpr keeps)
    rcases List.mem_cons.mp hr with rfl | hr
    · refine ⟨List.mem_cons_self, harg, ?_, fun _ => hkeep⟩
      exact fun i hki hi => (Nat.not_lt.mpr hki hi).elim
    · obtain ⟨hmem, hvalue, hunskipped, hformatted⟩ := ih hrest hr
      refine ⟨List.mem_cons_of_mem _ hmem, hvalue, ?_, hformatted⟩
      intro i hki hi
      rcases Nat.eq_or_lt_of_le hki with rfl | hlt
      · exact hkeep
      · exact hunskipped i hlt hi

/-- A reading in a block at the front is of a formatted placeholder unless it drops the block. -/
theorem BlockRun.reading_front {children : List Fragment} {outcome : Except BindError BlockOutcome}
    (h : BlockRun mode k children given readings outcome) (hgiven : args.drop k = given)
    (rest : List Node) {r : Reading} (hr : r ∈ readings) :
    args[r.slot]? = some r.value ∧ (r.isFormatted = true →
      Node.IsFormatted args k (.block children :: rest) r.slot r.specifier) := by
  obtain ⟨hmem, hvalue, hbefore, hformatted⟩ := h.reading hgiven hr
  refine ⟨hvalue, fun hwritten => Node.isFormatted_block.mpr (.inl ⟨hmem, ?_⟩)⟩
  intro i hki hi
  rcases Nat.eq_or_lt_of_le hi with rfl | hlt
  · exact hformatted hwritten
  · exact hbefore i hki hlt

/-- In consuming mode the placeholder with number `j` reads argument `j`, and it is formatted only
if no argument of its block up to there drops the block. -/
theorem NodesRun.reading {nodes : List Node} {outcome : Except BindError (List Node × List Value)}
    (h : NodesRun .consume k nodes given readings outcome) (hgiven : args.drop k = given)
    (hroom : k + Node.slotCount nodes ≤ args.length) {r : Reading} (hr : r ∈ readings) :
    args[r.slot]? = some r.value ∧
      (r.isFormatted = true → Node.IsFormatted args k nodes r.slot r.specifier) := by
  induction h with
  | done => exact (List.not_mem_nil hr).elim
  | literal _ _ ih =>
    obtain ⟨hvalue, hformatted⟩ := ih hgiven (by simpa using hroom) hr
    exact ⟨hvalue, fun hr => Node.isFormatted_literal.mpr (hformatted hr)⟩
  | outOfArguments => exact (List.not_mem_nil hr).elim
  | refused fails =>
    obtain rfl := List.mem_singleton.mp hr
    refine ⟨(getElem?_of_drop_eq_cons hgiven).1, fun _ => ?_⟩
    exact Node.isFormatted_placeholder.mpr (.inl ⟨rfl, rfl⟩)
  | written writes _ ih =>
    obtain ⟨harg, hrest⟩ := getElem?_of_drop_eq_cons hgiven
    rw [Node.slotCount_cons, Node.placeholderCount_placeholder] at hroom
    rcases List.mem_cons.mp hr with rfl | hr
    · exact ⟨harg, fun _ => Node.isFormatted_placeholder.mpr (.inl ⟨rfl, rfl⟩)⟩
    · obtain ⟨hvalue, hformatted⟩ := ih hrest (by omega) hr
      exact ⟨hvalue, fun hr => Node.isFormatted_placeholder.mpr (.inr (hformatted hr))⟩
  | failed block => exact block.reading_front hgiven _ hr
  | block block _ ih =>
    rw [Node.slotCount_cons, Node.placeholderCount_block] at hroom
    rcases List.mem_append.mp hr with hr | hr
    · exact block.reading_front hgiven _ hr
    · have hnext := (block.binding hgiven (by omega)).consume_left
      obtain ⟨hvalue, hformatted⟩ := ih hnext (by omega) hr
      exact ⟨hvalue, fun hr => Node.isFormatted_block.mpr (.inr (hformatted hr))⟩

end

/-- What binding in consuming mode means. A literal stays, a placeholder becomes the text of the
argument with its number, and a block goes if one of its own arguments needs a skip. Binding fails
if the text of some formatted placeholder fails, with the error of the leftmost one, and in a block
nothing is formatted after the argument that drops it. -/
theorem bindValue_consume_aligned (p : ParsedTemplate) (args : List Value) (hcount : p.Counted)
    (hargs : args.length = Node.slotCount p.nodes) :
    (∀ nodes, bindValue .consume p (.list args) = .ok nodes ↔
      (∀ j s, Node.IsFormatted args 0 p.nodes j s → ∃ text, textAt args j s = some (.ok text)) ∧
      List.Forall₂ (Node.BoundTo args)
        ((Node.numbered 0 p.nodes).filter fun node => !Node.isDropped args node) nodes) ∧
    ((∃ e, bindValue .consume p (.list args) = .error e) ↔
      ∃ j s cause, Node.IsFormatted args 0 p.nodes j s ∧
        textAt args j s = some (.error cause)) ∧
    (∀ e, bindValue .consume p (.list args) = .error e →
      ∃ j s cause, e = .format cause ∧ Node.IsFormatted args 0 p.nodes j s ∧
        textAt args j s = some (.error cause) ∧
        ∀ i t, Node.IsFormatted args 0 p.nodes i t → i < j →
          ∃ text, textAt args i t = some (.ok text)) ∧
    ∀ r ∈ p.readings .consume args, args[r.slot]? = some r.value ∧
      (r.isFormatted = true → Node.IsFormatted args 0 p.nodes r.slot r.specifier) := by
  have hrun := nodesRun_bindNodes .consume 0 p.nodes args
  have hroom : 0 + Node.slotCount p.nodes ≤ args.length := by omega
  have hbinding := hrun.aligned rfl hroom
  have hreadings : ∀ r ∈ p.readings .consume args, args[r.slot]? = some r.value ∧
      (r.isFormatted = true → Node.IsFormatted args 0 p.nodes r.slot r.specifier) :=
    fun _ hr => hrun.reading rfl hroom hr
  have hlength : p.placeholderCount = args.length := by rw [hcount, hargs]
  rw [bindValue_list hlength]
  generalize bindNodes .consume p.nodes args = outcome at hbinding ⊢
  cases hbinding with
  | done bound written boundTo =>
    refine ⟨?_, ?_, ?_, hreadings⟩
    · intro nodes
      constructor
      · rintro ⟨⟩
        exact ⟨written, boundTo⟩
      · rintro ⟨-, hnodes⟩
        rw [(Node.boundTo_rightUnique args).forall₂ boundTo hnodes]
        rfl
    · constructor
      · rintro ⟨e, ⟨⟩⟩
      · rintro ⟨j, s, cause, hformatted, hfails⟩
        obtain ⟨text, htext⟩ := written j s hformatted
        rw [hfails] at htext
        cases htext
    · rintro e ⟨⟩
  | refused j s cause formatted fails written =>
    refine ⟨?_, ?_, ?_, hreadings⟩
    · intro nodes
      constructor
      · rintro ⟨⟩
      · rintro ⟨hall, -⟩
        obtain ⟨text, htext⟩ := hall j s formatted
        rw [fails] at htext
        cases htext
    · exact ⟨fun _ => ⟨j, s, cause, formatted, fails⟩, fun _ => ⟨_, rfl⟩⟩
    · rintro e ⟨⟩
      exact ⟨j, s, cause, rfl, formatted, fails, written⟩

/-- The second argument drops the block, the third is never formatted although nothing could write
it there, and the fourth keeps its place. -/
theorem bindValue_consume_aligned_dropped :
    bindValue .consume
      ⟨[.block [.placeholder .plain, .placeholder .array, .placeholder .plain],
        .fragment (.placeholder .plain)], 4⟩
      (.list [.bool true, .skip, .set [], .bool false]) = .ok [.fragment (.literal ['0'])] := by
  refine ((bindValue_consume_aligned _ _ (by decide) (by decide)).1 _).mpr ⟨?_, ?_⟩
  · intro j s h
    rcases Node.isFormatted_block.mp h with ⟨hmem, hskip⟩ | h
    · have hj : j = 0 := by
        by_contra hj
        exact absurd (hskip 1 (by omega) (by omega)) (by decide)
      subst hj
      obtain rfl : s = .plain := by simpa using hmem
      exact ⟨['1'], rfl⟩
    · obtain ⟨rfl, rfl⟩ : j = 3 ∧ s = .plain := by
        simpa [Node.isFormatted_placeholder, Node.IsFormatted] using h
      exact ⟨['0'], rfl⟩
  · exact .cons ⟨_, ⟨['0'], rfl, rfl⟩, rfl⟩ .nil

end SqlTemplate
