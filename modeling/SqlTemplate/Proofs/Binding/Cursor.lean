import Mathlib.Algebra.GroupWithZero.Nat
import SqlTemplate.Proofs.Binding.Aligned
import SqlTemplate.Proofs.Binding.Placement
import SqlTemplate.Proofs.Binding.Realign
import SqlTemplate.Proofs.Template.RoundTrip

/-! How far binding goes through the arguments. It never goes past their end unless a template made
by hand has more placeholders than it states. -/
namespace SqlTemplate

section
variable {mode : SkipMode} {k : Nat} {args left : List Value} {readings : List Reading}
  {nodes bound : List Node}

theorem NodesRun.values_append_left {outcome : Except BindError (List Node × List Value)}
    (h : NodesRun .leave k nodes args readings outcome) (hok : outcome = .ok (bound, left)) :
    readings.map Reading.value ++ left = args := by
  induction h generalizing bound left with
  | done =>
    cases hok
    rfl
  | literal _ _ ih =>
    obtain ⟨⟨later, _⟩, hlater, ⟨⟩⟩ := Outcome.map_eq_ok_iff.mp hok
    exact ih hlater
  | outOfArguments => cases hok
  | refused => cases hok
  | @written _ _ _ arg _ _ _ _ _ _ ih =>
    obtain ⟨⟨later, _⟩, hlater, ⟨⟩⟩ := Outcome.map_eq_ok_iff.mp hok
    exact congrArg (arg :: ·) (ih hlater)
  | failed => cases hok
  | block block _ ih =>
    obtain ⟨⟨later, _⟩, hlater, ⟨⟩⟩ := Outcome.map_eq_ok_iff.mp hok
    have hrest := ih hlater
    have hfront := block.values_append_left rfl
    rw [List.map_append, List.append_assoc, hrest, hfront]

/-- A run that succeeds reads an argument for each placeholder but those that a dropped block has
after the one at which it is dropped. -/
theorem NodesRun.length_readings {outcome : Except BindError (List Node × List Value)}
    (h : NodesRun mode k nodes args readings outcome) (hok : outcome = .ok (bound, left))
    {earlier : List Reading} (hearlier : ∀ r ∈ earlier, r.slot < k) :
    readings.length +
        ((Node.numbered k nodes).map (Node.afterSkip (earlier ++ readings))).sum =
      Node.slotCount nodes := by
  induction h generalizing bound left earlier with
  | done => rfl
  | literal text _ ih =>
    obtain ⟨⟨later, _⟩, hlater, ⟨⟩⟩ := Outcome.map_eq_ok_iff.mp hok
    have hrest := ih hlater hearlier
    simpa using hrest
  | outOfArguments => cases hok
  | refused => cases hok
  | @written k s _ arg _ text more _ _ _ ih =>
    obtain ⟨⟨later, _⟩, hlater, ⟨⟩⟩ := Outcome.map_eq_ok_iff.mp hok
    have hslot : ∀ r ∈ [(⟨k, s, arg, .written text⟩ : Reading)], r.slot < k + 1 := by simp
    have hrest := ih hlater (Node.slot_lt_of_mem_append hearlier hslot)
    rw [List.append_assoc, List.singleton_append] at hrest
    simp only [Node.numbered_cons, Node.placeholderCount_placeholder, List.map_cons,
      Node.afterSkip_fragment, List.sum_cons, List.length_cons, Node.slotCount_cons]
    omega
  | failed => cases hok
  | @block k children rest _ _ kept readings more _ block later ih =>
    obtain ⟨⟨bound, _⟩, hlater, ⟨⟩⟩ := Outcome.map_eq_ok_iff.mp hok
    have hplaced := block.placed
    have hrest := ih hlater (Node.slot_lt_of_mem_append hearlier
      fun r hr => (hplaced r hr).bounds.2)
    have hfront := block.length_readings rfl
    have hafter : Node.afterSkip (earlier ++ (readings ++ more)) (k, .block children) =
        ((readings.find? fun r => !r.isFormatted).map fun r =>
          k + Fragment.placeholderCount children - (r.slot + 1)).getD 0 := by
      rw [Node.afterSkip, Node.skippedAt?_of_placed hearlier hplaced
        fun r hr => (later.placed r hr).le, Option.map_map]
      rfl
    rw [List.append_assoc] at hrest
    simp only [Node.numbered_cons, Node.placeholderCount_block, List.map_cons, List.sum_cons,
      List.length_append, Node.slotCount_cons, hafter]
    omega

end

theorem argumentsOf_ne_outOfArguments (v : Value) : argumentsOf v ≠ .error .outOfArguments := by
  cases v <;> simp [argumentsOf, Value.iterate?, Value.sequence?]

section
variable {p : ParsedTemplate} {args left : List Value} {bound : List Node}

/-- In consuming mode the cursor ends after one argument for each placeholder. -/
theorem left_eq_drop_consume (h : bindNodes .consume p.nodes args = .ok (bound, left))
    (hroom : Node.slotCount p.nodes ≤ args.length) :
    left = args.drop (Node.slotCount p.nodes) := by
  have haligned := (nodesRun_bindNodes .consume 0 p.nodes args).aligned rfl (by omega)
  rw [h] at haligned
  generalize hend : Except.ok (bound, left) = outcome at haligned
  cases haligned with
  | refused => cases hend
  | done =>
    cases hend
    rw [Nat.zero_add]

/-- In leaving mode the cursor ends after the arguments that were read. -/
theorem left_eq_drop_leave (h : bindNodes .leave p.nodes args = .ok (bound, left)) :
    left = args.drop (p.readings .leave args).length ∧
      (p.readings .leave args).length ≤ args.length := by
  have hrun := nodesRun_bindNodes .leave 0 p.nodes args
  rw [h] at hrun
  have hvalues : (p.readings .leave args).map Reading.value ++ left = args :=
    hrun.values_append_left rfl
  have hlength := congrArg List.length hvalues
  rw [List.length_append, List.length_map] at hlength
  refine ⟨?_, by omega⟩
  calc left
      = ((p.readings .leave args).map Reading.value ++ left).drop
          (p.readings .leave args).length := (List.drop_left' (List.length_map _)).symm
    _ = args.drop (p.readings .leave args).length := by rw [hvalues]

end

/-- The cursor of binding. It can leave the arguments only if the template has more placeholders than
it states, so it does not for a template that was parsed. When binding succeeds and there are not
more, the cursor ends after as many arguments as there are placeholders; in leaving mode it is short
of that by the placeholders that each dropped block has after the one at which it is dropped. -/
theorem bindValue_cursor {mode : SkipMode} {p : ParsedTemplate} {args : List Value}
    (hargs : p.placeholderCount = args.length) :
    (bindValue mode p (.list args) = .error .outOfArguments →
      p.placeholderCount < Node.slotCount p.nodes) ∧
    (Node.slotCount p.nodes ≤ p.placeholderCount →
      ∀ nodes, bindValue mode p (.list args) = .ok nodes →
        ∃ cursor ≤ args.length, bindNodes mode p.nodes args = .ok (nodes, args.drop cursor) ∧
          match mode with
          | .consume => cursor = Node.slotCount p.nodes
          | .leave => cursor + ((Node.numbered 0 p.nodes).map
              (Node.afterSkip (p.readings .leave args))).sum = Node.slotCount p.nodes) ∧
    ∀ template, parse template = .ok p →
      ∀ given, bindValue mode p given ≠ .error .outOfArguments := by
  have henough {given : List Value} (hroom : Node.slotCount p.nodes ≤ given.length) :
      bindNodes mode p.nodes given ≠ .error .outOfArguments :=
    (nodesRun_bindNodes mode 0 p.nodes given).ne_outOfArguments hroom
  refine ⟨?_, ?_, ?_⟩
  · intro hout
    rw [bindValue_list hargs, Outcome.map_eq_error_iff] at hout
    by_contra hcount
    exact henough (by omega) hout
  · intro hroom nodes hbind
    rw [bindValue_list hargs] at hbind
    obtain ⟨⟨bound, left⟩, hleft, rfl⟩ := Outcome.map_eq_ok_iff.mp hbind
    cases mode with
    | consume =>
      have hdrop := left_eq_drop_consume hleft (by omega)
      exact ⟨Node.slotCount p.nodes, by omega, hdrop ▸ hleft, rfl⟩
    | leave =>
      obtain ⟨hdrop, hlength⟩ := left_eq_drop_leave hleft
      have hrun := nodesRun_bindNodes .leave 0 p.nodes args
      rw [hleft] at hrun
      exact ⟨_, hlength, hdrop ▸ hleft, hrun.length_readings rfl (List.forall_mem_nil _)⟩
  · intro template hparse given hout
    rcases Outcome.bind_eq_error_iff.mp hout with harguments | ⟨items, -, hbind⟩
    · exact argumentsOf_ne_outOfArguments given harguments
    · rw [bind] at hbind
      split at hbind
      · next hcount =>
        have hcounted := (canonical_of_parse hparse).counted
        rw [ParsedTemplate.Counted] at hcounted
        exact henough (by omega) (Outcome.map_eq_error_iff.mp hbind)
      · cases hbind

/-- The block is dropped at its first placeholder, so one of its two placeholders is passed over.
The template states one placeholder more than it has. -/
theorem bindValue_cursor_dropped :
    ∃ cursor ≤ 3, bindNodes .leave [.block [.placeholder .plain, .placeholder .array]]
        [.skip, .bool true, .null] = .ok ([], List.drop cursor [.skip, .bool true, .null]) ∧
      cursor + ((Node.numbered 0 [.block [.placeholder .plain, .placeholder .array]]).map
        (Node.afterSkip [⟨0, .plain, .skip, .dropping 1⟩])).sum = 2 :=
  (@bindValue_cursor .leave ⟨[.block [.placeholder .plain, .placeholder .array]], 3⟩
    [.skip, .bool true, .null] rfl).2.1 (by decide) [] rfl

end SqlTemplate
