import SqlTemplate.Proofs.Binding.Replay

/-! Binding that leaves the arguments of dropped blocks to later placeholders, compared with binding
that passes over them: it is the same after fillers are put where the first one reads on. -/
namespace SqlTemplate

/-! In leaving mode the readings are of the arguments one after another. -/

section
variable {k : Nat} {args : List Value} {readings : List Reading}

theorem BlockRun.values_prefix {children : List Fragment}
    {outcome : Except BindError BlockOutcome}
    (h : BlockRun .leave k children args readings outcome) :
    readings.map Reading.value <+: args := by
  induction h with
  | done => exact List.nil_prefix
  | literal _ _ ih => exact ih
  | outOfArguments => exact List.nil_prefix
  | dropped => exact List.prefix_append [_] _
  | refused => exact List.prefix_append [_] _
  | written _ _ _ ih => exact List.cons_prefix_cons.mpr ⟨rfl, ih⟩

theorem BlockRun.values_append_left {children : List Fragment}
    {outcome : Except BindError BlockOutcome}
    (h : BlockRun .leave k children args readings outcome) {kept : Option (List Fragment)}
    {left : List Value} (hleft : outcome = .ok (kept, left)) :
    readings.map Reading.value ++ left = args := by
  induction h generalizing kept left with
  | done =>
    cases hleft
    rfl
  | literal _ _ ih =>
    obtain ⟨⟨later, _⟩, hlater, ⟨⟩⟩ := Outcome.map_eq_ok_iff.mp hleft
    exact ih hlater
  | outOfArguments => cases hleft
  | dropped =>
    cases hleft
    rfl
  | refused => cases hleft
  | @written _ _ _ arg _ _ _ _ _ _ _ ih =>
    obtain ⟨⟨later, _⟩, hlater, ⟨⟩⟩ := Outcome.map_eq_ok_iff.mp hleft
    exact congrArg (arg :: ·) (ih hlater)

theorem NodesRun.values_prefix {nodes : List Node}
    {outcome : Except BindError (List Node × List Value)}
    (h : NodesRun .leave k nodes args readings outcome) :
    readings.map Reading.value <+: args := by
  induction h with
  | done => exact List.nil_prefix
  | literal _ _ ih => exact ih
  | outOfArguments => exact List.nil_prefix
  | refused => exact List.prefix_append [_] _
  | written _ _ ih => exact List.cons_prefix_cons.mpr ⟨rfl, ih⟩
  | failed block => exact block.values_prefix
  | block block _ ih =>
    rw [List.map_append, ← block.values_append_left rfl]
    exact (List.prefix_append_right_inj _).mpr ih

end

/-! The modes do the same as long as no drop has placeholders after it in its block. -/

theorem SkipMode.afterDrop_zero (mode : SkipMode) (args : List Value) :
    mode.afterDrop 0 args = args := by cases mode <;> rfl

section
variable {source : SkipMode} {k : Nat} {args : List Value} {readings : List Reading}

theorem BlockRun.in_mode {children : List Fragment} {outcome : Except BindError BlockOutcome}
    (h : BlockRun source k children args readings outcome)
    (hdrops : ∀ r ∈ readings, r.following = 0) (mode : SkipMode) :
    BlockRun mode k children args readings outcome := by
  induction h with
  | done => exact .done
  | literal text _ ih => exact .literal text (ih hdrops)
  | outOfArguments => exact .outOfArguments
  | @dropped k s rest arg args skips =>
    have hzero : Fragment.placeholderCount rest = 0 := hdrops _ List.mem_cons_self
    have hsame : source.afterDrop (Fragment.placeholderCount rest) args =
        mode.afterDrop (Fragment.placeholderCount rest) args := by
      rw [hzero, SkipMode.afterDrop_zero, SkipMode.afterDrop_zero]
    rw [hsame]
    exact .dropped skips
  | refused keeps fails => exact .refused keeps fails
  | written keeps writes _ ih =>
    exact .written keeps writes (ih fun r hr => hdrops r (List.mem_cons_of_mem _ hr))

theorem NodesRun.in_mode {nodes : List Node} {outcome : Except BindError (List Node × List Value)}
    (h : NodesRun source k nodes args readings outcome)
    (hdrops : ∀ r ∈ readings, r.following = 0) (mode : SkipMode) :
    NodesRun mode k nodes args readings outcome := by
  induction h with
  | done => exact .done
  | literal text _ ih => exact .literal text (ih hdrops)
  | outOfArguments => exact .outOfArguments
  | refused fails => exact .refused fails
  | written writes _ ih =>
    exact .written writes (ih fun r hr => hdrops r (List.mem_cons_of_mem _ hr))
  | failed block => exact .failed (block.in_mode hdrops mode)
  | block block _ ih =>
    exact .block (block.in_mode (fun r hr => hdrops r (List.mem_append_left _ hr)) mode)
      (ih fun r hr => hdrops r (List.mem_append_right _ hr))

end

/-- The arguments with fillers after each one that drops a block, one for each placeholder of the
block that follows, by the number of the placeholder. -/
def realign (filler : Nat → Value) : List Reading → List Value → List Value
  | r :: later, arg :: args =>
    arg :: ((List.range' (r.slot + 1) r.following).map filler ++ realign filler later args)
  | _, args => args

theorem cells_prefix_realign (filler : Nat → Value) {readings : List Reading} {args : List Value}
    (h : readings.map Reading.value <+: args) :
    readings.flatMap (Reading.cells .consume filler) <+: realign filler readings args := by
  induction readings generalizing args with
  | nil => exact List.nil_prefix
  | cons r later ih =>
    match args with
    | [] => simp at h
    | arg :: args =>
      obtain ⟨rfl, hlater⟩ := List.cons_prefix_cons.mp h
      rw [List.flatMap_cons, Reading.cells, realign, List.cons_append]
      exact List.cons_prefix_cons.mpr ⟨rfl, (List.prefix_append_right_inj _).mpr (ih hlater)⟩

theorem length_le_length_realign (filler : Nat → Value) (readings : List Reading)
    (args : List Value) : args.length ≤ (realign filler readings args).length := by
  induction readings generalizing args with
  | nil => exact Nat.le_refl _
  | cons r later ih =>
    cases args with
    | nil => exact Nat.zero_le _
    | cons arg args =>
      have hlater := ih args
      rw [realign]
      simp only [List.length_cons, List.length_append]
      omega

/-- A run is repeated on any list of the right length that begins with the cells of its readings. -/
theorem bindValue_cells {p : ParsedTemplate} {args others : List Value} (hcount : p.Counted)
    (hargs : args.length = Node.slotCount p.nodes) (mode source : SkipMode)
    (filler : Nat → Value) (hothers : others.length = args.length)
    (hcells : (p.readings source args).flatMap (Reading.cells mode filler) <+: others) :
    bindValue mode p (.list others) = bindValue source p (.list args) := by
  obtain ⟨rest, rfl⟩ := hcells
  have hrun := nodesRun_bindNodes source 0 p.nodes args
  have henough := hrun.ne_outOfArguments (Nat.le_of_eq hargs.symm)
  have hreplay := (hrun.replay henough mode filler rest).bindNodes_eq
  rw [bindValue_list (by rw [hothers, hcount, hargs]), bindValue_list (by rw [hcount, hargs]),
    ParsedTemplate.readings, hreplay, Functor.map_map]

/-- Binding that leaves the arguments of dropped blocks reads the arguments one after another, and
those that it does not reach make no difference. It is the same as binding in consuming mode after
fillers are put in for the placeholders that each dropped block takes with it, and the same without
fillers if there are no such placeholders. -/
theorem bindValue_leave_realigned (p : ParsedTemplate) (args : List Value) (hcount : p.Counted)
    (hargs : args.length = Node.slotCount p.nodes) :
    (p.readings .leave args).map Reading.value <+: args ∧
    (∀ filler, bindValue .leave p (.list args) = bindValue .consume p
      (.list ((realign filler (p.readings .leave args) args).take args.length))) ∧
    (∀ mode, (∀ r ∈ p.readings mode args, r.following = 0) →
      bindValue .leave p (.list args) = bindValue .consume p (.list args)) ∧
    ∀ others : List Value, others.length = args.length →
      others.take (p.readings .leave args).length = args.take (p.readings .leave args).length →
      bindValue .leave p (.list others) = bindValue .leave p (.list args) := by
  have hrun := nodesRun_bindNodes .leave 0 p.nodes args
  have hvalues : (p.readings .leave args).map Reading.value <+: args := hrun.values_prefix
  have hlength : p.placeholderCount = args.length := by rw [hcount, hargs]
  refine ⟨hvalues, ?_, ?_, ?_⟩
  · intro filler
    have hlonger := length_le_length_realign filler (p.readings .leave args) args
    have hroom : ((p.readings .leave args).flatMap (Reading.cells .consume filler)).length ≤
        args.length := by
      rw [hargs]
      exact hrun.length_cells_le filler
    have hcells := List.prefix_take_iff.mpr ⟨cells_prefix_realign filler hvalues, hroom⟩
    exact (bindValue_cells hcount hargs .consume .leave filler
      (List.length_take_of_le hlonger) hcells).symm
  · intro mode hdrops
    have hmodes := (nodesRun_bindNodes mode 0 p.nodes args).in_mode hdrops
    rw [bindValue_list hlength, bindValue_list hlength, (hmodes .leave).bindNodes_eq,
      (hmodes .consume).bindNodes_eq]
  · intro others hothers hsame
    refine bindValue_cells hcount hargs .leave .leave (fun _ => .skip) hothers ?_
    have hread := List.prefix_iff_eq_take.mp hvalues
    rw [List.length_map, ← hsame] at hread
    have hcells : (p.readings .leave args).flatMap (Reading.cells .leave fun _ => .skip) =
        (p.readings .leave args).map Reading.value := List.map_eq_flatMap.symm
    rw [hcells, hread]
    exact List.take_prefix _ _

/-- The first block is dropped with one placeholder to go, so that everything after it is one place
early, and the last argument is never reached. -/
theorem bindValue_leave_realigned_dropped :
    bindValue .leave
        ⟨[.block [.placeholder .plain, .placeholder .plain, .placeholder .plain],
          .fragment (.placeholder .plain), .block [.placeholder .array, .placeholder .plain]], 6⟩
        (.list [.bool true, .skip, .bool false, .list [.bool true], .skip, .set []]) =
      bindValue .consume
        ⟨[.block [.placeholder .plain, .placeholder .plain, .placeholder .plain],
          .fragment (.placeholder .plain), .block [.placeholder .array, .placeholder .plain]], 6⟩
        (.list [.bool true, .skip, .set [], .bool false, .list [.bool true], .skip]) :=
  (bindValue_leave_realigned _ _ (by decide) (by decide)).2.1 fun _ => .set []

end SqlTemplate
