import SqlTemplate.Proofs.Binding.SkipMark
import SqlTemplate.Proofs.Binding.Written
import SqlTemplate.Proofs.Query.Closure

/-! No part of a query is the text of an argument that needs a skip. Such an argument drops the
block that it stands in, or the query fails. -/
namespace SqlTemplate

/-- A block is gone once a reading drops it. -/
theorem Node.stays_eq_false {readings : List Reading} {k : Nat} {children : List Fragment}
    {r : Reading} (hr : r ∈ readings) (hdrops : r.isFormatted = false)
    (hplaced : r.PlacedInBlock k children) : stays readings (k, .block children) = false := by
  have hfound : (readings.find? (Reading.drops k children)).isSome = true := by
    rw [List.find?_isSome]
    refine ⟨r, hr, ?_⟩
    rw [Reading.drops, hdrops, decide_eq_true hplaced.bounds]
    rfl
  rw [stays, skippedAt?, Option.isNone_map, ← Option.not_isSome, hfound]
  rfl

theorem Reading.PlacedIn.effect_of_outside {r : Reading} {nodes : List Node}
    (h : r.PlacedIn 0 nodes)
    (houtside : (r.slot, .fragment (.placeholder r.specifier)) ∈ Node.numbered 0 nodes) :
    r.effect = .ofFormat (formatValue r.specifier r.value) := by
  cases h with
  | outside _ effect => exact effect
  | inBlock block placed =>
    have hbounds := placed.bounds
    have hapart := Node.lt_or_le_of_mem_numbered houtside block
    omega

/-- An argument whose text is formatted in a run that succeeds is written. -/
theorem exists_text_of_effect {mode : SkipMode} {p : ParsedTemplate} {args left : List Value}
    {nodes : List Node} (hbind : bindNodes mode p.nodes args = .ok (nodes, left)) {r : Reading}
    (hr : r ∈ p.readings mode args)
    (heffect : r.effect = .ofFormat (formatValue r.specifier r.value)) :
    ∃ text, formatValue r.specifier r.value = .ok text ∧ r.effect = .written text := by
  refine Reading.exists_text_of_not_refused heffect fun cause hrefused => ?_
  have hfails := (nodesRun_bindNodes mode 0 p.nodes args).eq_format_iff.mpr ⟨r, hr, hrefused⟩
  rw [hbind] at hfails
  cases hfails

/-- The skip mark never reaches a query. An argument that needs a skip is never formatted with
success. A query that is built consists of the template's literals and of the texts of arguments that
need no skip, and each argument that needs one has removed the block in which it was read. Outside
any block such an argument makes the query fail. -/
theorem buildQuery_never_writes_skip {mode : SkipMode} {template : Text} {args : List Value}
    {p : ParsedTemplate} (hparse : parse template = .ok p) :
    (∀ (s : Specifier) (v : Value), v.needsSkip = true → ∃ cause, formatValue s v = .error cause ∧
      ((cause.IsUnsupported ∧ ¬ (s ∈ [.array, .identifier] ∧ v.LongBeforeSkip)) ∨
        (cause = .integerTooLong ∧ s ∈ [.array, .identifier] ∧ v.LongBeforeSkip))) ∧
    (∀ text, buildQuery mode template (.list args) = .ok text →
      (∃ nodes, text = serialize nodes ∧
        List.Forall₂ (Node.WrittenBy (p.readings mode args))
          ((Node.numbered 0 p.nodes).filter (Node.stays (p.readings mode args))) nodes) ∧
      ∀ r ∈ p.readings mode args, r.value ∈ args ∧
        ((r.value.needsSkip = false ∧
          ∃ t, formatValue r.specifier r.value = .ok t ∧ r.effect = .written t) ∨
        (r.value.needsSkip = true ∧ r.isFormatted = false ∧
          ∃ start children, (start, .block children) ∈ Node.numbered 0 p.nodes ∧
            (r.slot, .placeholder r.specifier) ∈ Fragment.numbered start children ∧
            Node.stays (p.readings mode args) (start, .block children) = false))) ∧
    (p.placeholderCount = args.length → ∀ r ∈ p.readings mode args, r.value.needsSkip = true →
      (r.slot, .fragment (.placeholder r.specifier)) ∈ Node.numbered 0 p.nodes →
      ∃ cause, formatValue r.specifier r.value = .error cause ∧
        buildQuery mode template (.list args) = .error (.bind (.format cause))) := by
  have hrun := nodesRun_bindNodes mode 0 p.nodes args
  refine ⟨fun s v => exists_error_of_needsSkip s, ?_, ?_⟩
  · intro text hquery
    obtain ⟨_, nodes, hagain, hbound, rfl⟩ := buildQuery_eq_ok_iff.mp hquery
    cases hparse.symm.trans hagain
    obtain ⟨-, left, hbind⟩ := bindValue_eq_ok_iff.mp hbound
    refine ⟨⟨nodes, rfl, hrun.writtenBy hbind (List.forall_mem_nil _)⟩, ?_⟩
    intro r hr
    refine ⟨(hrun.faithful r hr).1, ?_⟩
    have hunskipped (heffect : r.effect = .ofFormat (formatValue r.specifier r.value)) :
        r.value.needsSkip = false ∧
          ∃ t, formatValue r.specifier r.value = .ok t ∧ r.effect = .written t := by
      obtain ⟨t, hformat, hwritten⟩ := exists_text_of_effect hbind hr heffect
      refine ⟨?_, t, hformat, hwritten⟩
      rw [← Bool.not_eq_true]
      intro hskip
      exact formatValue_ne_ok_of_needsSkip _ hskip ⟨t, hformat⟩
    cases hrun.placed r hr with
    | outside mem effect => exact .inl (hunskipped effect)
    | inBlock block placed =>
      have heffect := placed.effect
      by_cases hskip : r.value.needsSkip = true
      · rw [if_pos hskip] at heffect
        have hdrops : r.isFormatted = false := by rw [Reading.isFormatted, heffect]
        exact .inr ⟨hskip, hdrops, _, _, block, placed.mem,
          Node.stays_eq_false hr hdrops placed⟩
      · rw [if_neg hskip] at heffect
        exact .inl (hunskipped heffect)
  · intro hcount r hr hskip houtside
    obtain ⟨cause, hformat, -⟩ := exists_error_of_needsSkip r.specifier hskip
    have heffect := (hrun.placed r hr).effect_of_outside houtside
    rw [hformat, Effect.ofFormat] at heffect
    have hbind : bindValue mode p (.list args) = .error (.format cause) :=
      (bindValue_eq_error_iff (canonical_of_parse hparse).counted).mpr
        (.inr ⟨hcount, cause, rfl, r, hr, heffect⟩)
    exact ⟨cause, hformat, buildQuery_eq_error_iff.mpr (.inr ⟨p, _, hparse, hbind, rfl⟩)⟩

/-- In a block, the first argument holds the mark and removes the block; the second is written. The
mark for a placeholder outside any block ends the query, and an integer that is too long is found
before the mark after it. -/
theorem buildQuery_never_writes_skip_dropped :
    (parse ['{', '?', 'a', '}', '?'] =
        .ok ⟨[.block [.placeholder .array], .fragment (.placeholder .plain)], 2⟩ ∧
      buildQuery .leave ['{', '?', 'a', '}', '?']
        (.list [.list [.bool true, .skip], .bool false]) = .ok ['0'] ∧
      ∀ r ∈ ParsedTemplate.readings
          ⟨[.block [.placeholder .array], .fragment (.placeholder .plain)], 2⟩ .leave
          [.list [.bool true, .skip], .bool false],
        r.value.needsSkip = true → r.isFormatted = false) ∧
    (∃ cause, formatValue .plain .skip = .error cause ∧
      buildQuery .leave ['?'] (.list [.skip]) = .error (.bind (.format cause))) ∧
    formatValue .array (.list [.int (10 ^ Numeral.digitLimit : Nat), .skip]) =
      .error .integerTooLong := by
  have hparse : parse ['{', '?', 'a', '}', '?'] =
      .ok ⟨[.block [.placeholder .array], .fragment (.placeholder .plain)], 2⟩ := rfl
  have hquery : buildQuery .leave ['{', '?', 'a', '}', '?']
      (.list [.list [.bool true, .skip], .bool false]) = .ok ['0'] := rfl
  refine ⟨⟨hparse, hquery, fun r hr hskip => ?_⟩, ?_, ?_⟩
  · rcases (((buildQuery_never_writes_skip hparse).2.1 _ hquery).2 r hr).2 with
      ⟨hkeep, -⟩ | ⟨-, hdrops, -⟩
    · rw [hskip] at hkeep
      cases hkeep
    · exact hdrops
  · have hbare : parse ['?'] = .ok ⟨[.fragment (.placeholder .plain)], 1⟩ := rfl
    exact (@buildQuery_never_writes_skip .leave ['?'] [.skip] _ hbare).2.2 rfl
      ⟨0, .plain, .skip, .ofFormat (formatValue .plain .skip)⟩ List.mem_cons_self rfl
      List.mem_cons_self
  · generalize hn : 10 ^ Numeral.digitLimit = n
    have hlong : 10 ^ Numeral.digitLimit ≤ (n : Int).natAbs := by rw [hn, Int.natAbs_natCast]
    have hbefore : (Value.list [.int n, .skip]).LongBeforeSkip :=
      @Value.LongBeforeSkip.item _ [] [.skip] n rfl List.mem_cons_self nofun hlong
    obtain ⟨cause, hformat, ⟨-, hshort⟩ | ⟨rfl, -⟩⟩ :=
      (@buildQuery_never_writes_skip .leave _ [] _ hparse).1 .array (.list [.int n, .skip]) rfl
    · exact absurd ⟨List.mem_cons_self, hbefore⟩ hshort
    · exact hformat

end SqlTemplate
