import SqlTemplate.Proofs.Binding.Limit
import SqlTemplate.Proofs.Binding.Replay
import SqlTemplate.Proofs.Template.RoundTrip

/-! Which errors a query can end with: those of the family, and those of an argument that is over
the limit of a conversion. -/
namespace SqlTemplate

/-! A run fails with the cause for which a reading is refused, unless the arguments run out. -/

section
variable {mode : SkipMode} {k : Nat} {args : List Value} {readings : List Reading}
  {cause : FormatError}

theorem BlockRun.eq_format_iff {children : List Fragment} {outcome : Except BindError BlockOutcome}
    (h : BlockRun mode k children args readings outcome) :
    outcome = .error (.format cause) ↔ ∃ r ∈ readings, r.effect = .refused cause := by
  induction h with
  | done => simp
  | literal _ _ ih => rw [Outcome.map_eq_error_iff, ih]
  | outOfArguments => simp
  | dropped => simp
  | refused => simp
  | written _ _ _ ih => simp [Outcome.map_eq_error_iff, ih]

theorem NodesRun.eq_format_iff {nodes : List Node}
    {outcome : Except BindError (List Node × List Value)}
    (h : NodesRun mode k nodes args readings outcome) :
    outcome = .error (.format cause) ↔ ∃ r ∈ readings, r.effect = .refused cause := by
  induction h with
  | done => simp
  | literal _ _ ih => rw [Outcome.map_eq_error_iff, ih]
  | outOfArguments => simp
  | refused => simp
  | written _ _ ih => simp [Outcome.map_eq_error_iff, ih]
  | failed block =>
    rw [← block.eq_format_iff]
    simp
  | @block _ _ _ _ _ _ readings more _ block _ ih =>
    have hblock : ¬ ∃ r ∈ readings, r.effect = .refused cause := by
      rw [← block.eq_format_iff]
      nofun
    rw [Outcome.map_eq_error_iff, ih]
    constructor
    · rintro ⟨r, hr, heffect⟩
      exact ⟨r, List.mem_append_right _ hr, heffect⟩
    · rintro ⟨r, hr, heffect⟩
      rcases List.mem_append.mp hr with hr | hr
      · exact (hblock ⟨r, hr, heffect⟩).elim
      · exact ⟨r, hr, heffect⟩

theorem BlockRun.eq_outOfArguments_or_format {children : List Fragment}
    {outcome : Except BindError BlockOutcome}
    (h : BlockRun mode k children args readings outcome) {e : BindError}
    (he : outcome = .error e) : e = .outOfArguments ∨ ∃ cause, e = .format cause := by
  induction h with
  | done => cases he
  | literal _ _ ih => exact ih (Outcome.map_eq_error_iff.mp he)
  | outOfArguments =>
    cases he
    exact .inl rfl
  | dropped => cases he
  | refused =>
    cases he
    exact .inr ⟨_, rfl⟩
  | written _ _ _ ih => exact ih (Outcome.map_eq_error_iff.mp he)

theorem NodesRun.eq_outOfArguments_or_format {nodes : List Node}
    {outcome : Except BindError (List Node × List Value)}
    (h : NodesRun mode k nodes args readings outcome) {e : BindError}
    (he : outcome = .error e) : e = .outOfArguments ∨ ∃ cause, e = .format cause := by
  induction h with
  | done => cases he
  | literal _ _ ih => exact ih (Outcome.map_eq_error_iff.mp he)
  | outOfArguments =>
    cases he
    exact .inl rfl
  | refused =>
    cases he
    exact .inr ⟨_, rfl⟩
  | written _ _ ih => exact ih (Outcome.map_eq_error_iff.mp he)
  | failed block =>
    cases he
    exact block.eq_outOfArguments_or_format rfl
  | block _ _ ih => exact ih (Outcome.map_eq_error_iff.mp he)

/-- What a block leaves is the end of what it is given. -/
theorem BlockRun.left_suffix {children : List Fragment} {outcome : Except BindError BlockOutcome}
    (h : BlockRun mode k children args readings outcome) {kept : Option (List Fragment)}
    {left : List Value} (hleft : outcome = .ok (kept, left)) : left <:+ args := by
  induction h generalizing kept left with
  | done =>
    cases hleft
    exact List.suffix_rfl
  | literal _ _ ih =>
    obtain ⟨⟨later, _⟩, hlater, ⟨⟩⟩ := Outcome.map_eq_ok_iff.mp hleft
    exact ih hlater
  | outOfArguments => cases hleft
  | @dropped _ _ _ arg args =>
    cases hleft
    cases mode with
    | leave => exact List.suffix_cons arg args
    | consume => exact (List.drop_suffix _ args).trans (List.suffix_cons arg args)
  | refused => cases hleft
  | @written _ _ _ arg args _ _ _ _ _ _ ih =>
    obtain ⟨⟨later, _⟩, hlater, ⟨⟩⟩ := Outcome.map_eq_ok_iff.mp hleft
    exact (ih hlater).trans (List.suffix_cons arg args)

/-- A reading is of an argument, and it is refused for the reason that formatting gives. -/
def Reading.Faithful (args : List Value) (r : Reading) : Prop :=
  r.value ∈ args ∧
    ∀ cause, r.effect = .refused cause → formatValue r.specifier r.value = .error cause

theorem Reading.Faithful.of_suffix {left : List Value} {r : Reading} (h : r.Faithful left)
    (hleft : left <:+ args) : r.Faithful args := ⟨hleft.subset h.1, h.2⟩

theorem BlockRun.faithful {children : List Fragment} {outcome : Except BindError BlockOutcome}
    (h : BlockRun mode k children args readings outcome) : ∀ r ∈ readings, r.Faithful args := by
  induction h with
  | done => exact List.forall_mem_nil _
  | literal _ _ ih => exact ih
  | outOfArguments => exact List.forall_mem_nil _
  | dropped =>
    refine List.forall_mem_singleton.mpr ⟨List.mem_cons_self, ?_⟩
    rintro cause ⟨⟩
  | refused keeps fails =>
    refine List.forall_mem_singleton.mpr ⟨List.mem_cons_self, ?_⟩
    rintro cause ⟨⟩
    exact fails
  | @written _ _ _ arg args _ _ _ _ _ _ ih =>
    refine List.forall_mem_cons.mpr ⟨⟨List.mem_cons_self, ?_⟩, ?_⟩
    · rintro cause ⟨⟩
    · exact fun r hr => (ih r hr).of_suffix (List.suffix_cons arg args)

theorem NodesRun.faithful {nodes : List Node}
    {outcome : Except BindError (List Node × List Value)}
    (h : NodesRun mode k nodes args readings outcome) : ∀ r ∈ readings, r.Faithful args := by
  induction h with
  | done => exact List.forall_mem_nil _
  | literal _ _ ih => exact ih
  | outOfArguments => exact List.forall_mem_nil _
  | refused fails =>
    refine List.forall_mem_singleton.mpr ⟨List.mem_cons_self, ?_⟩
    rintro cause ⟨⟩
    exact fails
  | @written _ _ _ arg args _ _ _ _ _ ih =>
    refine List.forall_mem_cons.mpr ⟨⟨List.mem_cons_self, ?_⟩, ?_⟩
    · rintro cause ⟨⟩
    · exact fun r hr => (ih r hr).of_suffix (List.suffix_cons arg args)
  | failed block => exact block.faithful
  | block block _ ih =>
    refine List.forall_mem_append.mpr ⟨block.faithful, ?_⟩
    exact fun r hr => (ih r hr).of_suffix (block.left_suffix rfl)

end

theorem bindValue_eq_ok_iff {mode : SkipMode} {p : ParsedTemplate} {args : List Value}
    {nodes : List Node} : bindValue mode p (.list args) = .ok nodes ↔
      p.placeholderCount = args.length ∧ ∃ left, bindNodes mode p.nodes args = .ok (nodes, left) := by
  by_cases hcount : p.placeholderCount = args.length
  · rw [bindValue_list hcount, Outcome.map_eq_ok_iff]
    simp [hcount]
  · have hbind : bindValue mode p (.list args) =
        .error (.countMismatch p.placeholderCount args.length) := if_neg hcount
    simp [hbind, hcount]

/-- Binding a counted template to a list fails by a wrong number of arguments or by a refusal. -/
theorem bindValue_eq_error_iff {mode : SkipMode} {p : ParsedTemplate} {args : List Value}
    (hcounted : p.Counted) {e : BindError} : bindValue mode p (.list args) = .error e ↔
      (p.placeholderCount ≠ args.length ∧ e = .countMismatch p.placeholderCount args.length) ∨
        p.placeholderCount = args.length ∧
          ∃ cause, e = .format cause ∧ ∃ r ∈ p.readings mode args, r.effect = .refused cause := by
  by_cases hcount : p.placeholderCount = args.length
  · have hrun := nodesRun_bindNodes mode 0 p.nodes args
    rw [ParsedTemplate.Counted] at hcounted
    have henough := hrun.ne_outOfArguments (by omega)
    rw [bindValue_list hcount, Outcome.map_eq_error_iff]
    simp only [hcount, ne_eq, not_true_eq_false, false_and, false_or, true_and]
    constructor
    · intro he
      rcases hrun.eq_outOfArguments_or_format he with rfl | ⟨cause, rfl⟩
      · exact (henough he).elim
      · exact ⟨cause, rfl, hrun.eq_format_iff.mp he⟩
    · rintro ⟨cause, rfl, hrefused⟩
      exact hrun.eq_format_iff.mpr hrefused
  · have hbind : bindValue mode p (.list args) =
        .error (.countMismatch p.placeholderCount args.length) := if_neg hcount
    simp [hbind, hcount, eq_comm]

theorem buildQuery_eq_error_iff {mode : SkipMode} {template : Text} {args : Value}
    {e : BuildError} : buildQuery mode template args = .error e ↔
      (∃ fault, parse template = .error fault ∧ e = .malformed fault) ∨
        ∃ p cause, parse template = .ok p ∧ bindValue mode p args = .error cause ∧
          e = .bind cause := by
  rw [buildQuery]
  cases parse template with
  | error fault => simp [eq_comm]
  | ok p =>
    simp only [reduceCtorEq, false_and, exists_false, false_or, Except.ok.injEq]
    cases hbind : bindValue mode p args <;> simp [hbind, eq_comm]

theorem buildQuery_eq_ok_iff {mode : SkipMode} {template : Text} {args : Value} {text : Text} :
    buildQuery mode template args = .ok text ↔ ∃ p nodes, parse template = .ok p ∧
      bindValue mode p args = .ok nodes ∧ text = serialize nodes := by
  rw [buildQuery]
  cases parse template with
  | error fault => simp
  | ok p =>
    simp only [Except.ok.injEq, exists_and_left, exists_eq_left']
    cases bindValue mode p args <;> simp [eq_comm]

/-- The errors outside the family. A query ends with one just when its template parses, the number
of arguments is right, and the argument at which it stops is over a limit. -/
theorem buildQuery_outside_family_iff {mode : SkipMode} {template : Text} {args : List Value}
    {e : BuildError} : buildQuery mode template (.list args) = .error e ∧ e.kind? = none ↔
      ∃ p cause, parse template = .ok p ∧ p.placeholderCount = args.length ∧
        e = .bind (.format cause) ∧ ∃ r ∈ p.readings mode args,
          r.value ∈ args ∧ r.effect = .refused cause ∧ OverLimit r.specifier r.value cause := by
  constructor
  · rintro ⟨hquery, hkind⟩
    rcases buildQuery_eq_error_iff.mp hquery with ⟨fault, -, rfl⟩ | ⟨p, e, hparse, hbind, rfl⟩
    · cases hkind
    · have hcounted := (canonical_of_parse hparse).counted
      rcases (bindValue_eq_error_iff hcounted).mp hbind with
        ⟨-, rfl⟩ | ⟨hcount, cause, rfl, r, hr, heffect⟩
      · cases hkind
      · obtain ⟨hmem, hfails⟩ := (nodesRun_bindNodes mode 0 p.nodes args).faithful r hr
        have hover := escapes_formatValue.mp ⟨hfails cause heffect, hkind⟩
        exact ⟨p, cause, hparse, hcount, rfl, r, hr, hmem, heffect, hover⟩
  · rintro ⟨p, cause, hparse, hcount, rfl, r, hr, -, heffect, hover⟩
    have hcounted := (canonical_of_parse hparse).counted
    have hbind : bindValue mode p (.list args) = .error (.format cause) :=
      (bindValue_eq_error_iff hcounted).mpr (.inr ⟨hcount, cause, rfl, r, hr, heffect⟩)
    exact ⟨buildQuery_eq_error_iff.mpr (.inr ⟨p, _, hparse, hbind, rfl⟩), hover.escapes.2⟩

/-- The least integer that is too large for a double gets out of the family by way of a placeholder
for doubles. -/
theorem buildQuery_outside_family_least :
    buildQuery .leave ['?', 'f'] (.list [.int Double.overflowThreshold]) =
        .error (.bind (.format .integerTooLarge)) ∧
      (BuildError.bind (.format .integerTooLarge)).kind? = none := by
  have hover : OverLimit .double (.int Double.overflowThreshold) .integerTooLarge :=
    .magnitude (Int.natAbs_natCast Double.overflowThreshold).ge
  have hfails := hover.escapes.1
  have hparse : parse ['?', 'f'] = .ok ⟨[.fragment (.placeholder .double)], 1⟩ := rfl
  have hbind : bindValue .leave ⟨[.fragment (.placeholder .double)], 1⟩
      (.list [.int Double.overflowThreshold]) = .error (.format .integerTooLarge) := by
    rw [bindValue_list rfl, BindNodes.step_error hfails]
    rfl
  exact ⟨buildQuery_eq_error_iff.mpr (.inr ⟨_, _, hparse, hbind, rfl⟩), rfl⟩

end SqlTemplate
