import SqlTemplate.Proofs.Binding.Placement
import SqlTemplate.Proofs.Query.Closure
import SqlTemplate.Proofs.Template.Counts

/-! Which of several failures a query ends with. The template is looked at before the arguments,
what holds the arguments before their number, their number before any of them, and then they are
read one after the other up to the first that cannot be written. -/
namespace SqlTemplate

/-! What holds the arguments. -/

/-- A text or bytes, which can be walked over and yet are no list of arguments. -/
def Value.isTextual : Value → Bool
  | .str _ | .bytes .. => true
  | _ => false

theorem argumentsOf_of_isTextual {v : Value} (h : v.isTextual = true) :
    argumentsOf v = .error (.textArguments v.typeName) := by
  cases v with
  | str _ | bytes _ _ => rfl
  | _ => cases h

theorem argumentsOf_of_not_isTextual {v : Value} (h : v.isTextual = false) :
    argumentsOf v =
      match v.iterate? with
      | some items => .ok items
      | none => .error (.notIterable v.qualifiedTypeName) := by
  cases v with
  | str _ | bytes _ _ => cases h
  | _ => rfl

/-- It makes no difference what the arguments are held in. -/
theorem buildQuery_of_argumentsOf {mode : SkipMode} {template : Text} {v : Value}
    {items : List Value} (h : argumentsOf v = .ok items) :
    buildQuery mode template v = buildQuery mode template (.list items) := by
  have hbind : ∀ p, bindValue mode p v = bindValue mode p (.list items) := by
    intro p
    rw [bindValue, h]
    rfl
  rw [buildQuery, buildQuery]
  simp only [hbind]

/-- What cannot be taken apart fails as soon as the template is parsed. -/
theorem buildQuery_of_argumentsOf_error {mode : SkipMode} {template : Text} {v : Value}
    {p : ParsedTemplate} (hparse : parse template = .ok p) {e : BindError}
    (h : argumentsOf v = .error e) : buildQuery mode template v = .error (.bind e) := by
  refine buildQuery_eq_error_iff.mpr (.inr ⟨p, e, hparse, ?_, rfl⟩)
  rw [bindValue, h]
  rfl

/-! A run ends with the first argument that cannot be written. -/

/-- The last reading is refused, and it is the only one. -/
def RefusedLast (cause : FormatError) (readings : List Reading) : Prop :=
  ∃ (earlier : List Reading) (r : Reading), readings = earlier ++ [r] ∧
    r.effect = .refused cause ∧ ∀ x ∈ earlier, ∀ other, x.effect ≠ .refused other

section
variable {mode : SkipMode} {k : Nat} {args : List Value} {readings : List Reading}
  {cause : FormatError}

theorem RefusedLast.singleton {r : Reading} (h : r.effect = .refused cause) :
    RefusedLast cause [r] := ⟨[], r, rfl, h, List.forall_mem_nil _⟩

theorem RefusedLast.append {before : List Reading}
    (hbefore : ∀ x ∈ before, ∀ other, x.effect ≠ .refused other) (h : RefusedLast cause readings) :
    RefusedLast cause (before ++ readings) := by
  obtain ⟨earlier, r, rfl, hr, hearlier⟩ := h
  exact ⟨before ++ earlier, r, by rw [List.append_assoc], hr,
    List.forall_mem_append.mpr ⟨hbefore, hearlier⟩⟩

theorem RefusedLast.cons {x : Reading} (hx : ∀ other, x.effect ≠ .refused other)
    (h : RefusedLast cause readings) : RefusedLast cause (x :: readings) :=
  h.append (List.forall_mem_singleton.mpr hx)

theorem BlockRun.refusedLast {children : List Fragment} {outcome : Except BindError BlockOutcome}
    (h : BlockRun mode k children args readings outcome)
    (hfails : outcome = .error (.format cause)) : RefusedLast cause readings := by
  induction h with
  | done => cases hfails
  | literal _ _ ih => exact ih (Outcome.map_eq_error_iff.mp hfails)
  | outOfArguments => cases hfails
  | dropped => cases hfails
  | refused =>
    cases hfails
    exact .singleton rfl
  | written _ _ _ ih => exact (ih (Outcome.map_eq_error_iff.mp hfails)).cons fun _ => nofun

theorem NodesRun.refusedLast {nodes : List Node}
    {outcome : Except BindError (List Node × List Value)}
    (h : NodesRun mode k nodes args readings outcome)
    (hfails : outcome = .error (.format cause)) : RefusedLast cause readings := by
  induction h with
  | done => cases hfails
  | literal _ _ ih => exact ih (Outcome.map_eq_error_iff.mp hfails)
  | outOfArguments => cases hfails
  | refused =>
    cases hfails
    exact .singleton rfl
  | written _ _ ih => exact (ih (Outcome.map_eq_error_iff.mp hfails)).cons fun _ => nofun
  | failed block =>
    cases hfails
    exact block.refusedLast rfl
  | block block _ ih =>
    refine (ih (Outcome.map_eq_error_iff.mp hfails)).append fun x hx other heffect => ?_
    -- A block that is left behind has not failed, so none of its readings is refused.
    cases block.eq_format_iff.mpr ⟨x, hx, heffect⟩

end

/-- What comes of an argument after which the run goes on: its text is written, or it drops the
block that it is read in. -/
inductive Reading.Passes (nodes : List Node) (r : Reading) : Prop
  | written {text : Text} (writes : formatValue r.specifier r.value = .ok text)
      (effect : r.effect = .written text)
  | dropped {start : Nat} {children : List Fragment}
      (block : (start, .block children) ∈ Node.numbered 0 nodes)
      (placed : r.PlacedInBlock start children) (skips : r.value.needsSkip = true)

theorem Reading.PlacedIn.passes {r : Reading} {nodes : List Node} (h : r.PlacedIn 0 nodes)
    (hgoes : ∀ cause, r.effect ≠ .refused cause) : r.Passes nodes := by
  have hwritten : r.effect = .ofFormat (formatValue r.specifier r.value) → r.Passes nodes := by
    intro heffect
    obtain ⟨text, hformat, hwritten⟩ := Reading.exists_text_of_not_refused heffect hgoes
    exact .written hformat hwritten
  cases h with
  | outside _ effect => exact hwritten effect
  | inBlock block placed =>
    by_cases hskip : r.value.needsSkip = true
    · exact .dropped block placed hskip
    · have heffect := placed.effect
      rw [if_neg hskip] at heffect
      exact hwritten heffect

/-- Binding stops at the argument that it has read last. This one cannot be written for its
placeholder, each one before it has been written or has dropped its block. -/
def ParsedTemplate.StopsAt (p : ParsedTemplate) (mode : SkipMode) (args : List Value)
    (cause : FormatError) : Prop :=
  ∃ (earlier : List Reading) (r : Reading), p.readings mode args = earlier ++ [r] ∧
    r.value ∈ args ∧ r.effect = .refused cause ∧ formatValue r.specifier r.value = .error cause ∧
    ∀ x ∈ earlier, x.Passes p.nodes

theorem ParsedTemplate.stopsAt_iff {p : ParsedTemplate} {mode : SkipMode} {args : List Value}
    {cause : FormatError} : p.StopsAt mode args cause ↔
      ∃ r ∈ p.readings mode args, r.effect = .refused cause := by
  have hrun := nodesRun_bindNodes mode 0 p.nodes args
  constructor
  · rintro ⟨earlier, r, hreadings, -, heffect, -, -⟩
    rw [hreadings]
    exact ⟨r, List.mem_append_right _ List.mem_cons_self, heffect⟩
  · intro hrefused
    obtain ⟨earlier, r, hreadings, heffect, hearlier⟩ :=
      hrun.refusedLast (hrun.eq_format_iff.mpr hrefused)
    have hfaithful := hrun.faithful
    have hplaced := hrun.placed
    rw [hreadings] at hfaithful hplaced
    obtain ⟨hvalue, hfails⟩ := hfaithful r (by simp)
    refine ⟨earlier, r, hreadings, hvalue, heffect, hfails cause heffect, fun x hx => ?_⟩
    exact (hplaced x (List.mem_append_left _ hx)).passes (hearlier x hx)

/-- With a list of arguments it is their number that fails first, then the argument at which binding
stops. -/
theorem buildQuery_list_eq_error_iff {mode : SkipMode} {template : Text} {p : ParsedTemplate}
    (hparse : parse template = .ok p) {items : List Value} {e : BuildError} :
    buildQuery mode template (.list items) = .error e ↔
      (items.length ≠ template.count '?' ∧
        e = .bind (.countMismatch (template.count '?') items.length)) ∨
      (items.length = template.count '?' ∧
        ∃ cause, e = .bind (.format cause) ∧ p.StopsAt mode items cause) := by
  have hcounted := (canonical_of_parse hparse).counted
  have hcount := placeholderCount_eq_count hparse
  rw [buildQuery_eq_error_iff]
  constructor
  · rintro (⟨fault, hfault, -⟩ | ⟨q, cause, hq, hbind, rfl⟩)
    · cases hparse.symm.trans hfault
    · obtain rfl := Except.ok.inj (hparse.symm.trans hq)
      rcases (bindValue_eq_error_iff hcounted).mp hbind with ⟨hne, rfl⟩ | ⟨heq, cause, rfl, hstops⟩
      · exact .inl ⟨by omega, by rw [hcount]⟩
      · exact .inr ⟨by omega, cause, rfl, p.stopsAt_iff.mpr hstops⟩
  · rintro (⟨hne, rfl⟩ | ⟨heq, cause, rfl, hstops⟩)
    · refine .inr ⟨p, _, hparse, (bindValue_eq_error_iff hcounted).mpr (.inl ?_), rfl⟩
      exact ⟨by omega, by rw [hcount]⟩
    · refine .inr ⟨p, _, hparse, (bindValue_eq_error_iff hcounted).mpr (.inr ?_), rfl⟩
      exact ⟨by omega, cause, rfl, p.stopsAt_iff.mp hstops⟩

/-- The order of failures. A malformed template is refused whatever the arguments are held in; then
texts, bytes and what cannot be walked over are; then a number of arguments that is not the number
of question marks, whatever the arguments are. Only with the right number of arguments can one of
them be refused, and it is the first that binding reads and cannot write. -/
theorem buildQuery_failures_ordered (mode : SkipMode) (template : Text) (args : Value) :
    (∀ fault, parse template = .error fault →
      buildQuery mode template args = .error (.malformed fault)) ∧
    ∀ p, parse template = .ok p →
      (args.isTextual = true →
        buildQuery mode template args = .error (.bind (.textArguments args.typeName))) ∧
      (args.isTextual = false → args.iterate? = none →
        buildQuery mode template args = .error (.bind (.notIterable args.qualifiedTypeName))) ∧
      ∀ items, args.isTextual = false → args.iterate? = some items →
        (items.length ≠ template.count '?' → buildQuery mode template args =
          .error (.bind (.countMismatch (template.count '?') items.length))) ∧
        (items.length = template.count '?' → ∀ e, buildQuery mode template args = .error e ↔
          ∃ cause, e = .bind (.format cause) ∧ p.StopsAt mode items cause) := by
  constructor
  · intro fault hfault
    exact buildQuery_eq_error_iff.mpr (.inl ⟨fault, hfault, rfl⟩)
  · intro p hparse
    refine ⟨?_, ?_, ?_⟩
    · intro htext
      exact buildQuery_of_argumentsOf_error hparse (argumentsOf_of_isTextual htext)
    · intro htext hnone
      refine buildQuery_of_argumentsOf_error hparse ?_
      rw [argumentsOf_of_not_isTextual htext, hnone]
    · intro items htext hitems
      have hlist : argumentsOf args = .ok items := by
        rw [argumentsOf_of_not_isTextual htext, hitems]
      rw [buildQuery_of_argumentsOf hlist]
      constructor
      · intro hne
        exact (buildQuery_list_eq_error_iff hparse).mpr (.inl ⟨hne, rfl⟩)
      · intro heq e
        rw [buildQuery_list_eq_error_iff hparse]
        simp only [heq, ne_eq, not_true_eq_false, false_and, true_and, false_or]

/-- The same template with arguments that fail in each way, and one that is malformed as well. The
mark drops its block in the mode that leaves the arguments after it, so the array placeholder reads
a value that the block did not get to. -/
theorem buildQuery_failures_ordered_levels :
    buildQuery .leave ['{', '{'] (.str ['a']) = .error (.malformed ⟨.nestedBlock, 1⟩) ∧
    buildQuery .leave ['{', '?', '?', '}', '?', 'a'] (.str ['a']) =
      .error (.bind (.textArguments "str")) ∧
    buildQuery .leave ['{', '?', '?', '}', '?', 'a'] (.int 1) =
      .error (.bind (.notIterable "int")) ∧
    buildQuery .leave ['{', '?', '?', '}', '?', 'a'] (.list [.skip, .set []]) =
      .error (.bind (.countMismatch 3 2)) ∧
    ∃ p, parse ['{', '?', '?', '}', '?', 'a'] = .ok p ∧
      p.StopsAt .leave [.skip, .bool true, .set []] (.notContainer "bool") := by
  have hmalformed : parse ['{', '{'] = .error ⟨.nestedBlock, 1⟩ := rfl
  have hparse : parse ['{', '?', '?', '}', '?', 'a'] = .ok
      ⟨[.block [.placeholder .plain, .placeholder .plain], .fragment (.placeholder .array)], 3⟩ :=
    rfl
  have hordered := fun args =>
    (buildQuery_failures_ordered .leave ['{', '?', '?', '}', '?', 'a'] args).2 _ hparse
  refine ⟨(buildQuery_failures_ordered .leave ['{', '{'] (.str ['a'])).1 _ hmalformed,
    (hordered (.str ['a'])).1 rfl, (hordered (.int 1)).2.1 rfl rfl,
    ((hordered (.list [.skip, .set []])).2.2 _ rfl rfl).1 (by decide), _, hparse, ?_⟩
  have hstops := ((hordered (.list [.skip, .bool true, .set []])).2.2 _ rfl rfl).2 rfl
    (.bind (.format (.notContainer "bool")))
  obtain ⟨cause, hcause, hstops⟩ := hstops.mp rfl
  cases hcause
  exact hstops

end SqlTemplate
