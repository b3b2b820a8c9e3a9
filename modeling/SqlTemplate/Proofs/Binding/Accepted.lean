import SqlTemplate.Proofs.Binding.Refusal
import SqlTemplate.Proofs.Double.Integer

/-! What each placeholder takes, told without the text that it writes, and why it refuses the
rest. -/
namespace SqlTemplate

/-! What can be written, by the kinds of values. -/

/-- The decimal text of the integer keeps within the limit. -/
def Short (i : Int) : Prop := (Numeral.digits i.natAbs).length ≤ Numeral.digitLimit

/-- A value that is written as one word. -/
inductive Renderable : Value → Prop
  | null : Renderable .null
  | bool (b : Bool) : Renderable (.bool b)
  | int {i : Int} (short : Short i) : Renderable (.int i)
  | double {d : Double} (finite : d.isFinite = true) : Renderable (.double d)
  | str (text : Text) : Renderable (.str text)

/-- A value that may name an entry: a boolean is no integer here. -/
inductive NamesEntry : Value → Prop
  | int {i : Int} (short : Short i) : NamesEntry (.int i)
  | str (text : Text) : NamesEntry (.str text)

/-- A container of which each part can be written. -/
inductive Listed : Value → Prop
  | sequence {kind : SequenceKind} {items : List Value} (each : ∀ x ∈ items, Renderable x) :
    Listed (.sequence kind items)
  | range {start stop step : Int} (each : ∀ i ∈ Value.rangeItems start stop step, Short i) :
    Listed (.range start stop step)
  | mapping {kind : MappingKind} {entries : List (Value × Value)}
    (names : ∀ e ∈ entries, NamesEntry e.1) (each : ∀ e ∈ entries, Renderable e.2) :
    Listed (.mapping kind entries)

/-- No number stands in front of the text, or one whose nearest double is finite. -/
def Bounded (text : Text) : Prop := ∀ n ∈ Numeral.leading? text, n.toDouble.isFinite = true

/-- A value with a whole part that can be written. -/
inductive CastsToInteger : Value → Prop
  | null : CastsToInteger .null
  | bool (b : Bool) : CastsToInteger (.bool b)
  | int {i : Int} (short : Short i) : CastsToInteger (.int i)
  | double {d : Double} (finite : d.isFinite = true) : CastsToInteger (.double d)
  | integer {text sign digits : Text} (front : Numeral.leadingInteger? text = some (sign, digits))
    (short : digits.length ≤ Numeral.digitLimit) : CastsToInteger (.str text)
  | other {text : Text} (front : Numeral.leadingInteger? text = none) (bounded : Bounded text) :
    CastsToInteger (.str text)

/-- A value with a finite double. -/
inductive CastsToDouble : Value → Prop
  | null : CastsToDouble .null
  | bool (b : Bool) : CastsToDouble (.bool b)
  | int {i : Int} (small : i.natAbs < Double.overflowThreshold) : CastsToDouble (.int i)
  | double {d : Double} (finite : d.isFinite = true) : CastsToDouble (.double d)
  | str {text : Text} (bounded : Bounded text) : CastsToDouble (.str text)

/-- The values that a placeholder takes. -/
def Accepts : Specifier → Value → Prop
  | .plain, v => Renderable v
  | .int, v => CastsToInteger v
  | .double, v => CastsToDouble v
  | .array, v => Listed v
  | .identifier, v => Renderable v ∨ Listed v

/-! What is written, part by part. -/

section
variable {v : Value}

theorem exists_intText_ok_iff {i : Int} : (∃ text, intText i = .ok text) ↔ Short i := by
  rw [intText, Numeral.ofInt?]
  by_cases hshort : (Numeral.digits i.natAbs).length ≤ Numeral.digitLimit
  · simp [Short, hshort]
  · simp [Short, hshort]

theorem exists_doubleText_ok_iff {d : Double} :
    (∃ text, doubleText d = .ok text) ↔ d.isFinite = true := by
  rw [doubleText]
  cases d.isFinite with
  | false => simp
  | true =>
    cases d.toInt? <;> simp

theorem exists_scalarText_ok_iff : (∃ text, scalarText v = .ok text) ↔ Renderable v := by
  constructor
  · rintro ⟨text, h⟩
    cases v with
    | null => exact .null
    | bool b => exact .bool b
    | int i => exact .int (exists_intText_ok_iff.mp ⟨text, h⟩)
    | double d => exact .double (exists_doubleText_ok_iff.mp ⟨text, h⟩)
    | str text => exact .str text
    | sequence | range | mapping | skip | bytes | set | foreign => cases h
  · rintro (_ | b | hshort | hfinite | text)
    · exact ⟨_, rfl⟩
    · exact ⟨_, rfl⟩
    · exact exists_intText_ok_iff.mpr hshort
    · exact exists_doubleText_ok_iff.mpr hfinite
    · exact ⟨_, rfl⟩

theorem exists_keyText_ok_iff : (∃ text, keyText v = .ok text) ↔ NamesEntry v := by
  constructor
  · rintro ⟨text, h⟩
    cases v with
    | int i => exact .int (exists_intText_ok_iff.mp ⟨text, h⟩)
    | str text => exact .str text
    | null | bool | double | sequence | range | mapping | skip | bytes | set | foreign => cases h
  · rintro (hshort | text)
    · exact exists_intText_ok_iff.mpr hshort
    · exact ⟨_, rfl⟩

theorem exists_entryText_ok_iff {entry : Value × Value} :
    (∃ text, entryText entry = .ok text) ↔ NamesEntry entry.1 ∧ Renderable entry.2 := by
  rw [← exists_keyText_ok_iff, ← exists_scalarText_ok_iff,
    ← @exists_quoteScalar_ok_iff _ dataQuote, entryText]
  cases keyText entry.1 with
  | error e => simp
  | ok key => cases quoteScalar dataQuote entry.2 <;> simp [pure, Except.pure]

theorem exists_map_ok_iff {α β : Type} {x : Except FormatError α} {f : α → β} :
    (∃ b, f <$> x = .ok b) ↔ ∃ a, x = .ok a := by
  cases x <;> simp

theorem exists_expand_ok_iff {quote : Text} (h : (v.isSequence || v.isMapping) = true) :
    (∃ text, expand quote v = .ok text) ↔ Listed v := by
  have hsequence {items : List Value} (hitems : v.sequence? = some items) :
      (∃ text, expand quote v = .ok text) ↔ ∀ x ∈ items, Renderable x := by
    simp only [expand_of_sequence hitems, exists_map_ok_iff, Outcome.exists_mapM_ok_iff,
      exists_quoteScalar_ok_iff, exists_scalarText_ok_iff]
  cases v with
  | sequence kind items =>
    rw [hsequence rfl]
    exact ⟨.sequence, fun | .sequence each => each⟩
  | range start stop step =>
    rw [hsequence rfl, List.forall_mem_map]
    constructor
    · intro each
      refine .range fun i hi => ?_
      cases each i hi with
      | int short => exact short
    · intro hlisted i hi
      cases hlisted with
      | range each => exact .int (each i hi)
  | mapping kind entries =>
    have hentries := @expand_of_mapping (.mapping kind entries) quote entries rfl
    simp only [hentries, exists_map_ok_iff, Outcome.exists_mapM_ok_iff, exists_entryText_ok_iff]
    constructor
    · intro each
      exact .mapping (fun e he => (each e he).1) fun e he => (each e he).2
    · intro hlisted e he
      cases hlisted with
      | mapping names each => exact ⟨names e he, each e he⟩
  | null | bool | int | double | str | skip | bytes | set | foreign => cases h

theorem Listed.isContainer (h : Listed v) : (v.isSequence || v.isMapping) = true := by
  cases h <;> rfl

theorem isFinite_leadingDouble {text : Text} :
    (Numeral.leadingDouble text).isFinite = true ↔ Bounded text := by
  rw [Numeral.leadingDouble, Bounded]
  cases Numeral.leading? text with
  | none => simp [Double.isFinite, Double.zero]
  | some n => simp

theorem isFinite_one : (Double.ofDecimal false 1 0).isFinite = true := by
  obtain ⟨k, hk, -⟩ := Double.exists_toInt?_ofDecimal (@Double.lt_overflowThreshold 1 (by decide)) false
  exact Double.isFinite_of_toInt? hk

/-- An integer that is too large for a double fails there, and any other has a finite one. -/
theorem exists_toDouble_int_bind_ok_iff {i : Int} :
    (∃ text, (toDouble (.int i) >>= doubleText) = .ok text) ↔
      i.natAbs < Double.overflowThreshold := by
  rw [← Nat.not_le, ← Double.ofInt?_eq_none_iff, toDouble]
  cases hi : Double.ofInt? i with
  | none => simp
  | some d => simpa using exists_doubleText_ok_iff.mpr (Double.isFinite_of_ofInt? hi)

theorem exists_toDouble_bind_ok_iff :
    (∃ text, (toDouble v >>= doubleText) = .ok text) ↔ CastsToDouble v := by
  have hbind (d : Double) (hd : toDouble v = .ok d) :
      (∃ text, (toDouble v >>= doubleText) = .ok text) ↔ d.isFinite = true := by
    rw [hd, Outcome.ok_bind, exists_doubleText_ok_iff]
  cases v with
  | null => exact (hbind .zero rfl).trans ⟨fun _ => .null, fun _ => rfl⟩
  | bool b =>
    refine (hbind _ rfl).trans ⟨fun _ => .bool b, fun _ => ?_⟩
    cases b with
    | false => rfl
    | true =>
      rw [if_pos rfl]
      exact isFinite_one
  | int i =>
    rw [exists_toDouble_int_bind_ok_iff]
    refine ⟨.int, fun hcasts => ?_⟩
    cases hcasts with
    | int small => exact small
  | double d =>
    refine (hbind d rfl).trans ⟨.double, fun hcasts => ?_⟩
    cases hcasts with
    | double finite => exact finite
  | str text =>
    rw [hbind _ rfl, isFinite_leadingDouble]
    refine ⟨.str, fun hcasts => ?_⟩
    cases hcasts with
    | str bounded => exact bounded
  | sequence | range | mapping | skip | bytes | set | foreign =>
    constructor
    · rintro ⟨text, ⟨⟩⟩
    · rintro ⟨⟩

theorem exists_castDouble_bind_ok_iff {d : Double} :
    (∃ text, (castDouble d >>= intText) = .ok text) ↔ d.isFinite = true := by
  cases d with
  | nan => exact ⟨nofun, nofun⟩
  | infinite negative => exact ⟨nofun, nofun⟩
  | finite negative m h =>
    refine ⟨fun _ => rfl, fun _ => ?_⟩
    obtain ⟨i, hi⟩ : ∃ i, castDouble (.finite negative m h) = .ok i := by
      cases negative <;> exact ⟨_, rfl⟩
    rw [hi, Outcome.ok_bind]
    exact ⟨_, intText_of_lt (natAbs_lt_of_castDouble hi)⟩

theorem exists_toInt_str_bind_ok_iff {text : Text} :
    (∃ written, (toInt (.str text) >>= intText) = .ok written) ↔ CastsToInteger (.str text) := by
  rw [toInt]
  cases hfront : Numeral.leadingInteger? text with
  | some front =>
    obtain ⟨sign, digits⟩ := front
    by_cases hshort : digits.length ≤ Numeral.digitLimit
    · simp only [hshort, ↓reduceIte, Outcome.ok_bind]
      have hwritten := intText_of_lt (@Numeral.natAbs_signed_lt sign digits hshort)
      exact ⟨fun _ => .integer hfront hshort, fun _ => ⟨_, hwritten⟩⟩
    · simp only [hshort, ↓reduceIte, Outcome.error_bind]
      constructor
      · rintro ⟨written, ⟨⟩⟩
      · rintro (_ | _ | _ | _ | ⟨hagain, hagainShort⟩ | ⟨hother, -⟩)
        · cases hfront.symm.trans hagain
          exact (hshort hagainShort).elim
        · cases hfront.symm.trans hother
  | none =>
    rw [exists_castDouble_bind_ok_iff, isFinite_leadingDouble]
    refine ⟨.other hfront, ?_⟩
    rintro (_ | _ | _ | _ | ⟨hagain, -⟩ | ⟨-, hbounded⟩)
    · cases hfront.symm.trans hagain
    · exact hbounded

theorem exists_toInt_bind_ok_iff (h : v ≠ .null) :
    (∃ text, (toInt v >>= intText) = .ok text) ↔ CastsToInteger v := by
  cases v with
  | null => exact (h rfl).elim
  | bool b =>
    refine ⟨fun _ => .bool b, fun _ => ?_⟩
    cases b <;> exact ⟨_, rfl⟩
  | int i =>
    refine exists_intText_ok_iff.trans ⟨.int, fun hcasts => ?_⟩
    cases hcasts with
    | int short => exact short
  | double d =>
    refine exists_castDouble_bind_ok_iff.trans ⟨.double, fun hcasts => ?_⟩
    cases hcasts with
    | double finite => exact finite
  | str text => exact exists_toInt_str_bind_ok_iff
  | sequence | range | mapping | skip | bytes | set | foreign =>
    constructor
    · rintro ⟨text, ⟨⟩⟩
    · rintro ⟨⟩

end

/-- A placeholder writes the values that it takes, and no others. -/
theorem exists_formatValue_ok_iff {s : Specifier} {v : Value} :
    (∃ text, formatValue s v = .ok text) ↔ Accepts s v := by
  cases s with
  | plain => exact exists_quoteScalar_ok_iff.trans exists_scalarText_ok_iff
  | int =>
    by_cases hnull : v = .null
    · subst hnull
      exact ⟨fun _ => .null, fun _ => ⟨_, rfl⟩⟩
    · rw [formatValue_int hnull]
      exact exists_toInt_bind_ok_iff hnull
  | double => exact exists_toDouble_bind_ok_iff
  | array =>
    by_cases hcontainer : (v.isSequence || v.isMapping) = true
    · rw [formatValue, if_pos hcontainer]
      exact exists_expand_ok_iff hcontainer
    · rw [formatValue, if_neg hcontainer]
      constructor
      · rintro ⟨text, ⟨⟩⟩
      · intro hlisted
        exact (hcontainer hlisted.isContainer).elim
  | identifier =>
    by_cases hcontainer : (v.isSequence || v.isMapping) = true
    · have hword : ¬ Renderable v := by
        intro hrenderable
        cases hrenderable <;> cases hcontainer
      rw [formatValue, if_pos hcontainer, exists_expand_ok_iff hcontainer]
      simp [Accepts, hword]
    · have hlisted : ¬ Listed v := fun hlisted => hcontainer hlisted.isContainer
      rw [formatValue, if_neg hcontainer, exists_map_ok_iff, exists_scalarText_ok_iff]
      simp [Accepts, hlisted]

/-- Why a placeholder refuses an argument: an array placeholder has an error of its own for what is
no container, and a conversion over its limit fails in its own way. All else is unsupported. -/
inductive RefusedFor (s : Specifier) (v : Value) : FormatError → Prop
  | notContainer (array : s = .array) (other : (v.isSequence || v.isMapping) = false) :
    RefusedFor s v (.notContainer v.typeName)
  | overLimit {cause : FormatError} (exceeds : OverLimit s v cause) : RefusedFor s v cause
  | unsupported {cause : FormatError} (kind : cause.kind? = some .unsupportedArgument)
    (container : s = .array → (v.isSequence || v.isMapping) = true)
    (within : ∀ other, ¬ OverLimit s v other) : RefusedFor s v cause

theorem refusedFor_of_error {s : Specifier} {v : Value} {cause : FormatError}
    (h : formatValue s v = .error cause) : RefusedFor s v cause := by
  rcases refused_cases h with ⟨rfl, hother, rfl⟩ | hkind | hover
  · exact .notContainer rfl hother
  · refine .unsupported hkind ?_ ?_
    · rintro rfl
      by_contra hcontainer
      rw [formatValue, if_neg hcontainer] at h
      cases h
      cases hkind
    · intro other hover
      obtain ⟨hother, hnone⟩ := hover.escapes
      cases h.symm.trans hother
      cases hkind.symm.trans hnone
  · exact .overLimit hover

/-- Which values a placeholder takes, and how it refuses the others. -/
theorem formatValue_accepts (s : Specifier) (v : Value) :
    ((∃ text, formatValue s v = .ok text) ↔ Accepts s v) ∧
      ((∃ cause, formatValue s v = .error cause ∧ RefusedFor s v cause) ↔ ¬ Accepts s v) := by
  rw [← exists_formatValue_ok_iff]
  refine ⟨Iff.rfl, ?_⟩
  cases hformat : formatValue s v with
  | ok text => simp
  | error cause => simpa using refusedFor_of_error hformat

end SqlTemplate
