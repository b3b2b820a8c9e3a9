import SqlTemplate.Binding.Format
import SqlTemplate.Proofs.Double.Overflow
import SqlTemplate.Proofs.Numeral.Limit
import SqlTemplate.Proofs.Outcome

/-! The arguments whose formatting fails with an error outside the family. They all hold an integer,
or the digits of one, beyond the limit of a conversion. -/
namespace SqlTemplate

/-- The outcome is an error that is none of those that the library itself defines. -/
def Escapes {α : Type} (x : Except FormatError α) (cause : FormatError) : Prop :=
  x = .error cause ∧ cause.kind? = none

section
variable {α β : Type} {x : Except FormatError α} {cause : FormatError}

@[simp] theorem not_escapes_ok {a : α} : ¬ Escapes (.ok a) cause := nofun

@[simp] theorem escapes_error {e : FormatError} :
    Escapes (.error e : Except FormatError α) cause ↔ cause = e ∧ e.kind? = none := by
  constructor
  · rintro ⟨⟨⟩, hkind⟩
    exact ⟨rfl, hkind⟩
  · rintro ⟨rfl, hkind⟩
    exact ⟨rfl, hkind⟩

@[simp] theorem escapes_map {f : α → β} : Escapes (f <$> x) cause ↔ Escapes x cause := by
  rw [Escapes, Escapes, Outcome.map_eq_error_iff]

theorem escapes_bind {next : α → Except FormatError β} : Escapes (x >>= next) cause ↔
    Escapes x cause ∨ ∃ a, x = .ok a ∧ Escapes (next a) cause := by
  simp only [Escapes, Outcome.bind_eq_error_iff, or_and_right, ← exists_and_right, and_assoc]

theorem escapes_mapM {step : α → Except FormatError β} {xs : List α} :
    Escapes (xs.mapM step) cause ↔ ∃ before x after, xs = before ++ x :: after ∧
      (∀ y ∈ before, ∃ b, step y = .ok b) ∧ Escapes (step x) cause := by
  simp only [Escapes, Outcome.mapM_eq_error_iff, ← exists_and_right, and_assoc]

end

/-! A refusal is in the family, and so is the failure of a double. Only integers get out of it. -/

section
variable {cause : FormatError} {v : Value}

theorem kind_reject (v : Value) : (reject v).kind? = some .unsupportedArgument := by
  cases v <;> rfl

theorem not_escapes_doubleText {d : Double} : ¬ Escapes (doubleText d) cause := by
  rw [doubleText]
  split_ifs
  · split <;> exact not_escapes_ok
  · simp [FormatError.kind?]

theorem not_escapes_castDouble {d : Double} : ¬ Escapes (castDouble d) cause := by
  rw [castDouble]
  split
  · exact not_escapes_ok
  · simp [FormatError.kind?]

theorem escapes_intText {i : Int} : Escapes (intText i) cause ↔
    10 ^ Numeral.digitLimit ≤ i.natAbs ∧ cause = .integerTooLong := by
  rw [← Numeral.ofInt?_eq_none_iff, intText]
  cases Numeral.ofInt? i <;> simp [FormatError.kind?]

theorem intText_of_lt {i : Int} (h : i.natAbs < 10 ^ Numeral.digitLimit) :
    intText i = .ok (Numeral.ofInt i) := by
  rw [intText]
  cases hi : Numeral.ofInt? i with
  | none => exact (Nat.not_le.mpr h (Numeral.ofInt?_eq_none_iff.mp hi)).elim
  | some text => rw [Numeral.ofInt?_eq_some hi]

theorem escapes_scalarText : Escapes (scalarText v) cause ↔
    ∃ i, v = .int i ∧ 10 ^ Numeral.digitLimit ≤ i.natAbs ∧ cause = .integerTooLong := by
  match v with
  | .int i => simp [scalarText, escapes_intText]
  | .double d => simp [scalarText, not_escapes_doubleText]
  | .null | .bool _ | .str _ => simp [scalarText]
  | .sequence .. | .range .. | .mapping .. | .skip | .bytes .. | .set _ | .foreign .. =>
    simp [scalarText, kind_reject]

theorem escapes_quoteScalar {quote : Text} :
    Escapes (quoteScalar quote v) cause ↔ Escapes (scalarText v) cause := by
  cases v <;> simp [quoteScalar, scalarText]

theorem exists_quoteScalar_ok_iff {quote : Text} :
    (∃ text, quoteScalar quote v = .ok text) ↔ ∃ text, scalarText v = .ok text := by
  cases v <;> simp [quoteScalar, scalarText]

theorem escapes_keyText : Escapes (keyText v) cause ↔
    ∃ i, v = .int i ∧ 10 ^ Numeral.digitLimit ≤ i.natAbs ∧ cause = .integerTooLong := by
  match v with
  | .int i => simp [keyText, escapes_intText]
  | .str _ => simp [keyText]
  | .null | .bool _ | .double _ | .sequence .. | .range .. | .mapping .. | .skip | .bytes ..
  | .set _ | .foreign .. => simp [keyText, FormatError.kind?]

theorem escapes_entryText {key value : Value} : Escapes (entryText (key, value)) cause ↔
    Escapes (keyText key) cause ∨
      (∃ text, keyText key = .ok text) ∧ Escapes (scalarText value) cause := by
  simp only [entryText, escapes_bind, escapes_quoteScalar, ← exists_and_right]
  simp [pure, Except.pure]

theorem escapes_toDouble : Escapes (toDouble v) cause ↔
    ∃ i, v = .int i ∧ Double.overflowThreshold ≤ i.natAbs ∧ cause = .integerTooLarge := by
  match v with
  | .int i =>
    simp only [toDouble, Value.int.injEq, exists_eq_left', ← Double.ofInt?_eq_none_iff]
    cases Double.ofInt? i <;> simp [FormatError.kind?]
  | .null | .bool _ | .str _ | .double _ => simp [toDouble]
  | .sequence .. | .range .. | .mapping .. | .skip | .bytes .. | .set _ | .foreign .. =>
    simp [toDouble, kind_reject]

/-- Only a text can fail so on the way to an integer: an integer is taken as it is. -/
theorem escapes_toInt : Escapes (toInt v) cause ↔ ∃ text sign digits, v = .str text ∧
    Numeral.leadingInteger? text = some (sign, digits) ∧
      Numeral.digitLimit < digits.length ∧ cause = .numeralTooLong digits.length := by
  -- The way by a double is safe here, since an integer, which could be too large, never takes it.
  have hdouble (w : Value) (hw : ∀ i, w ≠ .int i) :
      ¬ Escapes (toDouble w >>= castDouble) cause := by
    simp [escapes_bind, escapes_toDouble, not_escapes_castDouble, hw]
  match v with
  | .bool _ | .int _ => simp [toInt]
  | .str text =>
    rw [toInt]
    match hleading : Numeral.leadingInteger? text with
    | some (sign, digits) =>
      by_cases hshort : digits.length ≤ Numeral.digitLimit
      · simp [hleading, hshort, Nat.not_lt.mpr hshort]
      · rw [Nat.not_le] at hshort
        simp only [Nat.not_le.mpr hshort, ↓reduceIte, escapes_error, FormatError.kind?, and_true,
          Value.str.injEq]
        constructor
        · intro hcause
          exact ⟨text, sign, digits, rfl, hleading, hshort, hcause⟩
        · rintro ⟨_, _, _, rfl, hagain, _, hcause⟩
          cases hleading.symm.trans hagain
          exact hcause
    | none => simp [hleading, not_escapes_castDouble]
  | .null | .double _ | .sequence .. | .range .. | .mapping .. | .skip | .bytes ..
  | .set _ | .foreign .. => simp [toInt, hdouble]

theorem natAbs_lt_of_castDouble {d : Double} {i : Int} (h : castDouble d = .ok i) :
    i.natAbs < 10 ^ Numeral.digitLimit := by
  rw [castDouble] at h
  cases htruncate : d.truncate? with
  | some whole =>
    rw [htruncate] at h
    cases h
    exact Double.natAbs_truncate?_lt htruncate
  | none =>
    rw [htruncate] at h
    cases h

/-- What becomes an integer is that integer itself, or it becomes one within the limit. -/
theorem eq_int_or_natAbs_lt_of_toInt {i : Int} (h : toInt v = .ok i) :
    v = .int i ∨ i.natAbs < 10 ^ Numeral.digitLimit := by
  have hdouble (w : Value) (hw : (toDouble w >>= castDouble) = .ok i) :
      i.natAbs < 10 ^ Numeral.digitLimit := by
    cases hd : toDouble w with
    | error e => simp [hd] at hw
    | ok d =>
      rw [hd, Outcome.ok_bind] at hw
      exact natAbs_lt_of_castDouble hw
  match v with
  | .int _ =>
    cases h
    exact .inl rfl
  | .bool b =>
    cases h
    have hdigit : (if b then 1 else 0 : Int).natAbs < 10 ^ 1 := by cases b <;> decide
    exact .inr (Nat.lt_of_lt_of_le hdigit (Nat.pow_le_pow_right (by decide) (by decide)))
  | .str text =>
    rw [toInt] at h
    match hleading : Numeral.leadingInteger? text with
    | some (sign, digits) =>
      by_cases hshort : digits.length ≤ Numeral.digitLimit
      · simp only [hleading, hshort, ↓reduceIte, Except.ok.injEq] at h
        rw [← h]
        exact .inr (Numeral.natAbs_signed_lt hshort)
      · simp [hleading, hshort] at h
    | none =>
      rw [hleading] at h
      exact .inr (natAbs_lt_of_castDouble h)
  | .null | .double _ | .sequence .. | .range .. | .mapping .. | .skip | .bytes ..
  | .set _ | .foreign .. => exact .inr (hdouble _ h)

/-- Only an integer itself is too long once it is an integer. -/
theorem escapes_toInt_intText : Escapes (toInt v >>= intText) cause ↔
    Escapes (toInt v) cause ∨ Escapes (scalarText v) cause := by
  rw [escapes_bind, escapes_scalarText]
  refine or_congr_right ⟨?_, ?_⟩
  · rintro ⟨i, hi, hescapes⟩
    obtain ⟨hlong, rfl⟩ := escapes_intText.mp hescapes
    rcases eq_int_or_natAbs_lt_of_toInt hi with rfl | hshort
    · exact ⟨i, rfl, hlong, rfl⟩
    · exact (Nat.not_lt.mpr hlong hshort).elim
  · rintro ⟨i, rfl, hlong, rfl⟩
    exact ⟨i, rfl, escapes_intText.mpr ⟨hlong, rfl⟩⟩

end

/-! Containers fail as the first of their parts that fails. -/

/-- A container with an integer that is too long among its items, keys or values, with nothing
before it that fails. -/
inductive HoldsLongInteger (v : Value) : Prop
  | item {before after : List Value} {i : Int}
      (items : v.sequence? = some (before ++ .int i :: after))
      (written : ∀ x ∈ before, ∃ text, scalarText x = .ok text)
      (long : 10 ^ Numeral.digitLimit ≤ i.natAbs)
  | key {before after : List (Value × Value)} {i : Int} {value : Value}
      (entries : v.mapping? = some (before ++ (.int i, value) :: after))
      (written : ∀ entry ∈ before, ∃ text, entryText entry = .ok text)
      (long : 10 ^ Numeral.digitLimit ≤ i.natAbs)
  | value {before after : List (Value × Value)} {key : Value} {i : Int}
      (entries : v.mapping? = some (before ++ (key, .int i) :: after))
      (written : ∀ entry ∈ before, ∃ text, entryText entry = .ok text)
      (keyWritten : ∃ text, keyText key = .ok text)
      (long : 10 ^ Numeral.digitLimit ≤ i.natAbs)

section
variable {cause : FormatError} {v : Value} {quote : Text}

theorem expand_of_sequence {items : List Value} (h : v.sequence? = some items) :
    expand quote v = Text.join separator <$> items.mapM (quoteScalar quote) := by
  cases v <;> cases h <;> rfl

theorem expand_of_mapping {entries : List (Value × Value)} (h : v.mapping? = some entries) :
    expand quote v = Text.join separator <$> entries.mapM entryText := by
  cases v <;> cases h
  rfl

theorem Value.mapping?_of_sequence {items : List Value} (h : v.sequence? = some items) :
    v.mapping? = none := by
  cases v <;> first | rfl | cases h

theorem escapes_expand_of_sequence {items : List Value} (hitems : v.sequence? = some items) :
    Escapes (expand quote v) cause ↔ HoldsLongInteger v ∧ cause = .integerTooLong := by
  have hmapping := Value.mapping?_of_sequence hitems
  rw [expand_of_sequence hitems, escapes_map, escapes_mapM]
  simp only [escapes_quoteScalar, escapes_scalarText, exists_quoteScalar_ok_iff]
  constructor
  · rintro ⟨before, x, after, rfl, hwritten, i, rfl, hlong, rfl⟩
    exact ⟨.item hitems hwritten hlong, rfl⟩
  · rintro ⟨hholds, rfl⟩
    cases hholds with
    | item again hwritten hlong =>
      cases hitems.symm.trans again
      exact ⟨_, _, _, rfl, hwritten, _, rfl, hlong, rfl⟩
    | key entries => cases hmapping.symm.trans entries
    | value entries => cases hmapping.symm.trans entries

theorem escapes_expand_of_mapping {entries : List (Value × Value)}
    (hentries : v.mapping? = some entries) :
    Escapes (expand quote v) cause ↔ HoldsLongInteger v ∧ cause = .integerTooLong := by
  rw [expand_of_mapping hentries, escapes_map, escapes_mapM]
  constructor
  · rintro ⟨before, ⟨key, value⟩, after, rfl, hwritten, hescapes⟩
    rcases escapes_entryText.mp hescapes with hkey | ⟨hkey, hvalue⟩
    · obtain ⟨i, rfl, hlong, rfl⟩ := escapes_keyText.mp hkey
      exact ⟨.key hentries hwritten hlong, rfl⟩
    · obtain ⟨i, rfl, hlong, rfl⟩ := escapes_scalarText.mp hvalue
      exact ⟨.value hentries hwritten hkey hlong, rfl⟩
  · rintro ⟨hholds, rfl⟩
    cases hholds with
    | item items => cases (Value.mapping?_of_sequence items).symm.trans hentries
    | key again hwritten hlong =>
      cases hentries.symm.trans again
      have hescapes := escapes_keyText.mpr ⟨_, rfl, hlong, rfl⟩
      exact ⟨_, _, _, rfl, hwritten, escapes_entryText.mpr (.inl hescapes)⟩
    | value again hwritten hkey hlong =>
      cases hentries.symm.trans again
      have hescapes := escapes_scalarText.mpr ⟨_, rfl, hlong, rfl⟩
      exact ⟨_, _, _, rfl, hwritten, escapes_entryText.mpr (.inr ⟨hkey, hescapes⟩)⟩

theorem escapes_expand (h : (v.isSequence || v.isMapping) = true) :
    Escapes (expand quote v) cause ↔ HoldsLongInteger v ∧ cause = .integerTooLong := by
  rcases Bool.or_eq_true_iff.mp h with hsequence | hmapping
  · obtain ⟨items, hitems⟩ := Option.isSome_iff_exists.mp hsequence
    exact escapes_expand_of_sequence hitems
  · obtain ⟨entries, hentries⟩ := Option.isSome_iff_exists.mp hmapping
    exact escapes_expand_of_mapping hentries

end

/-- The arguments that a placeholder cannot write because of the limit of a conversion. -/
inductive OverLimit : Specifier → Value → FormatError → Prop
  | integer {s : Specifier} {i : Int} (scalar : s ∈ [.plain, .int, .identifier])
      (long : 10 ^ Numeral.digitLimit ≤ i.natAbs) : OverLimit s (.int i) .integerTooLong
  | numeral {text sign digits : Text}
      (leading : Numeral.leadingInteger? text = some (sign, digits))
      (long : Numeral.digitLimit < digits.length) :
      OverLimit .int (.str text) (.numeralTooLong digits.length)
  | magnitude {i : Int} (large : Double.overflowThreshold ≤ i.natAbs) :
      OverLimit .double (.int i) .integerTooLarge
  | contained {s : Specifier} {v : Value} (container : s ∈ [.array, .identifier])
      (holds : HoldsLongInteger v) : OverLimit s v .integerTooLong

section
variable {s : Specifier} {v : Value} {cause : FormatError}

theorem HoldsLongInteger.isContainer (h : HoldsLongInteger v) :
    (v.isSequence || v.isMapping) = true := by
  cases h with
  | item items => simp [Value.isSequence, items]
  | key entries => simp [Value.isMapping, entries]
  | value entries => simp [Value.isMapping, entries]

theorem formatValue_int (h : v ≠ .null) : formatValue .int v = toInt v >>= intText := by
  cases v with
  | null => exact (h rfl).elim
  | _ => rfl

theorem overLimit_of_escapes (h : Escapes (formatValue s v) cause) : OverLimit s v cause := by
  cases s with
  | plain =>
    obtain ⟨i, rfl, hlong, rfl⟩ := escapes_scalarText.mp (escapes_quoteScalar.mp h)
    exact .integer (by decide) hlong
  | int =>
    by_cases hnull : v = .null
    · subst hnull
      exact (not_escapes_ok h).elim
    · rw [formatValue_int hnull] at h
      rcases escapes_toInt_intText.mp h with htext | hinteger
      · obtain ⟨text, sign, digits, rfl, hleading, hlong, rfl⟩ := escapes_toInt.mp htext
        exact .numeral hleading hlong
      · obtain ⟨i, rfl, hlong, rfl⟩ := escapes_scalarText.mp hinteger
        exact .integer (by decide) hlong
  | double =>
    rcases escapes_bind.mp h with hinteger | ⟨d, -, htext⟩
    · obtain ⟨i, rfl, hlarge, rfl⟩ := escapes_toDouble.mp hinteger
      exact .magnitude hlarge
    · exact (not_escapes_doubleText htext).elim
  | array =>
    rw [formatValue] at h
    by_cases hcontainer : (v.isSequence || v.isMapping) = true
    · rw [if_pos hcontainer] at h
      obtain ⟨hholds, rfl⟩ := (escapes_expand hcontainer).mp h
      exact .contained (by decide) hholds
    · rw [if_neg hcontainer] at h
      simp [FormatError.kind?] at h
  | identifier =>
    rw [formatValue] at h
    by_cases hcontainer : (v.isSequence || v.isMapping) = true
    · rw [if_pos hcontainer] at h
      obtain ⟨hholds, rfl⟩ := (escapes_expand hcontainer).mp h
      exact .contained (by decide) hholds
    · rw [if_neg hcontainer] at h
      obtain ⟨i, rfl, hlong, rfl⟩ := escapes_scalarText.mp (escapes_map.mp h)
      exact .integer (by decide) hlong

theorem OverLimit.escapes (h : OverLimit s v cause) : Escapes (formatValue s v) cause := by
  cases h with
  | @integer s i scalar long =>
    have hscalar := escapes_scalarText.mpr ⟨i, rfl, long, rfl⟩
    simp only [List.mem_cons, List.not_mem_nil, or_false] at scalar
    rcases scalar with rfl | rfl | rfl
    · exact (@escapes_quoteScalar _ _ dataQuote).mpr hscalar
    · rw [formatValue_int (v := .int i) nofun]
      exact escapes_toInt_intText.mpr (.inr hscalar)
    · exact escapes_map.mpr hscalar
  | @numeral text _ _ leading long =>
    rw [formatValue_int (v := .str text) nofun]
    exact escapes_toInt_intText.mpr
      (.inl (escapes_toInt.mpr ⟨_, _, _, rfl, leading, long, rfl⟩))
  | magnitude large => exact escapes_bind.mpr (.inl (escapes_toDouble.mpr ⟨_, rfl, large, rfl⟩))
  | contained container holds =>
    have hexpand (quote : Text) : Escapes (expand quote v) .integerTooLong :=
      (escapes_expand holds.isContainer).mpr ⟨holds, rfl⟩
    simp only [List.mem_cons, List.not_mem_nil, or_false] at container
    rcases container with rfl | rfl <;> rw [formatValue, if_pos holds.isContainer]
    · exact hexpand dataQuote
    · exact hexpand identifierQuote

/-- A placeholder writes its argument, or refuses it with an error of the family, or the argument is
over a limit. -/
theorem escapes_formatValue : Escapes (formatValue s v) cause ↔ OverLimit s v cause :=
  ⟨overLimit_of_escapes, OverLimit.escapes⟩

end

end SqlTemplate
