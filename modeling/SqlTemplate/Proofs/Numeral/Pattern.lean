import SqlTemplate.Numeral.Pattern
import SqlTemplate.Proofs.Numeral.Front
import SqlTemplate.Proofs.Text.Pattern

/-! The patterns find what the scanner finds. Each part of them takes first what the scanner takes,
and whatever it could give back is of no use to the next part. -/
namespace SqlTemplate.Numeral

open Text (CharClass)
open Text.Pattern

section
variable {c : Char} {text rest : Text}

/-! The parts, as the scanner takes them. -/

theorem first?_signPattern :
    signPattern.first? text = some ⟨(takeSign text).1, (takeSign text).2⟩ := by
  rw [signPattern, first?_maybe]
  cases text with
  | nil => rfl
  | cons c rest =>
    by_cases hplus : c = '+'
    · subst hplus
      rfl
    · by_cases hminus : c = '-'
      · subst hminus
        rfl
      · simp [first?_one_cons, takeSign_of_ne hplus hminus, hplus, hminus]

theorem first?_rowPattern : rowPattern.first? text =
    if (spanDigits text).1 = [] then none else some ⟨(spanDigits text).1, (spanDigits text).2⟩ := by
  rw [rowPattern, (total_many _).first?_seq]
  cases text with
  | nil => rfl
  | cons c rest =>
    rw [first?_one_cons, CharClass.has_digit]
    by_cases hc : Text.isDecimalDigit c = true
    · simp [hc, first?_many, CharClass.has_digit, spanDigits]
    · simp [hc, spanDigits]

theorem first?_pointPattern_cons : pointPattern.first? (c :: rest) =
    if c = '.' then some ⟨['.'], rest⟩ else none := by
  rw [pointPattern, first?_one_cons]
  by_cases hc : c = '.'
  · subst hc
    rfl
  · simp [hc]

/-- After digits the point alone is enough. -/
theorem first?_maybe_fraction : (maybe (seq pointPattern (many [.digit]))).first? text =
    some ⟨fractionText (takeFraction true text).1, (takeFraction true text).2⟩ := by
  rw [first?_maybe, (total_many _).first?_seq]
  cases text with
  | nil => rfl
  | cons c rest =>
    rw [first?_pointPattern_cons]
    by_cases hc : c = '.'
    · subst hc
      simp [takeFraction, first?_many, CharClass.has_digit, fractionText, spanDigits]
    · simp [takeFraction_of_ne hc, hc, fractionText]

theorem first?_fraction : (seq pointPattern rowPattern).first? text =
    (takeFraction false text).1.map fun row => ⟨'.' :: row, (takeFraction false text).2⟩ := by
  rw [pointPattern, (greedy_one _).first?_seq (failsOn_nil _), ← pointPattern]
  cases text with
  | nil => rfl
  | cons c rest =>
    rw [first?_pointPattern_cons]
    by_cases hc : c = '.'
    · subst hc
      by_cases hrow : (spanDigits rest).1 = []
      · simp [takeFraction, first?_rowPattern, hrow]
      · simp [takeFraction, first?_rowPattern, hrow]
    · simp [takeFraction_of_ne hc, hc]

theorem first?_mantissaPattern : mantissaPattern.first? text =
    if (spanDigits text).1 = [] ∧
        (takeFraction ((spanDigits text).1 ≠ []) (spanDigits text).2).1 = none then none
    else some ⟨(spanDigits text).1 ++
        fractionText (takeFraction ((spanDigits text).1 ≠ []) (spanDigits text).2).1,
      (takeFraction ((spanDigits text).1 ≠ []) (spanDigits text).2).2⟩ := by
  rw [mantissaPattern, first?_either, (total_maybe _).first?_seq, first?_rowPattern]
  by_cases hwhole : (spanDigits text).1 = []
  · have hrest : (spanDigits text).2 = text := by
      have happend := @List.takeWhile_append_dropWhile _ Text.isDecimalDigit text
      rwa [show text.takeWhile Text.isDecimalDigit = [] from hwhole, List.nil_append] at happend
    rw [first?_fraction]
    cases hfraction : (takeFraction false text).1 with
    | none => simp [hwhole, hrest, hfraction]
    | some row => simp [hwhole, hrest, hfraction, fractionText]
  · simp [hwhole, first?_maybe_fraction]

theorem failsOn_rowPattern : FailsOn [.single '+', .single '-'] rowPattern := by
  refine failsOn_of_first? fun text hstart => ?_
  obtain ⟨c, hhead, hc⟩ := hstart
  obtain ⟨rest, rfl⟩ := List.head?_eq_some_iff.mp hhead
  have hdigit : Text.isDecimalDigit c = false := by
    simp at hc
    rcases hc with rfl | rfl <;> decide
  rw [first?_rowPattern, if_pos]
  simp [spanDigits, hdigit]

/-- A sign is never given back for digits. -/
theorem first?_signedRow : (seq signPattern rowPattern).first? text =
    if (spanDigits (takeSign text).2).1 = [] then none
    else some ⟨(takeSign text).1 ++ (spanDigits (takeSign text).2).1,
      (spanDigits (takeSign text).2).2⟩ := by
  rw [signPattern, (greedy_maybe_one _).first?_seq failsOn_rowPattern, ← signPattern,
    first?_signPattern, Option.bind_some, first?_rowPattern]
  by_cases hrow : (spanDigits (takeSign text).2).1 = []
  · simp [hrow]
  · simp [hrow]

theorem first?_maybe_exponentPattern : (maybe exponentPattern).first? text =
    some ⟨((takeExponent text).1.map Exponent.text).getD [], (takeExponent text).2⟩ := by
  rw [first?_maybe, exponentPattern, (greedy_one _).first?_seq (failsOn_nil _)]
  cases text with
  | nil => rfl
  | cons c rest =>
    rw [first?_one_cons]
    by_cases hmark : c = 'e' ∨ c = 'E'
    · by_cases hrow : (spanDigits (takeSign rest).2).1 = []
      · simp [takeExponent, first?_signedRow, hmark, hrow]
      · simp [takeExponent, first?_signedRow, hmark, hrow, Exponent.text]
    · simp [takeExponent, hmark]

/-! A number is found as the scanner finds it. -/

theorem failsOn_mantissa {set : CharClass}
    (hset : ∀ c, set.has c = true → Text.isDecimalDigit c = false ∧ c ≠ '.') :
    FailsOn set (seq mantissaPattern (maybe exponentPattern)) := by
  refine failsOn_of_first? fun text hstart => ?_
  obtain ⟨c, hhead, hc⟩ := hstart
  obtain ⟨rest, rfl⟩ := List.head?_eq_some_iff.mp hhead
  obtain ⟨hdigit, hpoint⟩ := hset c hc
  have hmantissa : mantissaPattern.first? (c :: rest) = none := by
    rw [first?_mantissaPattern, if_pos]
    simp [spanDigits, hdigit, takeFraction_of_ne hpoint]
  rw [(total_maybe _).first?_seq, hmantissa, Option.bind_none]

theorem first?_number : numberPattern.picked.first? text =
    (scan text).map fun found => ⟨found.1.text, found.2⟩ := by
  have hsigns : FailsOn [.single '+', .single '-']
      (seq mantissaPattern (maybe exponentPattern)) := by
    refine failsOn_mantissa fun c hc => ?_
    simp at hc
    rcases hc with rfl | rfl <;> decide
  rw [numberPattern, signPattern, (greedy_maybe_one _).first?_seq hsigns, ← signPattern,
    first?_signPattern, Option.bind_some, (total_maybe _).first?_seq, first?_mantissaPattern, scan]
  simp only [first?_maybe_exponentPattern]
  split
  · rfl
  · simp [Numeral.text]

/-! White space is never given back for what is picked. -/

theorem not_mem_of_isBlank (hblank : Text.isBlank c = true) : c ∉ ['+', '-', '.'] := by
  intro hmem
  simp only [List.mem_cons, List.not_mem_nil, or_false] at hmem
  rcases hmem with rfl | rfl | rfl <;> cases hblank

theorem failsOn_number : FailsOn [.blank] numberPattern.picked := by
  refine failsOn_of_first? fun text hstart => ?_
  obtain ⟨c, hhead, hc⟩ := hstart
  obtain ⟨rest, rfl⟩ := List.head?_eq_some_iff.mp hhead
  rw [CharClass.has_blank] at hc
  rw [first?_number, scan_of_ne (isDecimalDigit_of_isBlank hc) (not_mem_of_isBlank hc)]
  rfl

theorem failsOn_integer : FailsOn [.blank] integerPattern.picked := by
  refine failsOn_of_first? fun text hstart => ?_
  obtain ⟨c, hhead, hc⟩ := hstart
  obtain ⟨rest, rfl⟩ := List.head?_eq_some_iff.mp hhead
  rw [CharClass.has_blank] at hc
  have hmark := not_mem_of_isBlank hc
  simp only [List.mem_cons, not_or] at hmark
  rw [integerPattern, first?_signedRow, if_pos]
  simp [takeSign_of_ne hmark.1 hmark.2.1, spanDigits, isDecimalDigit_of_isBlank hc]

/-- The pattern for a number picks what the scanner finds after the white space. -/
theorem pick?_numberPattern :
    numberPattern.pick? text = (leading? text).map Numeral.text := by
  have hway (way : Way) : (numberPattern.after.ways way.rest).map (fun _ => way.taken) =
      [way.taken] := rfl
  have hpicks : numberPattern.picks text =
      (numberPattern.picked.ways (text.dropWhile Text.isBlank)).map (·.taken) := by
    rw [Picking.picks_eq (greedy_many [.blank]) failsOn_number]
    simp only [numberPattern, first?_many, CharClass.has_blank, Option.elim_some]
    exact List.map_eq_flatMap.symm
  rw [Picking.pick?, hpicks, List.head?_map, ← first?_eq, first?_number, leading?, Option.map_map,
    Option.map_map]
  rfl

/-- What must not follow an integer: behind all the digits there is only a point or a letter left to
stop it. -/
theorem any_head?_integerEnd (hrest : EndsRow rest) :
    rest.head?.any (CharClass.has [.digit, .single '.', .single 'e', .single 'E']) = true ↔
      rest.head? = some '.' ∨ rest.head? = some 'e' ∨ rest.head? = some 'E' := by
  cases rest with
  | nil => simp
  | cons c rest => simp [hrest c rfl]

/-- After a row that is cut short a digit follows, so the pattern for an integer picks all the digits
or nothing. -/
theorem pick?_integerPattern :
    integerPattern.pick? text = (leadingInteger? text).map fun parts => parts.1 ++ parts.2 := by
  have hgreedy : Greedy [.digit] integerPattern.picked :=
    (greedy_maybe_one _).seq failsOn_rowPattern
      ((greedy_one _).seq (failsOn_nil _) (greedy_many _))
  have hstop (way : Way) (hstart : StartsIn [.digit] way.rest) :
      (integerPattern.after.ways way.rest).map (fun _ => way.taken) = [] := by
    obtain ⟨c, hhead, hc⟩ := hstart
    rw [CharClass.has_digit] at hc
    simp [integerPattern, Option.mem_def.mp hhead, hc]
  rw [Picking.pick?, Picking.picks_eq (greedy_many [.blank]) failsOn_integer]
  simp only [hgreedy.flatMap_ways hstop, leadingInteger?]
  simp only [integerPattern, first?_many, CharClass.has_blank, Option.elim_some, first?_signedRow]
  generalize takeSign (text.dropWhile Text.isBlank) = found
  by_cases hrow : (spanDigits found.2).1 = []
  · simp [hrow]
  · have hend := any_head?_integerEnd (endsRow_spanDigits found.2)
    simp only [hrow, false_or, ↓reduceIte, Option.elim_some, ways_unlessNext, hend]
    split <;> rfl

/-- Without the digit among what must not follow, the last digits would be given back. -/
example : Picking.pick? integerPattern "12.5".toList = none ∧
    Picking.pick? { integerPattern with after := unlessNext [.single '.', .single 'e'] }
      "12.5".toList = some ['1'] := by decide +kernel

/-! What is picked, said of the text alone. -/

theorem pick?_numberPattern_eq_some_iff {picked : Text} :
    numberPattern.pick? text = some picked ↔
      ∃ n : Numeral, n.LongestIn (text.dropWhile Text.isBlank) ∧ n.text = picked := by
  rw [pick?_numberPattern, leading?, Option.map_map, Option.map_eq_some_iff]
  constructor
  · rintro ⟨⟨n, rest⟩, hscan, rfl⟩
    exact ⟨n, (scan_eq_some_iff.mp hscan).2, rfl⟩
  · rintro ⟨n, hlongest, rfl⟩
    obtain ⟨rest, hrest⟩ := hlongest.front
    exact ⟨(n, rest), scan_eq_some_iff.mpr ⟨hrest, hlongest⟩, rfl⟩

theorem pick?_numberPattern_eq_none_iff : numberPattern.pick? text = none ↔
    ∀ n : Numeral, n.WellFormed → ¬ n.text <+: text.dropWhile Text.isBlank := by
  rw [pick?_numberPattern, leading?, Option.map_map, Option.map_eq_none_iff, scan_eq_none_iff]

section
variable {sign row : Text}

theorem SignedRow.of_scan (h : scan text = some (ofRow sign row, rest)) : SignedRow sign row := by
  have hwell := wellFormed_of_scan h
  exact ⟨hwell.sign, hwell.whole, hwell.digits.resolve_right (by rintro ⟨_, ⟨⟩, -⟩)⟩

/-- The digits in front are an integer if they are all of the longest number and nothing behind them
looks as if it went on. -/
theorem leadingInteger?_eq_some_iff : leadingInteger? text = some (sign, row) ↔
    ∃ rest, scan (text.dropWhile Text.isBlank) = some (ofRow sign row, rest) ∧ Stops rest := by
  constructor
  · intro h
    simp only [leadingInteger?, Option.ite_none_left_eq_some, Option.some.injEq,
      Prod.mk.injEq, not_or] at h
    obtain ⟨⟨hne, hpoint, hlower, hupper⟩, rfl, rfl⟩ := h
    let unsigned := (takeSign (text.dropWhile Text.isBlank)).2
    have hstops : Stops (spanDigits unsigned).2 := by
      intro c hc
      refine ⟨endsRow_spanDigits unsigned c hc, ?_⟩
      simp only [List.mem_cons, List.not_mem_nil, or_false, not_or]
      refine ⟨?_, ?_, ?_⟩ <;> rintro rfl
      · exact hpoint hc
      · exact hlower hc
      · exact hupper hc
    have hrow : SignedRow (takeSign (text.dropWhile Text.isBlank)).1 (spanDigits unsigned).1 :=
      ⟨isSign_takeSign _, row_spanDigits _, hne⟩
    have hscan := scan_text_append hrow.wellFormed (hstops.endsAt _)
    have hsplit : (spanDigits unsigned).1 ++ (spanDigits unsigned).2 = unsigned :=
      List.takeWhile_append_dropWhile
    rw [text_ofRow, List.append_assoc, hsplit, takeSign_append] at hscan
    exact ⟨_, hscan, hstops⟩
  · rintro ⟨rest, hscan, hstops⟩
    have hsplit := scan_append hscan
    rw [text_ofRow, List.append_assoc] at hsplit
    rw [(SignedRow.of_scan hscan).leadingInteger?_eq (fun c hc => (hstops c hc).1) hsplit.symm]
    simp only [hstops.head?_ne (c := '.') (by decide), hstops.head?_ne (c := 'e') (by decide),
      hstops.head?_ne (c := 'E') (by decide), or_self, ↓reduceIte]

theorem SignedRow.of_leadingInteger? (h : leadingInteger? text = some (sign, row)) :
    SignedRow sign row := by
  obtain ⟨rest, hscan, -⟩ := leadingInteger?_eq_some_iff.mp h
  exact .of_scan hscan

theorem SignedRow.pick?_integerPattern_iff (h : SignedRow sign row) :
    integerPattern.pick? text = some (sign ++ row) ↔ leadingInteger? text = some (sign, row) := by
  rw [pick?_integerPattern, Option.map_eq_some_iff]
  constructor
  · rintro ⟨⟨otherSign, otherRow⟩, hleading, htext⟩
    have hother := SignedRow.of_leadingInteger? hleading
    have hsame := hother.wellFormed.text_inj h.wellFormed (by simpa using htext)
    cases hsame
    exact hleading
  · exact fun hleading => ⟨_, hleading, rfl⟩

end

theorem pick?_integerPattern_eq_some_iff {picked : Text} :
    integerPattern.pick? text = some picked ↔
      numberPattern.pick? text = some picked ∧
      (∃ sign row, SignedRow sign row ∧ picked = sign ++ row) ∧
      ∀ c ∈ ((text.dropWhile Text.isBlank).drop picked.length).head?, c ∉ ['.', 'e', 'E'] := by
  constructor
  · intro h
    rw [pick?_integerPattern, Option.map_eq_some_iff] at h
    obtain ⟨⟨sign, row⟩, hleading, rfl⟩ := h
    have hrow := SignedRow.of_leadingInteger? hleading
    obtain ⟨rest, hscan, hstops⟩ := leadingInteger?_eq_some_iff.mp hleading
    obtain ⟨hsplit, hlongest⟩ := scan_eq_some_iff.mp hscan
    rw [text_ofRow] at hsplit
    refine ⟨pick?_numberPattern_eq_some_iff.mpr ⟨_, hlongest, text_ofRow sign row⟩,
      ⟨sign, row, hrow, rfl⟩, ?_⟩
    rw [← hsplit, List.drop_left]
    exact fun c hc => (hstops c hc).2
  · rintro ⟨hnumber, ⟨sign, row, hrow, rfl⟩, hfollow⟩
    obtain ⟨n, hlongest, htext⟩ := pick?_numberPattern_eq_some_iff.mp hnumber
    have hparts : n = ofRow sign row :=
      hlongest.wellFormed.text_inj hrow.wellFormed (htext.trans (text_ofRow sign row).symm)
    subst hparts
    obtain ⟨rest, hsplit⟩ := hlongest.front
    have hends : (ofRow sign row).EndsAt rest := by
      rw [← hsplit] at hlongest
      exact hlongest.endsAt
    rw [← hsplit, text_ofRow, List.drop_left] at hfollow
    refine hrow.pick?_integerPattern_iff.mpr (leadingInteger?_eq_some_iff.mpr ⟨rest, ?_, ?_⟩)
    · exact scan_eq_some_iff.mpr ⟨hsplit, hlongest⟩
    · exact fun c hc => ⟨hends.digit c hc, hfollow c hc⟩

/-! What is picked is converted. -/

theorem frontDouble?_eq (text : Text) : frontDouble? text = some (leadingDouble text) := by
  rw [frontDouble?, leadingDouble, pick?_numberPattern]
  cases hleading : leading? text with
  | none => rfl
  | some n =>
    rw [leading?, Option.map_eq_some_iff] at hleading
    obtain ⟨⟨n, rest⟩, hscan, rfl⟩ := hleading
    exact (wellFormed_of_scan hscan).double?_text

end

end SqlTemplate.Numeral
