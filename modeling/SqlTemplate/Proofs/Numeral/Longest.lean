import Mathlib.Data.Nat.Find
import SqlTemplate.Numeral.Leading

/-! The number at the front of a text is the longest one that stands there. The scanner, which takes
part after part and never goes back, finds it whenever there is one. -/
namespace SqlTemplate.Numeral

/-- Digits of any script. -/
def Row (row : Text) : Prop := ∀ c ∈ row, Text.isDecimalDigit c = true

/-- A plus or minus sign, or none. -/
def IsSign (sign : Text) : Prop := sign = [] ∨ sign = ['+'] ∨ sign = ['-']

/-- A letter, a sign if there is one, and a digit or more. -/
structure Exponent.WellFormed (e : Exponent) : Prop where
  mark : e.mark = 'e' ∨ e.mark = 'E'
  sign : IsSign e.sign
  row : Row e.digits
  ne_nil : e.digits ≠ []

/-- A sign if there is one, digits with a digit or more on one side of the point, and an exponent if
there is one. -/
structure WellFormed (n : Numeral) : Prop where
  sign : IsSign n.sign
  whole : Row n.whole
  fraction : ∀ row ∈ n.fraction, Row row
  digits : n.whole ≠ [] ∨ ∃ row ∈ n.fraction, row ≠ []
  exponent : ∀ e ∈ n.exponent, e.WellFormed

/-- A sign if there is one, and a digit or more. -/
structure SignedRow (sign row : Text) : Prop where
  isSign : IsSign sign
  isRow : Row row
  ne_nil : row ≠ []

/-- The number without a fraction and an exponent. -/
def ofRow (sign row : Text) : Numeral := ⟨sign, row, none, none⟩

@[simp] theorem text_ofRow (sign row : Text) : (ofRow sign row).text = sign ++ row := by
  simp [ofRow, Numeral.text, fractionText]

theorem SignedRow.wellFormed {sign row : Text} (h : SignedRow sign row) :
    (ofRow sign row).WellFormed := ⟨h.isSign, h.isRow, nofun, .inl h.ne_nil, nofun⟩

/-- The number stands at the front of the text, and no longer one does. -/
structure LongestIn (n : Numeral) (text : Text) : Prop where
  wellFormed : n.WellFormed
  front : n.text <+: text
  longest : ∀ m : Numeral, m.WellFormed → m.text <+: text → m.text.length ≤ n.text.length

/-! What the parts of the scanner take. -/

/-- White space is no digit. -/
theorem isDecimalDigit_of_isBlank {c : Char} (h : Text.isBlank c = true) :
    Text.isDecimalDigit c = false := by
  have hapart : ∀ z ∈ Text.digitZeros, ∀ r ∈ Text.blankRanges, z + 9 < r.1 ∨ r.2 < z := by decide
  obtain ⟨r, hr, hrange⟩ := List.any_eq_true.mp h
  rw [Bool.eq_false_iff]
  intro hdigit
  rw [Text.isDecimalDigit, Text.digitValue?, Option.isSome_map] at hdigit
  obtain ⟨z, hz⟩ := Option.isSome_iff_exists.mp hdigit
  have hrow := List.find?_some hz
  have hdisjoint := hapart z (List.mem_of_find?_eq_some hz) r hr
  simp only [Bool.and_eq_true, decide_eq_true_eq] at hrange hrow
  omega

/-- A text that no digit starts. -/
def EndsRow (rest : Text) : Prop := ∀ c ∈ rest.head?, Text.isDecimalDigit c = false

section
variable {row rest sign : Text}

theorem spanDigits_append (hrow : Row row) (hrest : EndsRow rest) :
    spanDigits (row ++ rest) = (row, rest) := by
  have htake : rest.takeWhile Text.isDecimalDigit = [] := by
    cases rest with
    | nil => rfl
    | cons c rest => simp [hrest c rfl]
  have hdrop : rest.dropWhile Text.isDecimalDigit = rest := by
    cases rest with
    | nil => rfl
    | cons c rest => simp [hrest c rfl]
  rw [spanDigits, List.takeWhile_append_of_pos hrow, List.dropWhile_append_of_pos hrow, htake,
    hdrop, List.append_nil]

theorem row_spanDigits (text : Text) : Row (spanDigits text).1 :=
  fun _ hc => List.all_eq_true.mp List.all_takeWhile _ hc

theorem endsRow_spanDigits (text : Text) : EndsRow (spanDigits text).2 := by
  intro c hc
  have hnot := List.head?_dropWhile_not Text.isDecimalDigit text
  rwa [show (text.dropWhile Text.isDecimalDigit).head? = some c from hc] at hnot

theorem takeSign_append_of_isSign (hsign : IsSign sign)
    (hrest : rest.head? ≠ some '+' ∧ rest.head? ≠ some '-') :
    takeSign (sign ++ rest) = (sign, rest) := by
  rcases hsign with rfl | rfl | rfl
  · rw [List.nil_append]
    unfold takeSign
    split
    · exact (hrest.1 rfl).elim
    · exact (hrest.2 rfl).elim
    · rfl
  · rfl
  · rfl

theorem takeSign_of_ne {c : Char} (hplus : c ≠ '+') (hminus : c ≠ '-') (rest : Text) :
    takeSign (c :: rest) = ([], c :: rest) :=
  takeSign_append_of_isSign (.inl rfl)
    ⟨fun h => hplus (Option.some.inj h), fun h => hminus (Option.some.inj h)⟩

theorem isSign_takeSign (text : Text) : IsSign (takeSign text).1 := by
  unfold takeSign
  split
  · exact .inr (.inl rfl)
  · exact .inr (.inr rfl)
  · exact .inl rfl

/-- A digit is no sign. -/
theorem head?_ne_sign (hrow : Row row) (hne : row ≠ []) (rest : Text) :
    (row ++ rest).head? ≠ some '+' ∧ (row ++ rest).head? ≠ some '-' := by
  obtain ⟨c, more, rfl⟩ := List.exists_cons_of_ne_nil hne
  have hdigit := hrow c List.mem_cons_self
  have hother (d : Char) (hd : Text.isDecimalDigit d = false) : (c :: more ++ rest).head? ≠ some d := by
    rintro ⟨⟩
    rw [hd] at hdigit
    cases hdigit
  exact ⟨hother _ (by decide), hother _ (by decide)⟩

theorem takeFraction_of_ne {c : Char} (hc : c ≠ '.') (before : Bool) (rest : Text) :
    takeFraction before (c :: rest) = (none, c :: rest) := by
  rw [takeFraction]
  exact fun _ h => hc (List.cons.inj h).1

/-- A number begins with a sign, a point or a digit. -/
theorem scan_of_ne {c : Char} (hdigit : Text.isDecimalDigit c = false)
    (hmark : c ∉ ['+', '-', '.']) (rest : Text) : scan (c :: rest) = none := by
  simp only [List.mem_cons, List.not_mem_nil, or_false, not_or] at hmark
  have hspan : spanDigits (c :: rest) = ([], c :: rest) := by simp [spanDigits, hdigit]
  simp [scan, takeSign_of_ne hmark.1 hmark.2.1, hspan, takeFraction_of_ne hmark.2.2]

theorem takeFraction_digits {before : Bool} {text : Text}
    (h : (takeFraction before text).1 = some row) : Row row ∧ (before = true ∨ row ≠ []) := by
  unfold takeFraction at h
  split at h
  · next rest =>
    by_cases hdigits : before = true ∨ (spanDigits rest).1 ≠ []
    · simp only [hdigits, ↓reduceIte, Option.some.injEq] at h
      subst h
      exact ⟨row_spanDigits rest, hdigits⟩
    · simp [hdigits] at h
  · cases h

theorem takeExponent_text {e : Exponent} (he : e.WellFormed) (hrest : EndsRow rest) :
    takeExponent (e.text ++ rest) = (some e, rest) := by
  obtain ⟨mark, sign, digits⟩ := e
  have hsign := takeSign_append_of_isSign he.sign (head?_ne_sign he.row he.ne_nil rest)
  have hspan := spanDigits_append he.row hrest
  have hnil : digits ≠ [] := he.ne_nil
  have hmark : mark = 'e' ∨ mark = 'E' := he.mark
  simp only [Exponent.text, List.cons_append, List.append_assoc, takeExponent, hmark, ↓reduceIte,
    hsign, hspan, hnil]

theorem wellFormed_takeExponent {text : Text} {e : Exponent} (h : (takeExponent text).1 = some e) :
    e.WellFormed := by
  unfold takeExponent at h
  split at h
  · cases h
  · next mark rest =>
    by_cases hmark : mark = 'e' ∨ mark = 'E'
    · by_cases hnil : (spanDigits (takeSign rest).2).1 = []
      · simp [hmark, hnil] at h
      · simp only [hmark, hnil, ↓reduceIte, Option.some.injEq] at h
        subst h
        exact ⟨hmark, isSign_takeSign rest, row_spanDigits _, hnil⟩
    · simp [hmark] at h

/-- A row of digits in front is an integer unless a point or the letter of an exponent follows. -/
theorem SignedRow.leadingInteger?_eq {text : Text} (h : SignedRow sign row) (hrest : EndsRow rest)
    (htext : text.dropWhile Text.isBlank = sign ++ (row ++ rest)) : leadingInteger? text =
      if rest.head? = some '.' ∨ rest.head? = some 'e' ∨ rest.head? = some 'E' then none
      else some (sign, row) := by
  have hsign := takeSign_append_of_isSign h.isSign (head?_ne_sign h.isRow h.ne_nil rest)
  simp only [leadingInteger?, htext, hsign, spanDigits_append h.isRow hrest, h.ne_nil, false_or]

theorem takeExponent_eq_of_none {text : Text} (h : (takeExponent text).1 = none) :
    takeExponent text = (none, text) := by
  have happend := takeExponent_append text
  rw [h] at happend
  exact Prod.ext h happend

end

/-! What may follow a number that ends. -/

/-- A text that does not go on with the number in front of it. -/
structure EndsAt (n : Numeral) (rest : Text) : Prop where
  digit : EndsRow rest
  point : n.fraction = none → n.exponent = none → rest.head? ≠ some '.'
  exponent : n.exponent = none → (takeExponent rest).1 = none

theorem EndsAt.nil (n : Numeral) : n.EndsAt [] := ⟨nofun, nofun, fun _ => rfl⟩

section
variable {n : Numeral} {text rest : Text}

theorem takeExponent_append_of_endsAt (h : n.WellFormed) (hrest : n.EndsAt rest) :
    takeExponent ((n.exponent.map Exponent.text).getD [] ++ rest) = (n.exponent, rest) := by
  cases he : n.exponent with
  | none => exact takeExponent_eq_of_none (hrest.exponent he)
  | some e => exact takeExponent_text (h.exponent e he) hrest.digit

/-- What stands behind the fraction does not go on with it. -/
theorem endsRow_exponent (h : n.WellFormed) (hrest : EndsRow rest) :
    EndsRow ((n.exponent.map Exponent.text).getD [] ++ rest) := by
  cases he : n.exponent with
  | none => exact hrest
  | some e =>
    rintro _ ⟨⟩
    rcases (h.exponent e he).mark with hmark | hmark <;> rw [hmark] <;> decide

theorem takeFraction_append_of_endsAt (h : n.WellFormed) (hrest : n.EndsAt rest) :
    takeFraction (n.whole ≠ []) (fractionText n.fraction ++
        ((n.exponent.map Exponent.text).getD [] ++ rest)) =
      (n.fraction, (n.exponent.map Exponent.text).getD [] ++ rest) := by
  have hends := endsRow_exponent h hrest.digit
  cases hfraction : n.fraction with
  | none =>
    have hpoint : ∀ more, (n.exponent.map Exponent.text).getD [] ++ rest ≠ '.' :: more := by
      intro more heq
      cases he : n.exponent with
      | none =>
        rw [he] at heq
        exact hrest.point hfraction he (congrArg List.head? heq)
      | some e =>
        rw [he] at heq
        have hmark : e.mark = '.' := (List.cons.inj heq).1
        rcases (h.exponent e he).mark with hletter | hletter <;> rw [hletter] at hmark <;> cases hmark
    rw [fractionText, List.nil_append, takeFraction]
    exact hpoint
  | some row =>
    have hrow := h.fraction row hfraction
    have hdigits : n.whole ≠ [] ∨ row ≠ [] := by
      rcases h.digits with hwhole | ⟨_, hmem, hne⟩
      · exact .inl hwhole
      · rw [hfraction] at hmem
        cases hmem
        exact .inr hne
    rw [fractionText, List.cons_append, takeFraction]
    simp only [spanDigits_append hrow hends, decide_eq_true_eq, hdigits, ↓reduceIte]

theorem endsRow_fraction (h : n.WellFormed) (hrest : EndsRow rest) :
    EndsRow (fractionText n.fraction ++ ((n.exponent.map Exponent.text).getD [] ++ rest)) := by
  cases n.fraction with
  | none => exact endsRow_exponent h hrest
  | some row =>
    rintro _ ⟨⟩
    decide

/-- A number is found at the front, with a rest that does not go on with it. -/
theorem scan_text_append (h : n.WellFormed) (hrest : n.EndsAt rest) :
    scan (n.text ++ rest) = some (n, rest) := by
  let after := fractionText n.fraction ++ ((n.exponent.map Exponent.text).getD [] ++ rest)
  have htext : n.text ++ rest = n.sign ++ (n.whole ++ after) := by
    simp [Numeral.text, after]
  have hsign : takeSign (n.sign ++ (n.whole ++ after)) = (n.sign, n.whole ++ after) := by
    apply takeSign_append_of_isSign h.sign
    by_cases hwhole : n.whole = []
    · rcases h.digits with hne | ⟨row, hmem, -⟩
      · exact (hne hwhole).elim
      · have hfraction : n.fraction = some row := hmem
        simp [after, hwhole, hfraction, fractionText]
    · exact head?_ne_sign h.whole hwhole after
  have hspan := spanDigits_append h.whole (endsRow_fraction h hrest.digit)
  have hsome : ¬ (n.whole = [] ∧ n.fraction = none) := by
    rintro ⟨hwhole, hfraction⟩
    rcases h.digits with hne | ⟨row, hmem, -⟩
    · exact hne hwhole
    · rw [hfraction] at hmem
      cases hmem
  have hfraction := takeFraction_append_of_endsAt h hrest
  rw [htext, scan]
  simp only [hsign, after, hspan, hfraction, hsome, ↓reduceIte,
    takeExponent_append_of_endsAt h hrest]

/-- The text of a number tells all its parts. -/
theorem WellFormed.text_inj {m : Numeral} (hm : m.WellFormed) (hn : n.WellFormed)
    (h : m.text = n.text) : m = n := by
  have hscan := scan_text_append hm (.nil m)
  rw [h, scan_text_append hn (.nil n)] at hscan
  cases hscan
  rfl

theorem wellFormed_of_scan (h : scan text = some (n, rest)) : n.WellFormed := by
  simp only [scan, Option.ite_none_left_eq_some, Option.some.injEq, Prod.mk.injEq] at h
  obtain ⟨hdigits, rfl, -⟩ := h
  refine ⟨isSign_takeSign text, row_spanDigits _, fun row hrow => (takeFraction_digits hrow).1, ?_,
    fun e he => wellFormed_takeExponent he⟩
  by_cases hwhole : (spanDigits (takeSign text).2).1 = []
  · right
    obtain ⟨row, hrow⟩ := Option.ne_none_iff_exists'.mp fun hnone => hdigits ⟨hwhole, hnone⟩
    refine ⟨row, hrow, (takeFraction_digits hrow).2.resolve_left ?_⟩
    simp [hwhole]
  · exact .inl hwhole

/-! A longest number ends where nothing goes on with it: whatever did would make it longer. -/

/-- The number with one more digit at its end. -/
def snoc (n : Numeral) (c : Char) : Numeral :=
  match n.exponent, n.fraction with
  | some e, _ => { n with exponent := some { e with digits := e.digits ++ [c] } }
  | none, some row => { n with fraction := some (row ++ [c]) }
  | none, none => { n with whole := n.whole ++ [c] }

theorem text_snoc (n : Numeral) (c : Char) : (n.snoc c).text = n.text ++ [c] := by
  obtain ⟨sign, whole, fraction, exponent⟩ := n
  cases exponent <;> cases fraction <;> simp [snoc, Numeral.text, fractionText, Exponent.text]

theorem Row.snoc {row : Text} (h : Row row) {c : Char} (hc : Text.isDecimalDigit c = true) :
    Row (row ++ [c]) := List.forall_mem_append.mpr ⟨h, List.forall_mem_singleton.mpr hc⟩

theorem WellFormed.snoc (h : n.WellFormed) {c : Char} (hc : Text.isDecimalDigit c = true) :
    (n.snoc c).WellFormed := by
  obtain ⟨sign, whole, fraction, exponent⟩ := n
  obtain ⟨hsign, hwhole, hfraction, hdigits, hexponent⟩ := h
  cases exponent with
  | some e =>
    refine ⟨hsign, hwhole, hfraction, hdigits, ?_⟩
    rintro _ ⟨⟩
    obtain ⟨hmark, hesign, hrow, -⟩ := hexponent e rfl
    exact ⟨hmark, hesign, hrow.snoc hc, by simp⟩
  | none =>
    cases fraction with
    | some row =>
      refine ⟨hsign, hwhole, ?_, .inr ⟨_, rfl, by simp⟩, nofun⟩
      rintro _ ⟨⟩
      exact (hfraction row rfl).snoc hc
    | none => exact ⟨hsign, hwhole.snoc hc, nofun, .inl (by simp [Numeral.snoc]), nofun⟩

theorem LongestIn.eq_nil_of_longer (h : n.LongestIn (n.text ++ rest)) {m : Numeral} {more : Text}
    (hm : m.WellFormed) (htext : m.text = n.text ++ more) (hmore : more <+: rest) : more = [] := by
  have hfront : m.text <+: n.text ++ rest := htext ▸ (List.prefix_append_right_inj n.text).mpr hmore
  have hlength := h.longest m hm hfront
  rw [htext, List.length_append] at hlength
  exact List.length_eq_zero_iff.mp (by omega)

/-- A row of digits stays a number with a point behind it. -/
theorem WellFormed.withPoint (h : n.WellFormed) (hfraction : n.fraction = none) :
    ({ n with fraction := some [] } : Numeral).WellFormed := by
  obtain ⟨hsign, hwhole, -, hdigits, hexponent⟩ := h
  refine ⟨hsign, hwhole, ?_, .inl ?_, hexponent⟩
  · rintro _ ⟨⟩
    exact nofun
  · simpa [hfraction] using hdigits

theorem WellFormed.withExponent (h : n.WellFormed) {e : Exponent} (he : e.WellFormed) :
    ({ n with exponent := some e } : Numeral).WellFormed := by
  obtain ⟨hsign, hwhole, hfraction, hdigits, -⟩ := h
  refine ⟨hsign, hwhole, hfraction, hdigits, ?_⟩
  rintro _ ⟨⟩
  exact he

theorem LongestIn.endsAt (h : n.LongestIn (n.text ++ rest)) : n.EndsAt rest := by
  have hfront {c : Char} (hc : rest.head? = some c) : [c] <+: rest := by
    obtain ⟨more, rfl⟩ := List.head?_eq_some_iff.mp hc
    exact ⟨more, rfl⟩
  refine ⟨?_, ?_, ?_⟩
  · intro c hc
    by_contra hdigit
    have hlonger := h.wellFormed.snoc (by simpa using hdigit)
    cases h.eq_nil_of_longer hlonger (text_snoc n c) (hfront hc)
  · intro hfraction hexponent hpoint
    have htext : ({ n with fraction := some [] } : Numeral).text = n.text ++ ['.'] := by
      simp [Numeral.text, fractionText, hfraction, hexponent]
    cases h.eq_nil_of_longer (h.wellFormed.withPoint hfraction) htext (hfront hpoint)
  · intro hexponent
    rw [Option.eq_none_iff_forall_ne_some]
    intro e he
    have hexponentFront : e.text <+: rest := by
      have happend := takeExponent_append rest
      rw [he] at happend
      exact ⟨_, happend⟩
    have htext : ({ n with exponent := some e } : Numeral).text = n.text ++ e.text := by
      simp [Numeral.text, hexponent]
    have hlonger := h.wellFormed.withExponent (wellFormed_takeExponent he)
    cases h.eq_nil_of_longer hlonger htext hexponentFront

theorem LongestIn.scan (h : n.LongestIn (n.text ++ rest)) : scan (n.text ++ rest) = some (n, rest) :=
  scan_text_append h.wellFormed h.endsAt

theorem exists_longestIn {m : Numeral} (hm : m.WellFormed) (hfront : m.text <+: text) :
    ∃ n : Numeral, n.LongestIn text := by
  classical
  let Fits (k : Nat) : Prop := ∃ n : Numeral, n.WellFormed ∧ n.text <+: text ∧ n.text.length = k
  obtain ⟨n, hn, hprefix, hlength⟩ : Fits (Nat.findGreatest Fits text.length) :=
    Nat.findGreatest_spec hfront.length_le ⟨m, hm, hfront, rfl⟩
  refine ⟨n, hn, hprefix, fun other hother hotherFront => ?_⟩
  rw [hlength]
  exact Nat.le_findGreatest hotherFront.length_le ⟨other, hother, hotherFront, rfl⟩

/-- The scanner finds the longest number at the front, and leaves the rest of the text. -/
theorem scan_eq_some_iff :
    scan text = some (n, rest) ↔ n.text ++ rest = text ∧ n.LongestIn text := by
  constructor
  · intro h
    have happend := scan_append h
    refine ⟨happend, ?_⟩
    obtain ⟨m, hm⟩ := exists_longestIn (wellFormed_of_scan h) ⟨rest, happend⟩
    obtain ⟨after, rfl⟩ := hm.front
    cases h.symm.trans hm.scan
    exact hm
  · rintro ⟨rfl, h⟩
    exact h.scan

/-- It finds nothing only where no number stands. -/
theorem scan_eq_none_iff : scan text = none ↔ ∀ m : Numeral, m.WellFormed → ¬ m.text <+: text := by
  constructor
  · intro h m hm hfront
    obtain ⟨n, hn⟩ := exists_longestIn hm hfront
    obtain ⟨rest, rfl⟩ := hn.front
    rw [hn.scan] at h
    cases h
  · intro h
    rw [Option.eq_none_iff_forall_ne_some]
    rintro ⟨n, rest⟩ hscan
    exact h n (wellFormed_of_scan hscan) ⟨rest, scan_append hscan⟩

end

end SqlTemplate.Numeral
