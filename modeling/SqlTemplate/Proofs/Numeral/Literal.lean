import SqlTemplate.Numeral.Literal
import SqlTemplate.Proofs.Double.ReadBack
import SqlTemplate.Proofs.Numeral.Longest

/-! Words that are numbers. An integer is read from its decimal text, a finite double from its own
and from no other kind of text, and a word that starts with neither a digit nor a mark of a number
is none. -/
namespace SqlTemplate.Numeral

/-- The characters that a number is laid out with. -/
def laidCharacters : Text := "0123456789-+.e".toList

/-- What is checked of these characters one by one holds of each. -/
theorem forall_laidCharacters {p : Char → Prop} [DecidablePred p]
    (h : (laidCharacters.all fun d => decide (p d)) = true) : ∀ d ∈ laidCharacters, p d :=
  fun d hd => of_decide_eq_true (List.all_eq_true.mp h d hd)

theorem mem_laidCharacters_of_isDigit {c : Char} (h : c.isDigit = true) : c ∈ laidCharacters := by
  simp only [Char.isDigit, Bool.and_eq_true, decide_eq_true_eq] at h
  have hlow : 48 ≤ c.toNat := h.1
  have hhigh : c.toNat ≤ 57 := h.2
  have hall : ∀ k < 10, Char.ofNat (48 + k) ∈ laidCharacters := by decide
  have hmem := hall (c.toNat - 48) (by omega)
  rwa [Nat.add_sub_cancel' hlow, Char.ofNat_toNat] at hmem

theorem Laid.mem_laidCharacters {n : Numeral} (h : n.Laid) {c : Char} (hc : c ∈ n.text) :
    c ∈ laidCharacters := by
  rcases h.isDigit_or_mem hc with hdigit | hmark
  · exact mem_laidCharacters_of_isDigit hdigit
  · simp only [List.mem_cons, List.not_mem_nil, or_false] at hmark
    rcases hmark with rfl | rfl | rfl | rfl <;> decide

theorem isDecimalDigit_of_isDigit {c : Char} (h : c.isDigit = true) :
    Text.isDecimalDigit c = true := by
  have hall : ∀ d ∈ laidCharacters, d.isDigit = true → Text.isDecimalDigit d = true :=
    forall_laidCharacters (by decide)
  exact hall c (mem_laidCharacters_of_isDigit h) h

theorem Laid.wellFormed {n : Numeral} (h : n.Laid) : n.WellFormed := by
  have hrow {row : Text} (hdigits : AsciiDigits row) : Row row :=
    fun c hc => isDecimalDigit_of_isDigit (hdigits.isDigit c hc)
  refine ⟨?_, hrow h.whole, fun row hmem => hrow (h.fraction row hmem), .inl h.whole.ne_nil, ?_⟩
  · exact h.sign.imp_right .inr
  · intro e he
    obtain ⟨hmark, hsign, hdigits⟩ := h.exponent e he
    exact ⟨.inl hmark, .inr hsign, hrow hdigits, hdigits.ne_nil⟩

theorem trimMargins_of_forall {text : Text} (h : ∀ c ∈ text, Text.isMargin c = false) :
    Text.trimMargins text = text := by
  have hdrop {row : Text} (hrow : ∀ c ∈ row, Text.isMargin c = false) :
      row.dropWhile Text.isMargin = row := by
    cases row with
    | nil => rfl
    | cons c row => simp [hrow c List.mem_cons_self]
  have hreverse : ∀ c ∈ text.reverse, Text.isMargin c = false :=
    fun c hc => h c (List.mem_reverse.mp hc)
  rw [Text.trimMargins, hdrop h, hdrop hreverse, List.reverse_reverse]

theorem dropSeparators?_of_not_mem {text : Text} (h : '_' ∉ text) :
    dropSeparators? text = some text := by
  have hgo (afterDigit : Bool) : dropSeparators?.go afterDigit text = some text := by
    induction text generalizing afterDigit with
    | nil => rfl
    | cons c text ih =>
      rw [List.mem_cons, not_or] at h
      rw [dropSeparators?.go, ih h.2]
      · rfl
      · rintro _ _ rfl
        exact fun _ => h.1 rfl
      · rintro rfl
        exact fun _ => h.1 rfl
  exact hgo false

/-! Neither margins nor separators are taken from a number, and it is no name. -/

section
variable {n : Numeral} {c : Char} {sign row : Text}

theorem WellFormed.isDecimalDigit_or_mem (h : n.WellFormed) (hc : c ∈ n.text) :
    Text.isDecimalDigit c = true ∨ c ∈ ['+', '-', '.', 'e', 'E'] := by
  have hsign {sign : Text} (hsign : IsSign sign) (hmem : c ∈ sign) :
      c ∈ ['+', '-', '.', 'e', 'E'] := by
    rcases hsign with rfl | rfl | rfl
    · cases hmem
    · rw [List.mem_singleton.mp hmem]
      decide
    · rw [List.mem_singleton.mp hmem]
      decide
  simp only [Numeral.text, List.mem_append] at hc
  rcases hc with ((hmem | hmem) | hmem) | hmem
  · exact .inr (hsign h.sign hmem)
  · exact .inl (h.whole c hmem)
  · cases hfraction : n.fraction with
    | none => simp [hfraction, fractionText] at hmem
    | some row =>
      rw [hfraction, fractionText, List.mem_cons] at hmem
      rcases hmem with rfl | hrow
      · right
        decide
      · exact .inl (h.fraction row hfraction c hrow)
  · cases he : n.exponent with
    | none => simp [he] at hmem
    | some e =>
      have hwell := h.exponent e he
      simp only [he, Option.map_some, Option.getD_some, Exponent.text, List.cons_append,
        List.mem_cons, List.mem_append] at hmem
      rcases hmem with rfl | hmem | hmem
      · right
        rcases hwell.mark with hmark | hmark <;> rw [hmark] <;> decide
      · exact .inr (hsign hwell.sign hmem)
      · exact .inl (hwell.row c hmem)

theorem WellFormed.isBlank_of_mem (h : n.WellFormed) (hc : c ∈ n.text) :
    Text.isBlank c = false := by
  rcases h.isDecimalDigit_or_mem hc with hdigit | hmark
  · rw [Bool.eq_false_iff]
    intro hblank
    rw [isDecimalDigit_of_isBlank hblank] at hdigit
    cases hdigit
  · simp only [List.mem_cons, List.not_mem_nil, or_false] at hmark
    rcases hmark with rfl | rfl | rfl | rfl | rfl <;> rfl

/-- No digit of any script is a letter of a name. -/
theorem toLower_ne_of_isDecimalDigit (h : Text.isDecimalDigit c = true) : c.toLower ≠ 'n' := by
  intro hlower
  unfold Char.toLower at hlower
  split at hlower
  · next hrange =>
    have hlow : 65 ≤ c.toNat := hrange.1
    have hhigh : c.toNat ≤ 90 := hrange.2
    have hall : ∀ k < 26, Text.isDecimalDigit (Char.ofNat (65 + k)) = false := by decide
    have hletter := hall (c.toNat - 65) (by omega)
    rw [Nat.add_sub_cancel' hlow, Char.ofNat_toNat, h] at hletter
    cases hletter
  · subst hlower
    cases h

theorem WellFormed.toLower_ne_of_mem (h : n.WellFormed) (hc : c ∈ n.text) : c.toLower ≠ 'n' := by
  rcases h.isDecimalDigit_or_mem hc with hdigit | hmark
  · exact toLower_ne_of_isDecimalDigit hdigit
  · simp only [List.mem_cons, List.not_mem_nil, or_false] at hmark
    rcases hmark with rfl | rfl | rfl | rfl | rfl <;> decide

theorem WellFormed.trimMargins_text (h : n.WellFormed) : Text.trimMargins n.text = n.text :=
  trimMargins_of_forall fun c hc => by rw [Text.isMargin, h.isBlank_of_mem hc, Bool.false_and]

theorem WellFormed.dropSeparators?_text (h : n.WellFormed) :
    dropSeparators? n.text = some n.text := by
  refine dropSeparators?_of_not_mem fun hmem => ?_
  have hforeign : ¬ (Text.isDecimalDigit '_' = true ∨ '_' ∈ ['+', '-', '.', 'e', 'E']) := by decide
  exact hforeign (h.isDecimalDigit_or_mem hmem)

theorem WellFormed.ofText?_text (h : n.WellFormed) : ofText? n.text = some n := by
  have hscan := scan_text_append h (.nil n)
  rw [List.append_nil] at hscan
  rw [ofText?, hscan]

/-- The names of doubles have a letter that no number has. -/
theorem WellFormed.named?_text (h : n.WellFormed) : named? n.text = none := by
  have hletter : 'n' ∉ (takeSign (Text.lowerAscii n.text)).2 := by
    intro hmem
    have hlower : 'n' ∈ Text.lowerAscii n.text := by
      rw [← takeSign_append (Text.lowerAscii n.text)]
      exact List.mem_append_right _ hmem
    obtain ⟨c, hc, hname⟩ := List.mem_map.mp hlower
    exact h.toLower_ne_of_mem hc hname
  have hname {name : Text} (hmem : 'n' ∈ name) : (takeSign (Text.lowerAscii n.text)).2 ≠ name := by
    rintro rfl
    exact hletter hmem
  have hnan := @hname ['n', 'a', 'n'] (by decide)
  have hinf := @hname ['i', 'n', 'f'] (by decide)
  have hinfinity := @hname "infinity".toList (by decide)
  simp only [named?, hnan, hinf, hinfinity, or_self, ↓reduceIte]

/-- Whatever number stands in a text alone is read as the double nearest to it. -/
theorem WellFormed.double?_text (h : n.WellFormed) : double? n.text = some n.toDouble := by
  simp only [double?, h.trimMargins_text, h.named?_text, h.dropSeparators?_text, Option.bind_some,
    h.ofText?_text, Option.map_some, Option.none_or]

/-- A row of digits is read exactly, up to the limit. -/
theorem SignedRow.integer?_eq (h : SignedRow sign row) : integer? (sign ++ row) =
    if row.length ≤ digitLimit then some (signed sign row) else none := by
  have hmargins := h.wellFormed.trimMargins_text
  have hseparators := h.wellFormed.dropSeparators?_text
  have hsign := takeSign_append_of_isSign h.isSign (head?_ne_sign h.isRow h.ne_nil [])
  have hall : row.all Text.isDecimalDigit = true := List.all_eq_true.mpr h.isRow
  rw [text_ofRow] at hmargins hseparators
  rw [List.append_nil] at hsign
  simp only [integer?, hmargins, hseparators, Option.bind_eq_bind, Option.bind_some, hsign, ne_eq,
    h.ne_nil, not_false_eq_true, hall, true_and]

end

theorem integer?_ofInt {i : Int} (h : (digits i.natAbs).length ≤ digitLimit) :
    integer? (ofInt i) = some i := by
  have hwell := (plain_ofInteger i).laid.wellFormed
  have hrow : SignedRow (signOf i) (digits i.natAbs) :=
    ⟨hwell.sign, hwell.whole, digits_ne_nil i.natAbs⟩
  have htext : ofInt i = signOf i ++ digits i.natAbs :=
    (text_ofInteger i).symm.trans (text_ofRow _ _)
  rw [htext, hrow.integer?_eq, if_pos h, signed_digits]

theorem Laid.takeSign_text {n : Numeral} (h : n.Laid) : takeSign n.text =
    (n.sign, n.whole ++ (fractionText n.fraction ++ (n.exponent.map Exponent.text).getD [])) := by
  have htext : n.text = n.sign ++ (n.whole ++
      (fractionText n.fraction ++ (n.exponent.map Exponent.text).getD [])) := by
    simp [Numeral.text]
  rw [htext]
  exact takeSign_append_of_isSign h.wellFormed.sign
    (head?_ne_sign h.wellFormed.whole h.whole.ne_nil _)

/-- A fraction or an exponent is no part of an integer. -/
theorem Laid.integer?_eq_none {n : Numeral} (h : n.Laid)
    (hdouble : n.fraction = none → n.exponent ≠ none) : integer? n.text = none := by
  have hforeign : ∃ c ∈ fractionText n.fraction ++ (n.exponent.map Exponent.text).getD [],
      Text.isDecimalDigit c = false := by
    cases hfraction : n.fraction with
    | some row => exact ⟨'.', List.mem_cons_self, by decide⟩
    | none =>
      obtain ⟨e, he⟩ := Option.ne_none_iff_exists'.mp (hdouble hfraction)
      have hmark := (h.exponent e he).1
      refine ⟨'e', ?_, by decide⟩
      rw [he]
      simp [fractionText, Exponent.text, hmark]
  obtain ⟨c, hmem, hc⟩ := hforeign
  have hall : (n.whole ++ (fractionText n.fraction ++
      (n.exponent.map Exponent.text).getD [])).all Text.isDecimalDigit = false :=
    List.all_eq_false.mpr ⟨c, List.mem_append_right _ hmem, by simp [hc]⟩
  simp only [integer?, h.wellFormed.trimMargins_text, h.wellFormed.dropSeparators?_text,
    Option.bind_eq_bind, Option.bind_some, h.takeSign_text, hall, Bool.false_eq_true, false_and,
    and_false, ↓reduceIte]

/-- A finite double is read from its own text, which no integer has. -/
theorem double?_text {d : Double} (h : d.isFinite = true) :
    integer? d.text = none ∧ double? d.text = some d := by
  cases d with
  | nan => cases h
  | infinite => cases h
  | finite negative m hm =>
    have hlaid := Double.laid_parts negative m
    rw [Double.text, ← Double.text_parts]
    refine ⟨hlaid.integer?_eq_none Double.exponent_parts_ne_none, ?_⟩
    rw [hlaid.wellFormed.double?_text, Double.toDouble_parts negative hm]

/-! Words that no number starts with. -/

/-- A character that starts neither a number nor a name that a double has, nor stands around one. -/
structure Foreign (c : Char) : Prop where
  margin : Text.isMargin c = false
  digit : Text.isDecimalDigit c = false
  lower : c.toLower = c
  other : c ∉ ['_', '+', '-', '.', 'n', 'i']

section
variable {c : Char} {rest : Text}

theorem exists_trimMargins_cons (hc : Text.isMargin c = false) (rest : Text) :
    ∃ more, Text.trimMargins (c :: rest) = c :: more := by
  have hdrop : (c :: rest).dropWhile Text.isMargin = c :: rest := by simp [hc]
  rw [Text.trimMargins, hdrop, List.reverse_cons, List.dropWhile_append]
  split
  · exact ⟨[], by simp [hc]⟩
  · exact ⟨_, by rw [List.reverse_append]; rfl⟩

theorem exists_dropSeparators?_cons (hc : c ≠ '_') {text : Text}
    (h : dropSeparators? (c :: rest) = some text) : ∃ more, text = c :: more := by
  rw [dropSeparators?, dropSeparators?.go] at h
  · obtain ⟨more, -, htext⟩ := Option.map_eq_some_iff.mp h
    exact ⟨more, htext.symm⟩
  · rintro _ _ rfl
    exact fun _ => hc rfl
  · rintro rfl
    exact fun _ => hc rfl

theorem Foreign.ne {d : Char} (hc : Foreign c) (hd : d ∈ ['_', '+', '-', '.', 'n', 'i']) :
    c ≠ d := by
  rintro rfl
  exact hc.other hd

theorem Foreign.takeSign_cons (hc : Foreign c) (rest : Text) :
    takeSign (c :: rest) = ([], c :: rest) :=
  takeSign_of_ne (hc.ne (by decide)) (hc.ne (by decide)) rest

theorem Foreign.scan_cons (hc : Foreign c) (rest : Text) : scan (c :: rest) = none := by
  refine scan_of_ne hc.digit ?_ rest
  simp only [List.mem_cons, List.not_mem_nil, or_false, not_or]
  exact ⟨hc.ne (by decide), hc.ne (by decide), hc.ne (by decide)⟩

theorem Foreign.integer?_cons (hc : Foreign c) (rest : Text) : integer? (c :: rest) = none := by
  obtain ⟨more, hmore⟩ := exists_trimMargins_cons hc.margin rest
  rw [integer?, hmore]
  cases htext : dropSeparators? (c :: more) with
  | none => rfl
  | some text =>
    obtain ⟨row, rfl⟩ := exists_dropSeparators?_cons (hc.ne (by decide)) htext
    have hall : (c :: row).all Text.isDecimalDigit = false := by simp [hc.digit]
    simp only [Option.bind_eq_bind, Option.bind_some, hc.takeSign_cons, hall, Bool.false_eq_true,
      false_and, and_false, ↓reduceIte]

theorem Foreign.named?_cons (hc : Foreign c) (rest : Text) : named? (c :: rest) = none := by
  have hlower : Text.lowerAscii (c :: rest) = c :: Text.lowerAscii rest := by
    rw [Text.lowerAscii, List.map_cons, hc.lower]
    rfl
  have hn := hc.ne (d := 'n') (by decide)
  have hi := hc.ne (d := 'i') (by decide)
  simp [named?, hlower, hc.takeSign_cons, hn, hi]

theorem Foreign.double?_cons (hc : Foreign c) (rest : Text) : double? (c :: rest) = none := by
  obtain ⟨more, hmore⟩ := exists_trimMargins_cons hc.margin rest
  simp only [double?, hmore, hc.named?_cons, Option.none_or, Option.map_eq_none_iff,
    Option.bind_eq_none_iff]
  intro text htext
  obtain ⟨row, rfl⟩ := exists_dropSeparators?_cons (hc.ne (by decide)) htext
  rw [ofText?, hc.scan_cons]

end

end SqlTemplate.Numeral
