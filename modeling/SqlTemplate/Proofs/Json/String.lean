import SqlTemplate.Json.Reader
import SqlTemplate.Json.Writer
import SqlTemplate.Proofs.Outcome
import SqlTemplate.Proofs.Text.Hex

/-! JSON strings. Whatever is escaped, by a letter or by the codes of its units, is read back, and
no more of the text is used than was written. -/
namespace SqlTemplate.Json

/-! Code escapes. -/

theorem codeUnit?_hexDigits {n : Nat} {rest : Text} (hn : n < 0x10000) (hrest : rest ≠ []) :
    codeUnit? (Text.hexDigits 4 n ++ rest) = some n := by
  have hwidth : n < 16 ^ 4 := hn
  have hlength : 4 < (Text.hexDigits 4 n ++ rest).length := by
    have hpos := List.length_pos_iff.mpr hrest
    simp
    omega
  rw [codeUnit?, if_pos hlength, List.take_left' (Text.length_hexDigits 4 n),
    Text.hexNumber?_hexDigits, Nat.mod_eq_of_lt hwidth]

theorem unitChar_toNat {c : Char} (h : c.toNat < 0x10000) :
    isHighSurrogate c.toNat = false ∧ unitChar c.toNat = c := by
  have hvalid : c.toNat < 0xD800 ∨ 0xDFFF < c.toNat ∧ c.toNat < 0x110000 := c.valid
  have hhigh : isHighSurrogate c.toNat = false := by
    simp [isHighSurrogate]
    omega
  have hlow : isLowSurrogate c.toNat = false := by
    simp [isLowSurrogate]
    omega
  exact ⟨hhigh, by simp [unitChar, hhigh, hlow]⟩

/-- One code escape stands for a character that fits into it. -/
theorem codeEscape_bmp (position : Nat) {c : Char} {rest : Text} (hc : c.toNat < 0x10000)
    (hrest : rest ≠ []) : codeEscape position (Text.hexDigits 4 c.toNat ++ rest) =
      .ok (c, (Text.hexDigits 4 c.toNat).length) := by
  obtain ⟨hhigh, hchar⟩ := unitChar_toNat hc
  rw [codeEscape, codeUnit?_hexDigits hc hrest, Text.length_hexDigits]
  simp only [List.drop_left' (Text.length_hexDigits 4 c.toNat), hhigh, hchar, Bool.false_eq_true,
    false_and, ↓reduceIte]
  split <;> rfl

/-- A surrogate pair stands for one character. -/
theorem codeEscape_pair (position : Nat) {high low : Nat} {rest : Text}
    (hhigh : isHighSurrogate high = true) (hlow : isLowSurrogate low = true) (hrest : rest ≠ []) :
    codeEscape position (Text.hexDigits 4 high ++ codeText low ++ rest) =
      .ok (joinSurrogates high low, (Text.hexDigits 4 high ++ codeText low).length) := by
  have hsmall : high < 0x10000 ∧ low < 0x10000 := by
    simp [isHighSurrogate, isLowSurrogate] at hhigh hlow
    omega
  have hlength : 4 < (Text.hexDigits 4 low ++ rest).length := by
    have hpos := List.length_pos_iff.mpr hrest
    simp
    omega
  have hunit : codeUnit? (Text.hexDigits 4 high ++ (codeText low ++ rest)) = some high :=
    codeUnit?_hexDigits hsmall.1 (by simp [codeText])
  rw [List.append_assoc, codeEscape, hunit]
  simp only [List.drop_left' (Text.length_hexDigits 4 high), codeText, List.cons_append, hhigh,
    hlength, and_self, ↓reduceIte, codeUnit?_hexDigits hsmall.2 hrest, hlow]
  simp

/-- The two surrogates that a character beyond the code units is written as. -/
theorem joinSurrogates_split {c : Char} {n : Nat} (hc : c.toNat = 0x10000 + n) :
    isHighSurrogate (0xD800 + n / 0x400) = true ∧ isLowSurrogate (0xDC00 + n % 0x400) = true ∧
      joinSurrogates (0xD800 + n / 0x400) (0xDC00 + n % 0x400) = c := by
  have hvalid : c.toNat < 0xD800 ∨ 0xDFFF < c.toNat ∧ c.toNat < 0x110000 := c.valid
  have hsum : 0x10000 + (0xD800 + n / 0x400 - 0xD800) * 0x400 +
      (0xDC00 + n % 0x400 - 0xDC00) = c.toNat := by omega
  refine ⟨?_, ?_, ?_⟩
  · simp [isHighSurrogate]
    omega
  · simp [isLowSurrogate]
    omega
  · rw [joinSurrogates, hsum, Char.ofNat_toNat]

/-! One step of a string over what stands for a character. -/

section
variable {start fuel position : Nat} {c : Char} {rest : Text}

/-- A character is put in front of a string. -/
def prepend (c : Char) (r : Text × Cursor) : Text × Cursor := (c :: r.1, r.2)

theorem prepend_map (x : Except Error (Text × Cursor)) : (do
    let (text, after) ← x
    pure (c :: text, after)) = prepend c <$> x := by
  cases x <;> rfl

theorem stringBody_short {letter : Char} (hshort : shortEscape? letter = some c)
    (hletter : letter ≠ 'u') (hrest : rest ≠ []) :
    stringBody start (fuel + 1) ⟨position, '\\' :: letter :: rest⟩ =
      prepend c <$> stringBody start fuel ⟨position + 2, rest⟩ := by
  obtain ⟨next, more, rfl⟩ := List.exists_cons_of_ne_nil hrest
  rw [← prepend_map, stringBody.eq_def]
  simp [hshort, Cursor.skip]

theorem stringBody_code {escape : Text}
    (h : codeEscape (position + 1) (escape ++ rest) = .ok (c, escape.length)) :
    stringBody start (fuel + 1) ⟨position, '\\' :: 'u' :: (escape ++ rest)⟩ =
      prepend c <$> stringBody start fuel ⟨position + (2 + escape.length), rest⟩ := by
  have hskip : (⟨position, '\\' :: 'u' :: (escape ++ rest)⟩ : Cursor).skip (2 + escape.length) =
      ⟨position + (2 + escape.length), rest⟩ := by
    simp [Cursor.skip, Nat.add_comm 2]
  rw [← prepend_map, stringBody.eq_def]
  simp only [h, Outcome.ok_bind, hskip]

theorem stringBody_plain (hquote : c ≠ '"') (hslash : c ≠ '\\') (hcontrol : ¬ c.toNat < 0x20) :
    stringBody start (fuel + 1) ⟨position, c :: rest⟩ =
      prepend c <$> stringBody start fuel ⟨position + 1, rest⟩ := by
  rw [← prepend_map, stringBody.eq_def]
  simp [hslash, hcontrol, Cursor.skip]

end

/-- A character is read from what is written for it. -/
theorem stringBody_charText (start fuel position : Nat) (c : Char) {rest : Text}
    (hrest : rest ≠ []) : stringBody start (fuel + 1) ⟨position, charText c ++ rest⟩ =
      prepend c <$> stringBody start fuel ⟨position + (charText c).length, rest⟩ := by
  unfold charText
  split_ifs with hquote hn hr ht hb hf hplain hbmp
  · rcases hquote with rfl | rfl
    · exact stringBody_short rfl (by decide) hrest
    · exact stringBody_short rfl (by decide) hrest
  · subst hn
    exact stringBody_short rfl (by decide) hrest
  · subst hr
    exact stringBody_short rfl (by decide) hrest
  · subst ht
    exact stringBody_short rfl (by decide) hrest
  · subst hb
    exact stringBody_short rfl (by decide) hrest
  · subst hf
    exact stringBody_short rfl (by decide) hrest
  · rw [not_or] at hquote
    exact stringBody_plain hquote.1 hquote.2 (by omega)
  · have hcode := codeEscape_bmp (position + 1) hbmp hrest
    exact stringBody_code hcode
  · obtain ⟨n, hn⟩ := Nat.exists_eq_add_of_le (Nat.le_of_not_lt hbmp)
    obtain ⟨hhigh, hlow, hjoin⟩ := joinSurrogates_split hn
    have hcode := codeEscape_pair (position + 1) hhigh hlow hrest
    rw [hjoin] at hcode
    have hrest' : c.toNat - 0x10000 = n := by omega
    rw [hrest']
    exact stringBody_code hcode

theorem charText_ne_nil (c : Char) : charText c ≠ [] := by
  unfold charText
  split_ifs <;> simp [codeText]

/-- A string holds no control characters as they are. -/
theorem printed_charText {c : Char} : ∀ d ∈ charText c, 0x20 ≤ d.toNat ∧ d.toNat < 0x80 := by
  have hcode (n : Nat) : ∀ d ∈ codeText n, 0x20 ≤ d.toNat ∧ d.toNat < 0x80 := by
    rw [codeText, List.forall_mem_cons, List.forall_mem_cons]
    exact ⟨by decide, by decide, Text.printed_hexDigits⟩
  unfold charText
  split_ifs with hquote hn hr ht hb hf hplain hbmp
  · rcases hquote with rfl | rfl <;> simp
  · simp
  · simp
  · simp
  · simp
  · simp
  · rw [List.forall_mem_singleton]
    omega
  · exact hcode _
  · exact List.forall_mem_append.mpr ⟨hcode _, hcode _⟩

theorem length_le_length_flatMap_charText (text : Text) :
    text.length ≤ (text.flatMap charText).length := by
  induction text with
  | nil => exact Nat.le_refl 0
  | cons c text ih =>
    have hpos := List.length_pos_iff.mpr (charText_ne_nil c)
    simp only [List.flatMap_cons, List.length_append, List.length_cons]
    omega

theorem stringBody_flatMap_charText {fuel : Nat} {text : Text} (start position : Nat) (rest : Text)
    (hfuel : text.length < fuel) :
    stringBody start fuel ⟨position, text.flatMap charText ++ '"' :: rest⟩ =
      .ok (text, ⟨position + (text.flatMap charText).length + 1, rest⟩) := by
  induction text generalizing fuel position with
  | nil =>
    obtain ⟨fuel, rfl⟩ := Nat.exists_eq_succ_of_ne_zero (Nat.ne_zero_of_lt hfuel)
    rfl
  | cons c text ih =>
    obtain ⟨fuel, rfl⟩ := Nat.exists_eq_succ_of_ne_zero (Nat.ne_zero_of_lt hfuel)
    have hrest : text.flatMap charText ++ '"' :: rest ≠ [] := by simp
    rw [List.flatMap_cons, List.append_assoc, stringBody_charText _ _ _ _ hrest,
      ih _ (by simpa using hfuel)]
    simp [prepend, Nat.add_assoc]

/-- A string is read from what is written for it. -/
theorem string_stringText (position : Nat) (text rest : Text) :
    string ⟨position, stringText text ++ rest⟩ =
      .ok (text, ⟨position + (stringText text).length, rest⟩) := by
  have hlength := length_le_length_flatMap_charText text
  have hfuel : text.length < (stringText text ++ rest).length := by
    simp only [stringText, List.length_append, List.length_cons]
    omega
  have hbody := stringBody_flatMap_charText position (position + 1) rest hfuel
  rw [string]
  simpa [stringText, Cursor.skip, Nat.add_assoc, Nat.add_comm 1] using hbody

end SqlTemplate.Json
