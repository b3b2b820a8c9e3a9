import Mathlib.Tactic.SplitIfs
import SqlTemplate.Proofs.Outcome
import SqlTemplate.Text.Utf8

/-! What is encoded is decoded again, and nothing else is decoded. -/
namespace SqlTemplate.Text.Utf8

/-- A byte in the range that is owed next is taken, and its last six bits are added. -/
theorem continuation_cons {owed low high value : Nat} {b : UInt8} {bytes : List UInt8}
    {r : Nat × List UInt8} (hlow : low ≤ b.toNat) (hhigh : b.toNat ≤ high)
    (h : continuation owed 0x80 0xBF (64 * value + b.toNat % 64) bytes = .ok r) :
    continuation (owed + 1) low high value (b :: bytes) = .ok r := by
  rw [continuation, if_pos ⟨hlow, hhigh⟩, h]

theorem le_of_shape? {b : UInt8} {r : Nat × Nat × Nat} (h : shape? b = some r) :
    0x80 ≤ b.toNat := by
  rw [shape?] at h
  split_ifs at h <;> omega

/-- A first byte whose followers make up the number of a character. -/
theorem decodeFrom_shaped {b : UInt8} {owed low high lead : Nat} {bytes rest : List UInt8}
    {c : Char} (hshape : shape? b = some (owed, low, high)) (hlead : leadBits b owed = lead)
    (h : continuation owed low high lead bytes = .ok (c.toNat, rest)) (position : Nat) :
    decodeFrom position (b :: bytes) = (c :: ·) <$> decodeFrom (position + 1 + owed) rest := by
  rw [decodeFrom, if_neg (Nat.not_lt.mpr (le_of_shape? hshape)), hshape]
  subst hlead
  dsimp only
  split
  · next hfault => cases h.symm.trans hfault
  · next hvalue =>
    cases h.symm.trans hvalue
    rw [Char.ofNat_toNat]

theorem toNat_ofNat_of_lt {n : Nat} (h : n < 256) : (UInt8.ofNat n).toNat = n := by
  rw [UInt8.toNat_ofNat', Nat.mod_eq_of_lt h]

/-- The byte that carries the last six bits of a number. -/
theorem toNat_tail (n : Nat) : (UInt8.ofNat (0x80 + n % 64)).toNat = 0x80 + n % 64 :=
  toNat_ofNat_of_lt (by omega)

theorem continuation_tail {owed low high value n : Nat} {bytes : List UInt8}
    {r : Nat × List UInt8} (hlow : low ≤ 0x80 + n % 64) (hhigh : 0x80 + n % 64 ≤ high)
    (h : continuation owed 0x80 0xBF (64 * value + n % 64) bytes = .ok r) :
    continuation (owed + 1) low high value (UInt8.ofNat (0x80 + n % 64) :: bytes) = .ok r := by
  refine continuation_cons ?_ ?_ ?_ <;> rw [toNat_tail]
  · exact hlow
  · exact hhigh
  · rw [show (0x80 + n % 64) % 64 = n % 64 by omega]
    exact h

/-- The bits of a first byte that are above its mark. -/
theorem leadBits_ofNat {mark n owed : Nat} (hmark : mark % (64 >>> owed) = 0)
    (hn : n < 64 >>> owed) (hbyte : mark + n < 256) : leadBits (.ofNat (mark + n)) owed = n := by
  rw [leadBits, toNat_ofNat_of_lt hbyte, Nat.add_mod, hmark, Nat.zero_add, Nat.mod_mod,
    Nat.mod_eq_of_lt hn]

/-! The first byte tells the width. Its range and that of the second byte leave out the numbers that
a shorter form has, the surrogates, and what is beyond the last character. -/

section
variable {n : Nat}

theorem shape?_two (hlow : 0x80 ≤ n) (hhigh : n < 0x800) :
    shape? (.ofNat (0xC0 + n / 64)) = some (1, 0x80, 0xBF) := by
  rw [shape?, toNat_ofNat_of_lt (by omega)]
  exact if_pos (by omega)

theorem shape?_three (hlow : 0x800 ≤ n) (hhigh : n < 0x10000)
    (hvalid : n < 0xD800 ∨ 0xDFFF < n) :
    ∃ low high, shape? (.ofNat (0xE0 + n / 64 / 64)) = some (2, low, high) ∧
      low ≤ 0x80 + n / 64 % 64 ∧ 0x80 + n / 64 % 64 ≤ high := by
  rw [shape?, toNat_ofNat_of_lt (by omega)]
  split_ifs
  · omega
  · exact ⟨_, _, rfl, by omega, by omega⟩
  · exact ⟨_, _, rfl, by omega, by omega⟩
  · exact ⟨_, _, rfl, by omega, by omega⟩
  all_goals omega

theorem shape?_four (hlow : 0x10000 ≤ n) (hhigh : n < 0x110000) :
    ∃ low high, shape? (.ofNat (0xF0 + n / 64 / 64 / 64)) = some (3, low, high) ∧
      low ≤ 0x80 + n / 64 / 64 % 64 ∧ 0x80 + n / 64 / 64 % 64 ≤ high := by
  rw [shape?, toNat_ofNat_of_lt (by omega)]
  split_ifs
  iterate 4 omega
  · exact ⟨_, _, rfl, by omega, by omega⟩
  · exact ⟨_, _, rfl, by omega, by omega⟩
  · exact ⟨_, _, rfl, by omega, by omega⟩
  · omega

/-- Digits to the base 64 make up the number again. -/
theorem continuation_two (low high : Nat) (bytes : List UInt8)
    (hlow : low ≤ 0x80 + n % 64) (hhigh : 0x80 + n % 64 ≤ high) :
    continuation 1 low high (n / 64) (UInt8.ofNat (0x80 + n % 64) :: bytes) = .ok (n, bytes) := by
  refine continuation_tail hlow hhigh ?_
  rw [continuation, Nat.div_add_mod]

theorem continuation_three (low high : Nat) (bytes : List UInt8)
    (hlow : low ≤ 0x80 + n / 64 % 64) (hhigh : 0x80 + n / 64 % 64 ≤ high) :
    continuation 2 low high (n / 64 / 64) (UInt8.ofNat (0x80 + n / 64 % 64) ::
      UInt8.ofNat (0x80 + n % 64) :: bytes) = .ok (n, bytes) := by
  refine continuation_tail hlow hhigh ?_
  rw [Nat.div_add_mod]
  exact continuation_two _ _ bytes (by omega) (by omega)

theorem continuation_four (low high : Nat) (bytes : List UInt8)
    (hlow : low ≤ 0x80 + n / 64 / 64 % 64) (hhigh : 0x80 + n / 64 / 64 % 64 ≤ high) :
    continuation 3 low high (n / 64 / 64 / 64) (UInt8.ofNat (0x80 + n / 64 / 64 % 64) ::
      UInt8.ofNat (0x80 + n / 64 % 64) :: UInt8.ofNat (0x80 + n % 64) :: bytes) =
        .ok (n, bytes) := by
  refine continuation_tail hlow hhigh ?_
  rw [Nat.div_add_mod]
  exact continuation_three _ _ bytes (by omega) (by omega)

end

/-- The bytes of a character by its number, in digits to the base 64. -/
theorem encodeChar_eq (c : Char) : encodeChar c =
    let n := c.toNat
    if n < 0x80 then [.ofNat n]
    else if n < 0x800 then [.ofNat (0xC0 + n / 64), .ofNat (0x80 + n % 64)]
    else if n < 0x10000 then
      [.ofNat (0xE0 + n / 64 / 64), .ofNat (0x80 + n / 64 % 64), .ofNat (0x80 + n % 64)]
    else [.ofNat (0xF0 + n / 64 / 64 / 64), .ofNat (0x80 + n / 64 / 64 % 64),
      .ofNat (0x80 + n / 64 % 64), .ofNat (0x80 + n % 64)] := by
  simp [encodeChar, Nat.shiftRight_eq_div_pow, Nat.div_div_eq_div_mul]

/-- The bytes of a character come back as that character, whatever follows them. -/
theorem decodeFrom_encodeChar (c : Char) (position : Nat) (bytes : List UInt8) :
    ∃ next, decodeFrom position (encodeChar c ++ bytes) = (c :: ·) <$> decodeFrom next bytes := by
  have hvalid : c.toNat < 0xD800 ∨ 0xDFFF < c.toNat ∧ c.toNat < 0x110000 := c.valid
  rw [encodeChar_eq]
  dsimp only
  split_ifs with hone htwo hthree
  · refine ⟨position + 1, ?_⟩
    have hbyte : (UInt8.ofNat c.toNat).toNat = c.toNat := toNat_ofNat_of_lt (by omega)
    rw [List.singleton_append, decodeFrom, hbyte, if_pos hone, Char.ofNat_toNat]
  · have hshape := shape?_two (by omega) htwo
    have hlead : leadBits (.ofNat (0xC0 + c.toNat / 64)) 1 = c.toNat / 64 :=
      leadBits_ofNat rfl (Nat.div_lt_of_lt_mul htwo) (by omega)
    have htail := continuation_two 0x80 0xBF bytes (n := c.toNat) (by omega) (by omega)
    exact ⟨_, decodeFrom_shaped hshape hlead htail position⟩
  · obtain ⟨low, high, hshape, hlow, hhigh⟩ := shape?_three (by omega) hthree (by omega)
    have hlead : leadBits (.ofNat (0xE0 + c.toNat / 64 / 64)) 2 = c.toNat / 64 / 64 :=
      leadBits_ofNat rfl (Nat.div_lt_of_lt_mul (Nat.div_lt_of_lt_mul hthree)) (by omega)
    have htail := continuation_three low high bytes hlow hhigh
    exact ⟨_, decodeFrom_shaped hshape hlead htail position⟩
  · have hhigh : c.toNat < 0x110000 := by omega
    obtain ⟨low, high, hshape, hsecond⟩ := shape?_four (by omega) hhigh
    have hlead : leadBits (.ofNat (0xF0 + c.toNat / 64 / 64 / 64)) 3 = c.toNat / 64 / 64 / 64 :=
      leadBits_ofNat rfl (by change _ < 8; omega) (by omega)
    have htail := continuation_four low high bytes hsecond.1 hsecond.2
    exact ⟨_, decodeFrom_shaped hshape hlead htail position⟩

/-- What is encoded is decoded to the same text. -/
theorem decode_encode (text : Text) : decode (encode text) = .ok text := by
  suffices h : ∀ position, decodeFrom position (encode text) = .ok text from h 0
  induction text with
  | nil =>
    intro position
    simp [encode, decodeFrom]
  | cons c rest ih =>
    intro position
    obtain ⟨next, hnext⟩ := decodeFrom_encodeChar c position (encode rest)
    rw [encode, List.flatMap_cons, ← encode, hnext, ih next]
    rfl

/-! The other way: bytes that are decoded are what the text is encoded to. -/

/-- A byte that is owed is there, and what goes on behind it succeeds. -/
theorem exists_of_continuation_succ {owed low high value : Nat} {bytes : List UInt8}
    {r : Nat × List UInt8} (h : continuation (owed + 1) low high value bytes = .ok r) :
    ∃ b rest, bytes = b :: rest ∧ low ≤ b.toNat ∧ b.toNat ≤ high ∧
      continuation owed 0x80 0xBF (64 * value + b.toNat % 64) rest = .ok r := by
  cases bytes with
  | nil => cases h
  | cons b rest =>
    rw [continuation] at h
    split_ifs at h with hrange
    split at h
    · next r' hr =>
      cases h
      exact ⟨b, rest, rfl, hrange.1, hrange.2, hr⟩
    · cases h

theorem ofNat_eq_of_toNat {n : Nat} {b : UInt8} (h : n = b.toNat) : UInt8.ofNat n = b := by
  rw [h, UInt8.ofNat_toNat]

section
variable {b : UInt8} {low high value : Nat} {bytes rest : List UInt8}

/-- What a first byte says of the bytes that are owed. The second byte leaves out shorter forms,
surrogates and what is beyond the last character. -/
theorem shape?_cases {owed : Nat} (h : shape? b = some (owed, low, high)) :
    (owed = 1 ∧ 0xC2 ≤ b.toNat ∧ b.toNat ≤ 0xDF ∧ 0x80 ≤ low ∧ high ≤ 0xBF) ∨
    (owed = 2 ∧ 0xE0 ≤ b.toNat ∧ b.toNat ≤ 0xEF ∧ 0x80 ≤ low ∧ high ≤ 0xBF ∧
      (b.toNat = 0xE0 → 0xA0 ≤ low) ∧ (b.toNat = 0xED → high ≤ 0x9F)) ∨
    (owed = 3 ∧ 0xF0 ≤ b.toNat ∧ b.toNat ≤ 0xF4 ∧ 0x80 ≤ low ∧ high ≤ 0xBF ∧
      (b.toNat = 0xF0 → 0x90 ≤ low) ∧ (b.toNat = 0xF4 → high ≤ 0x8F)) := by
  rw [shape?] at h
  split_ifs at h <;> cases h <;> omega

theorem encodeChar_of_continuation_one
    (hfirst : 0xC2 ≤ b.toNat ∧ b.toNat ≤ 0xDF ∧ 0x80 ≤ low ∧ high ≤ 0xBF)
    (h : continuation 1 low high (leadBits b 1) bytes = .ok (value, rest)) :
    encodeChar (Char.ofNat value) ++ rest = b :: bytes := by
  obtain ⟨c, bytes, rfl, hc, hc', h⟩ := exists_of_continuation_succ h
  cases h
  have hlead : leadBits b 1 = b.toNat - 0xC0 := by
    change b.toNat % 32 = _
    omega
  rw [hlead]
  have hvalid : (64 * (b.toNat - 0xC0) + c.toNat % 64).isValidChar := .inl (by omega)
  rw [encodeChar_eq, toNat_ofNat_of_isValidChar hvalid]
  dsimp only
  rw [if_neg (by omega), if_pos (by omega), @ofNat_eq_of_toNat _ b (by omega),
    @ofNat_eq_of_toNat _ c (by omega)]
  rfl

theorem encodeChar_of_continuation_two
    (hfirst : 0xE0 ≤ b.toNat ∧ b.toNat ≤ 0xEF ∧ 0x80 ≤ low ∧ high ≤ 0xBF ∧
      (b.toNat = 0xE0 → 0xA0 ≤ low) ∧ (b.toNat = 0xED → high ≤ 0x9F))
    (h : continuation 2 low high (leadBits b 2) bytes = .ok (value, rest)) :
    encodeChar (Char.ofNat value) ++ rest = b :: bytes := by
  obtain ⟨c, bytes, rfl, hc, hc', h⟩ := exists_of_continuation_succ h
  obtain ⟨d, bytes, rfl, hd, hd', h⟩ := exists_of_continuation_succ h
  cases h
  have hlead : leadBits b 2 = b.toNat - 0xE0 := by
    change b.toNat % 16 = _
    omega
  rw [hlead]
  have hvalid : (64 * (64 * (b.toNat - 0xE0) + c.toNat % 64) + d.toNat % 64).isValidChar := by
    rw [Nat.isValidChar]
    omega
  rw [encodeChar_eq, toNat_ofNat_of_isValidChar hvalid]
  dsimp only
  rw [if_neg (by omega), if_neg (by omega), if_pos (by omega), @ofNat_eq_of_toNat _ b (by omega),
    @ofNat_eq_of_toNat _ c (by omega), @ofNat_eq_of_toNat _ d (by omega)]
  rfl

theorem encodeChar_of_continuation_three
    (hfirst : 0xF0 ≤ b.toNat ∧ b.toNat ≤ 0xF4 ∧ 0x80 ≤ low ∧ high ≤ 0xBF ∧
      (b.toNat = 0xF0 → 0x90 ≤ low) ∧ (b.toNat = 0xF4 → high ≤ 0x8F))
    (h : continuation 3 low high (leadBits b 3) bytes = .ok (value, rest)) :
    encodeChar (Char.ofNat value) ++ rest = b :: bytes := by
  obtain ⟨c, bytes, rfl, hc, hc', h⟩ := exists_of_continuation_succ h
  obtain ⟨d, bytes, rfl, hd, hd', h⟩ := exists_of_continuation_succ h
  obtain ⟨e, bytes, rfl, he, he', h⟩ := exists_of_continuation_succ h
  cases h
  have hlead : leadBits b 3 = b.toNat - 0xF0 := by
    change b.toNat % 8 = _
    omega
  rw [hlead]
  have hvalid : (64 * (64 * (64 * (b.toNat - 0xF0) + c.toNat % 64) + d.toNat % 64) +
      e.toNat % 64).isValidChar := by
    rw [Nat.isValidChar]
    omega
  rw [encodeChar_eq, toNat_ofNat_of_isValidChar hvalid]
  dsimp only
  rw [if_neg (by omega), if_neg (by omega), if_neg (by omega), @ofNat_eq_of_toNat _ b (by omega),
    @ofNat_eq_of_toNat _ c (by omega), @ofNat_eq_of_toNat _ d (by omega),
    @ofNat_eq_of_toNat _ e (by omega)]
  rfl

/-- The bytes that make up the number of a character are the bytes of that character. -/
theorem encodeChar_of_continuation {owed : Nat} (hshape : shape? b = some (owed, low, high))
    (h : continuation owed low high (leadBits b owed) bytes = .ok (value, rest)) :
    encodeChar (Char.ofNat value) ++ rest = b :: bytes := by
  rcases shape?_cases hshape with ⟨rfl, hfirst⟩ | ⟨rfl, hfirst⟩ | ⟨rfl, hfirst⟩
  · exact encodeChar_of_continuation_one hfirst h
  · exact encodeChar_of_continuation_two hfirst h
  · exact encodeChar_of_continuation_three hfirst h

end

theorem encode_of_decodeFrom {position : Nat} {bytes : List UInt8} {text : Text}
    (h : decodeFrom position bytes = .ok text) : encode text = bytes := by
  fun_induction decodeFrom position bytes generalizing text with
  | case1 =>
    cases h
    rfl
  | case2 position b bytes hone ih =>
    obtain ⟨text, hrest, rfl⟩ := Outcome.map_eq_ok_iff.mp h
    have hchar : encodeChar (Char.ofNat b.toNat) = [b] := by
      rw [encodeChar_eq, toNat_ofNat_of_isValidChar (.inl (by omega))]
      simp [hone]
    rw [encode, List.flatMap_cons, ← encode, ih hrest, hchar]
    rfl
  | case3 => cases h
  | case4 => cases h
  | case5 position b bytes _ owed low high hshape value rest hvalue _ ih =>
    obtain ⟨text, hrest, rfl⟩ := Outcome.map_eq_ok_iff.mp h
    rw [encode, List.flatMap_cons, ← encode, ih hrest, encodeChar_of_continuation hshape hvalue]

/-- The bytes that are decoded to a text are those that it is encoded to. -/
theorem decode_eq_ok_iff {bytes : List UInt8} {text : Text} :
    decode bytes = .ok text ↔ bytes = encode text := by
  constructor
  · intro h
    exact (encode_of_decodeFrom h).symm
  · rintro rfl
    exact decode_encode text

/-- Bytes are not decoded if and only if they encode no text. -/
theorem exists_decode_error_iff {bytes : List UInt8} :
    (∃ cause, decode bytes = .error cause) ↔ ∀ text, bytes ≠ encode text := by
  simp only [← decode_eq_ok_iff, ne_eq]
  cases decode bytes <;> simp

end SqlTemplate.Text.Utf8
