import SqlTemplate.Text.Hex

/-! Halves of surrogate pairs. A code escape may name a half without its partner, which is no
character and has no encoding. A character of a private plane stands for each of them, so that what
differs in a half differs here too. These characters are taken to be halves wherever they stand: no
text is meant to have one for itself. -/
namespace SqlTemplate.Text

/-- The first code unit that is a half, and the character that stands for it. -/
def firstHalf : Nat := 0xD800
def firstStandIn : Nat := 0x10F000

def halfCount : Nat := 0x800

/-- The character that stands for a half. -/
def standIn (half : Nat) : Char := Char.ofNat (firstStandIn + (half - firstHalf))

/-- The half that a character stands for. -/
def half? (c : Char) : Option Nat :=
  if firstStandIn ≤ c.toNat ∧ c.toNat < firstStandIn + halfCount then
    some (firstHalf + (c.toNat - firstStandIn))
  else none

/-- Each half has a stand-in of its own. -/
theorem half?_standIn {half : Nat} (hfirst : firstHalf ≤ half)
    (hlast : half < firstHalf + halfCount) : half? (standIn half) = some half := by
  simp only [firstHalf, halfCount] at hfirst hlast
  have hvalid : (0x10F000 + (half - 0xD800)).isValidChar := .inr (by omega)
  have hcode : (standIn half).toNat = 0x10F000 + (half - 0xD800) :=
    toNat_ofNat_of_isValidChar hvalid
  rw [half?, hcode, if_pos (by simp only [firstStandIn, halfCount]; omega)]
  simp only [firstStandIn, firstHalf, Option.some.injEq]
  omega

/-- Text without halves. -/
def isWhole (text : Text) : Bool := text.all fun c => (half? c).isNone

theorem not_mem_of_half {c : Char} {text : Text} (hhalf : (half? c).isSome = true)
    (h : isWhole text = true) : c ∉ text := by
  intro hc
  have hnone := Option.isNone_iff_eq_none.mp (List.all_eq_true.mp h c hc)
  rw [hnone] at hhalf
  cases hhalf

/-- The halves that stand for the bytes of a name that encodes no text. -/
def firstByteHalf : Nat := 0xDC80
def lastByteHalf : Nat := 0xDCFF

/-- A half that stands for no byte either. -/
def isStrayHalf (c : Char) : Bool :=
  (half? c).any fun half => half < firstByteHalf || lastByteHalf < half

/-- Why a text with halves has no encoding, by the place of the first of them. -/
def halfFault? (text : Text) : Option String :=
  let rest := text.dropWhile fun c => (half? c).isNone
  let first := text.length - rest.length
  let fault (what : String) := s!"'utf-8' codec can't encode {what}: surrogates not allowed"
  match (rest.map half?).takeWhile Option.isSome with
  | [] => none
  | [half] =>
    let code := String.ofList (hexDigits 4 (half.getD 0))
    some (fault s!"character '\\u{code}' in position {first}")
  | halves => some (fault s!"characters in position {first}-{first + halves.length - 1}")

theorem halfFault?_eq_none {text : Text} (h : isWhole text = true) : halfFault? text = none := by
  have hrest : text.dropWhile (fun c => (half? c).isNone) = [] := by
    induction text with
    | nil => rfl
    | cons c rest ih =>
      obtain ⟨hc, hrest⟩ := Bool.and_eq_true_iff.mp h
      simp [hc, ih hrest]
  simp [halfFault?, hrest]

example : halfFault? ['a', standIn 0xD834, standIn 0xD800, 'b'] =
    some "'utf-8' codec can't encode characters in position 1-2: surrogates not allowed" := by
  decide +kernel

end SqlTemplate.Text
