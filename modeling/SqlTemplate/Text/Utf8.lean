import SqlTemplate.Text.Basic

/-! UTF-8 with the place and the cause of the first fault. -/
namespace SqlTemplate.Text.Utf8

inductive Fault
  | startByte
  | continuationByte
  | endOfData
  deriving DecidableEq, Repr

/-- The bytes from `first` through `last` are no part of a character; `lead` is the first. -/
structure DecodeError where
  fault : Fault
  lead : UInt8
  first : Nat
  last : Nat
  deriving DecidableEq, Repr

def Fault.reason : Fault → String
  | .startByte => "invalid start byte"
  | .continuationByte => "invalid continuation byte"
  | .endOfData => "unexpected end of data"

/-- How many bytes follow a first byte, and the range in which the second one lies. -/
def shape? (b : UInt8) : Option (Nat × Nat × Nat) :=
  let n := b.toNat
  if 0xC2 ≤ n ∧ n ≤ 0xDF then some (1, 0x80, 0xBF)
  else if n = 0xE0 then some (2, 0xA0, 0xBF)
  else if n = 0xED then some (2, 0x80, 0x9F)
  else if 0xE1 ≤ n ∧ n ≤ 0xEF then some (2, 0x80, 0xBF)
  else if n = 0xF0 then some (3, 0x90, 0xBF)
  else if 0xF1 ≤ n ∧ n ≤ 0xF3 then some (3, 0x80, 0xBF)
  else if n = 0xF4 then some (3, 0x80, 0x8F)
  else none

/-- Reads the bytes still owed to a character; a fault comes with the number of them that fit. -/
def continuation : (owed : Nat) → (low high value : Nat) → List UInt8 →
    Except (Fault × Nat) (Nat × List UInt8)
  | 0, _, _, value, bytes => .ok (value, bytes)
  | _ + 1, _, _, _, [] => .error (.endOfData, 0)
  | owed + 1, low, high, value, b :: bytes =>
    if low ≤ b.toNat ∧ b.toNat ≤ high then
      match continuation owed 0x80 0xBF (64 * value + b.toNat % 64) bytes with
      | .ok r => .ok r
      | .error (fault, fit) => .error (fault, fit + 1)
    else .error (.continuationByte, 0)

theorem length_continuation {owed low high value : Nat} {bytes : List UInt8} {r : Nat × List UInt8}
    (h : continuation owed low high value bytes = .ok r) : r.2.length ≤ bytes.length := by
  induction owed generalizing low high value bytes with
  | zero => simp only [continuation, Except.ok.injEq] at h; subst h; exact Nat.le_refl _
  | succ owed ih =>
    cases bytes with
    | nil => simp [continuation] at h
    | cons b bytes =>
      simp only [continuation] at h
      split at h
      · split at h
        · next r' hr =>
          cases h
          exact Nat.le_succ_of_le (ih hr)
        · cases h
      · cases h

/-- The payload bits of a first byte that `owed` bytes follow. -/
def leadBits (b : UInt8) (owed : Nat) : Nat := b.toNat % (64 >>> owed)

def decodeFrom (position : Nat) : List UInt8 → Except DecodeError Text
  | [] => .ok []
  | b :: bytes =>
    if b.toNat < 0x80 then
      (Char.ofNat b.toNat :: ·) <$> decodeFrom (position + 1) bytes
    else match shape? b with
      | none => .error ⟨.startByte, b, position, position⟩
      | some (owed, low, high) =>
        match h : continuation owed low high (leadBits b owed) bytes with
        | .error (fault, fit) => .error ⟨fault, b, position, position + fit⟩
        | .ok (value, rest) =>
          have : rest.length ≤ bytes.length := length_continuation h
          (Char.ofNat value :: ·) <$> decodeFrom (position + 1 + owed) rest
  termination_by bytes => bytes.length

/-- The characters that the bytes encode, or the first fault. -/
def decode (bytes : List UInt8) : Except DecodeError Text := decodeFrom 0 bytes

def encodeChar (c : Char) : List UInt8 :=
  let n := c.toNat
  let tail (k : Nat) : UInt8 := .ofNat (0x80 + (n >>> (6 * k)) % 64)
  if n < 0x80 then [.ofNat n]
  else if n < 0x800 then [.ofNat (0xC0 + n / 64), tail 0]
  else if n < 0x10000 then [.ofNat (0xE0 + (n >>> 12)), tail 1, tail 0]
  else [.ofNat (0xF0 + (n >>> 18)), tail 2, tail 1, tail 0]

def encode (text : Text) : List UInt8 := text.flatMap encodeChar

namespace DecodeError

/-- What cannot be decoded, by place: one byte with its value, or a stretch of bytes. -/
def place (e : DecodeError) : String :=
  if e.first = e.last then
    let hex := String.ofList ((Nat.toDigits 16 e.lead.toNat))
    s!"byte 0x{hex} in position {e.first}"
  else s!"bytes in position {e.first}-{e.last}"

def message (e : DecodeError) : String :=
  s!"'utf-8' codec can't decode {e.place}: {e.fault.reason}"

end DecodeError
end SqlTemplate.Text.Utf8
