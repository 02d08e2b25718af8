import SpacedReview.Text.Hex

/-!
# Digests

A digest is thirty-two bytes. It is written as sixty-four lower case hexadecimal digits, and read
back from digits of either case, so every digest has one written form and two that differ only in
case are read as the same digest.
-/

namespace SpacedReview

open SpacedReview.Text

/-- Thirty-two bytes that stand for a text. -/
structure Digest where
  bytes : List UInt8
  length_eq : bytes.length = 32
  deriving DecidableEq

namespace Digest

/-- The two digits of a byte. -/
def byteDigits (b : UInt8) : List Char := [hexDigit (b.toNat / 16), hexDigit (b.toNat % 16)]

/-- The byte of two digits. -/
def byte? (high low : Char) : Option UInt8 := do
  let high ← hexValue? high
  let low ← hexValue? low
  return UInt8.ofNat (16 * high + low)

/-- The bytes that a run of digits stands for. -/
def bytes? : List Char → Option (List UInt8)
  | [] => some []
  | high :: low :: cs => do
    let b ← byte? high low
    let bs ← bytes? cs
    return b :: bs
  | [_] => none

/-- The digits of a digest. -/
def hex (d : Digest) : String := String.ofList (d.bytes.flatMap byteDigits)

/-- The digest that a text stands for. -/
def ofHex? (s : String) : Option Digest := do
  let bytes ← bytes? s.toList
  if h : bytes.length = 32 then some ⟨bytes, h⟩ else none

/-! ### Laws -/

theorem byte?_hexDigit (b : UInt8) :
    byte? (hexDigit (b.toNat / 16)) (hexDigit (b.toNat % 16)) = some b := by
  have h : ∀ n : Fin 256, byte? (hexDigit (n.val / 16)) (hexDigit (n.val % 16)) =
      some (UInt8.ofNat n.val) := by
    decide +kernel
  simpa using h ⟨b.toNat, b.toNat_lt⟩

theorem bytes?_flatMap_byteDigits (bs : List UInt8) :
    bytes? (bs.flatMap byteDigits) = some bs := by
  induction bs with
  | nil => rfl
  | cons b bs ih => simp [byteDigits, bytes?, byte?_hexDigit, ih]

/-- A written digest is read back. -/
@[simp] theorem ofHex?_hex (d : Digest) : ofHex? d.hex = some d := by
  simp [ofHex?, hex, bytes?_flatMap_byteDigits, d.length_eq]

/-- Digests with the same digits are the same. -/
theorem hex_injective {d e : Digest} (h : d.hex = e.hex) : d = e := by
  have := congrArg ofHex? h
  simpa using this

end Digest

end SpacedReview
