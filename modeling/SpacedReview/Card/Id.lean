import SpacedReview.Card.Kind
import SpacedReview.Digest.Blake3

/-!
# Card identifiers

A card is identified by the hash of its owner, its kind and its item, so adding the same card again
leads to the same card. The three are hashed as one run of bytes with a zero byte between them.
-/

namespace SpacedReview

/-- A user. -/
structure Subject where
  name : String
  deriving DecidableEq, Repr

/-- The identifier of a card. -/
structure CardId where
  digest : Digest
  deriving DecidableEq

namespace CardId

/-- The bytes of a text. -/
def utf8 (s : String) : List UInt8 := s.toList.flatMap String.utf8EncodeChar

/-- The bytes that identify a card before they are hashed. -/
def preimage (owner : Subject) (kind : CardKind) (item : String) : List UInt8 :=
  utf8 owner.name ++ 0 :: utf8 kind.word ++ 0 :: utf8 item

/-- The identifier of a card. -/
def ofCard (owner : Subject) (kind : CardKind) (item : String) : CardId :=
  ⟨Digest.Blake3.hash (preimage owner kind item)⟩

/-- The digits of an identifier. -/
def hex (id : CardId) : String := id.digest.hex

/-- Reads an identifier from its digits. -/
def parse (s : String) : Except Failure CardId :=
  match Digest.ofHex? s with
  | some d => .ok ⟨d⟩
  | none => .error (.badCardId s)

/-- A written identifier is read back. -/
@[simp] theorem parse_hex (id : CardId) : parse id.hex = .ok id := by simp [parse, hex]

end CardId

end SpacedReview
