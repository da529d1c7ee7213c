/-! The characters that may not stand in a settings document. A document is read in pieces
of a bounded size, and a piece is looked through for such characters when it is begun. -/

namespace ClaimGate.SettingsDocument

/-- The control characters that are not written as escapes, apart from the break among
them, and the two last codes of the basic plane. -/
def isControl (c : Char) : Bool :=
  let n := c.toNat
  (0x7F ≤ n && n < 0xA0 && n != 0x85) || n == 0xFFFE || n == 0xFFFF

/-- The greatest number of bytes in a piece. A character is never parted. -/
def pieceSize : Nat := 16384

/-- A character that may not stand in a document. -/
structure Control where
  byte : Nat
  /-- The byte at which its piece begins. -/
  piece : Nat
  deriving DecidableEq

/-- The first such character among those from `byte` on, with the last piece begun at
`piece`. -/
def control? (piece byte : Nat) : List Char → Option Control
  | [] => none
  | c :: cs =>
    let next := byte + c.utf8Size
    let piece := if next ≤ piece + pieceSize then piece else byte
    if isControl c then some ⟨byte, piece⟩ else control? piece next cs

theorem control?_eq_none_iff {piece byte : Nat} {cs : List Char} :
    control? piece byte cs = none ↔ ∀ c ∈ cs, isControl c = false := by
  induction cs generalizing piece byte with
  | nil => simp [control?]
  | cons c cs ih => by_cases hc : isControl c <;> simp [control?, hc, ih]

end ClaimGate.SettingsDocument
