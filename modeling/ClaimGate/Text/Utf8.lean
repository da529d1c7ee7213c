/-! Characters of a list of bytes in UTF-8. Each byte that starts no character stands for
itself, so that a reader can tell where the text is damaged. -/

namespace ClaimGate.Text.Utf8

def isTail (b : UInt8) : Bool := 0x80 ≤ b && b < 0xC0

/-- The lower six bits of a tail byte. -/
def tailBits (b : UInt8) : Nat := b.toNat % 0x40

/-- The code of a character of two, three or four bytes. -/
def code2 (a b : UInt8) : Nat := a.toNat % 0x20 * 0x40 + tailBits b
def code3 (a b c : UInt8) : Nat := (a.toNat % 0x10 * 0x40 + tailBits b) * 0x40 + tailBits c
def code4 (a b c d : UInt8) : Nat :=
  ((a.toNat % 0x08 * 0x40 + tailBits b) * 0x40 + tailBits c) * 0x40 + tailBits d

/-- The two bytes are a character. -/
def valid2 (a b : UInt8) : Bool := 0xC2 ≤ a && a < 0xE0 && isTail b

/-- The three bytes are a character in its shortest form and no surrogate. -/
def valid3 (a b c : UInt8) : Bool :=
  0xE0 ≤ a && a < 0xF0 && isTail b && isTail c && decide (0x800 ≤ code3 a b c) &&
    !(decide (0xD800 ≤ code3 a b c) && decide (code3 a b c < 0xE000))

/-- The four bytes are a character in its shortest form. -/
def valid4 (a b c d : UInt8) : Bool :=
  0xF0 ≤ a && a < 0xF5 && isTail b && isTail c && isTail d &&
    decide (0x10000 ≤ code4 a b c d) && decide (code4 a b c d < 0x110000)

/-- The character that begins with byte `a`, and the number of bytes it takes of those
that follow. -/
def start? (a : UInt8) (rest : List UInt8) : Option (Char × Nat) :=
  if a < 0x80 then some (.ofNat a.toNat, 0)
  else match rest with
    | [] => none
    | [b] => if valid2 a b then some (.ofNat (code2 a b), 1) else none
    | [b, c] =>
      if valid2 a b then some (.ofNat (code2 a b), 1)
      else if valid3 a b c then some (.ofNat (code3 a b c), 2)
      else none
    | b :: c :: d :: _ =>
      if valid2 a b then some (.ofNat (code2 a b), 1)
      else if valid3 a b c then some (.ofNat (code3 a b c), 2)
      else if valid4 a b c d then some (.ofNat (code4 a b c d), 3)
      else none

/-- The characters after `taken` bytes that belong to an earlier one; `none` for a byte
that starts no character. -/
def charsAfter : Nat → List UInt8 → List (Option Char)
  | _, [] => []
  | taken + 1, _ :: r => charsAfter taken r
  | 0, a :: r =>
    match start? a r with
    | some (c, n) => some c :: charsAfter n r
    | none => none :: charsAfter 0 r

def chars (bytes : List UInt8) : List (Option Char) := charsAfter 0 bytes

/-- The bytes of a text. -/
def bytes (s : String) : List UInt8 := s.toUTF8.data.toList

end ClaimGate.Text.Utf8
