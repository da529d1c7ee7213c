/-! Base64 in the alphabet that suits addresses: letters, digits, `-` and `_`. There is no
padding, and the bits that a last group leaves over are zero, so each list of bytes has
one written form. -/

namespace ClaimGate.Text.Base64Url

/-- The value of a digit. -/
def digit? (c : Char) : Option Nat :=
  if 'A' ≤ c ∧ c ≤ 'Z' then some (c.toNat - 'A'.toNat)
  else if 'a' ≤ c ∧ c ≤ 'z' then some (c.toNat - 'a'.toNat + 26)
  else if '0' ≤ c ∧ c ≤ '9' then some (c.toNat - '0'.toNat + 52)
  else if c = '-' then some 62
  else if c = '_' then some 63
  else none

/-- The bytes of groups of four digits, the last of which may be short. -/
def bytesOfDigits? : List Nat → Option (List UInt8)
  | [] => some []
  | [_] => none
  | [a, b] => if b % 16 = 0 then some [.ofNat (a * 4 + b / 16)] else none
  | [a, b, c] =>
    if c % 4 = 0 then some [.ofNat (a * 4 + b / 16), .ofNat (b % 16 * 16 + c / 4)] else none
  | a :: b :: c :: d :: ds =>
    (bytesOfDigits? ds).map fun bytes =>
      .ofNat (a * 4 + b / 16) :: .ofNat (b % 16 * 16 + c / 4) :: .ofNat (c % 4 * 64 + d) :: bytes

def decode? (cs : List Char) : Option (List UInt8) := (cs.mapM digit?).bind bytesOfDigits?

/-- The natural number whose bytes, most significant first, are written. -/
def natural? (s : String) : Option Nat :=
  (decode? s.toList).map fun bytes => bytes.foldl (fun n b => n * 256 + b.toNat) 0

end ClaimGate.Text.Base64Url
