import ClaimGate.Crypto.Sha256

/-! Signatures by RSA with SHA-256 in the encoding that ends in a fixed frame: zero, one,
a filling of ones, zero, the name of the hash function, and the hash. -/

namespace ClaimGate.Crypto.Rsa

structure PublicKey where
  modulus : Nat
  exponent : Nat
  deriving DecidableEq

namespace PublicKey

def maxModulusBits : Nat := 4096
def exponentLimit : Nat := Nat.pow 2 33

/-- The number of binary digits. -/
def bitLength (n : Nat) : Nat := if n = 0 then 0 else n.log2 + 1

/-- A key that may verify: the modulus is odd and not too long, and the exponent is odd,
at least two, and below the modulus and the limit. -/
def isUsable (k : PublicKey) : Bool :=
  k.modulus % 2 == 1 && decide (bitLength k.modulus ≤ maxModulusBits) &&
    decide (k.exponent < k.modulus) && k.exponent % 2 == 1 && decide (2 ≤ k.exponent) &&
    decide (k.exponent < exponentLimit)

/-- The length of the modulus in bytes. -/
def size (k : PublicKey) : Nat := (bitLength k.modulus + 7) / 8

end PublicKey

/-- `base ^ exponent` modulo `modulus`, by the binary digits of the exponent. -/
def powMod (base exponent modulus : Nat) : Nat :=
  (Nat.toDigits 2 exponent).foldl
    (fun acc d =>
      let square := acc * acc % modulus
      if d = '1' then square * base % modulus else square)
    (1 % modulus)

def natOfBytes (bytes : List UInt8) : Nat := bytes.foldl (fun n b => n * 256 + b.toNat) 0

/-- The name of SHA-256 as it stands before a hash. -/
def hashName : List UInt8 :=
  [0x30, 0x31, 0x30, 0x0d, 0x06, 0x09, 0x60, 0x86, 0x48, 0x01, 0x65, 0x03, 0x04, 0x02, 0x01, 0x05,
   0x00, 0x04, 0x20]

/-- The frame of a hash in the given number of bytes; none if the filling is below eight. -/
def frame? (size : Nat) (hash : List UInt8) : Option (List UInt8) :=
  let body := hashName ++ hash
  if size < body.length + 11 then none
  else some (0x00 :: 0x01 :: List.replicate (size - body.length - 3) 0xff ++ 0x00 :: body)

/-- The signature has the length of the modulus, is less than it, and its power is the
frame of the message's hash. -/
def verify (k : PublicKey) (message signature : List UInt8) : Bool :=
  let s := natOfBytes signature
  k.isUsable && signature.length == k.size && decide (s < k.modulus) &&
    match frame? k.size (Sha256.hash message) with
    | some f => powMod s k.exponent k.modulus == natOfBytes f
    | none => false

end ClaimGate.Crypto.Rsa
