import ClaimGate.Crypto.Sha256

/-! Message authentication with SHA-256 under a shared secret. -/

namespace ClaimGate.Crypto.Hmac

def blockSize : Nat := 64

/-- The secret as one block: hashed if it is longer, and filled with zeros. -/
def blockKey (secret : List UInt8) : List UInt8 :=
  let key := if blockSize < secret.length then Sha256.hash secret else secret
  key ++ List.replicate (blockSize - key.length) 0

def tag (secret message : List UInt8) : List UInt8 :=
  let key := blockKey secret
  Sha256.hash (key.map (· ^^^ 0x5c) ++ Sha256.hash (key.map (· ^^^ 0x36) ++ message))

/-- The signature is the whole tag of the message. -/
def verify (secret message signature : List UInt8) : Bool := signature == tag secret message

end ClaimGate.Crypto.Hmac
