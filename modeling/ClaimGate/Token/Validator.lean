import ClaimGate.Token.Fault
import ClaimGate.Token.Header
import ClaimGate.Token.Payload

/-! Accepting tokens. The signature is checked first, and no claim of a payload counts
before; then issuer, client, expiry, use and subject, of which the first that fails is
the reason. -/

namespace ClaimGate

/-- Why the signature of a token, or what it is over, is refused. -/
inductive SignatureFault where
  | notThreeSegments
  | segment (fault : SegmentFault)
  | missingKeyId
  | unknownKey (id : String)
  | otherAlgorithm (id : String)
  /-- The key is of a kind that its algorithm does not take. -/
  | unsuitedKey
  | notVerified
  deriving DecidableEq

/-- The texts for what cannot be decoded are shortened: a decoder would go on to tell what is
wrong, and where. -/
def SignatureFault.message : SignatureFault → String
  | .notThreeSegments => "InvalidToken"
  | .segment .base64 => "Base64 error"
  | .segment .json => "JSON error"
  | .missingKeyId => "missing kid"
  | .unknownKey id => "unknown kid '" ++ id ++ "'"
  | .otherAlgorithm id => "algorithm does not match key '" ++ id ++ "'"
  | .unsuitedKey => "InvalidKeyFormat"
  | .notVerified => "InvalidSignature"

structure Validator where
  keys : KeySet
  issuers : String × String
  clients : String × String
  /-- The relation between a key, a message and its signatures. -/
  verifies : SigningKey → List UInt8 → List UInt8 → Bool := SigningKey.verifies

namespace Validator

/-- The token use that is accepted. -/
def acceptedUse : String := "access"

/-- The seconds of the years -9999 to 9999; an expiry outside them is no time. -/
def leastTime : Int := -377705116800
def greatestTime : Int := 253402300799

def isOneOf (s : String) (pair : String × String) : Bool := s = pair.1 || s = pair.2

/-! ### Signature -/

/-- The key of a header: registered under its id and for its algorithm. -/
def keyOf (v : Validator) (h : TokenHeader) : Except SignatureFault SigningKey :=
  match h.keyId with
  | none => .error .missingKeyId
  | some id =>
    match v.keys.get? id with
    | none => .error (.unknownKey id)
    | some key =>
      if h.algorithm ≠ key.algorithm then .error (.otherAlgorithm id)
      else if !key.isSuited then .error .unsuitedKey
      else .ok key

/-- The payload of a token whose signature verifies. -/
def verified (v : Validator) (token : String) : Except SignatureFault Payload :=
  match Segments.ofText? token.toList with
  | none => .error .notThreeSegments
  | some s => do
    let header ← (TokenHeader.ofSegment s.header).mapError .segment
    let key ← v.keyOf header
    match Text.Base64Url.decode? s.signature with
    | none => .error (.segment .base64)
    | some signature =>
      if v.verifies key (Text.Utf8.bytes (.ofList s.message)) signature then
        (Payload.ofSegment s.payload).mapError .segment
      else .error .notVerified

/-! ### Claims -/

def issuerOf (v : Validator) (p : Payload) : Except TokenFault String :=
  match p.issuer with
  | some issuer => if isOneOf issuer v.issuers then .ok issuer else .error .unknownIssuer
  | none => .error .unknownIssuer

def clientOf (v : Validator) (p : Payload) : Except TokenFault String :=
  match p.client? with
  | some client => if isOneOf client v.clients then .ok client else .error (.audience .mismatch)
  | none => .error (.audience .missing)

/-- The expiry, if it is a time after `now`. -/
def expiryOf (p : Payload) (now : Int) : Except TokenFault Int :=
  match p.expiry with
  | some e =>
    let e := e.toInt
    if leastTime ≤ e ∧ e ≤ greatestTime ∧ now < e then .ok e else .error .expired
  | none => .error .expired

def useOf (p : Payload) : Except TokenFault String :=
  match p.tokenUse with
  | some use => if use = acceptedUse then .ok use else .error (.tokenUse .mismatch)
  | none => .error (.tokenUse .missing)

def subjectOf (p : Payload) : Except TokenFault String :=
  match p.subject with
  | some s => if s = "" then .error .missingSubject else .ok s
  | none => .error .missingSubject

/-- The token that a payload makes, if all of its claims hold. -/
def accept (v : Validator) (p : Payload) (now : Int) : Except TokenFault Token := do
  let issuer ← v.issuerOf p
  let client ← v.clientOf p
  let expiresAt ← expiryOf p now
  let use ← useOf p
  let subject ← subjectOf p
  return { subject, username := p.username.or p.poolUsername, client, issuer, expiresAt, use,
           pinned := p.pinned? }

/-- Accepts a token at a time, given in seconds since the epoch. -/
def validate (v : Validator) (token : String) (now : Int) : Except TokenFault Token :=
  match v.verified token with
  | .error f => .error (.invalidSignature f.message)
  | .ok p => v.accept p now

end Validator

end ClaimGate
