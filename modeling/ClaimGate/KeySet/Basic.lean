import ClaimGate.Crypto.Hmac
import ClaimGate.Crypto.Rsa
import ClaimGate.Dict
import ClaimGate.Json.Shape
import ClaimGate.Text.Base64Url
import ClaimGate.Text.Quoted

/-! Signing keys by their ids. Inserting and extending replace the key of an id, so the
last writer of an id wins. -/

namespace ClaimGate

/-! ### Keys -/

inductive Algorithm where
  | hs256 | hs384 | hs512 | es256 | es384 | rs256 | rs384 | rs512 | ps256 | ps384 | ps512 | edDsa
  deriving DecidableEq

/-- What kind of key an algorithm takes. -/
inductive KeyKind where
  | secret | rsa | elliptic | edwards
  deriving DecidableEq

namespace Algorithm

def all : List Algorithm :=
  [hs256, hs384, hs512, es256, es384, rs256, rs384, rs512, ps256, ps384, ps512, edDsa]

def name : Algorithm → String
  | hs256 => "HS256"
  | hs384 => "HS384"
  | hs512 => "HS512"
  | es256 => "ES256"
  | es384 => "ES384"
  | rs256 => "RS256"
  | rs384 => "RS384"
  | rs512 => "RS512"
  | ps256 => "PS256"
  | ps384 => "PS384"
  | ps512 => "PS512"
  | edDsa => "EdDSA"

def ofName? (s : String) : Option Algorithm := all.find? (fun a => a.name = s)

def shape : Json.Shape Algorithm := .name ofName? name

def keyKind : Algorithm → KeyKind
  | hs256 | hs384 | hs512 => .secret
  | rs256 | rs384 | rs512 | ps256 | ps384 | ps512 => .rsa
  | es256 | es384 => .elliptic
  | edDsa => .edwards

@[simp] theorem ofName?_name (a : Algorithm) : ofName? a.name = some a := by cases a <;> decide

end Algorithm

inductive KeyMaterial where
  | secret (bytes : List UInt8)
  | rsa (key : Crypto.Rsa.PublicKey)
  /-- The public key on a curve, as its bytes. -/
  | elliptic (bytes : List UInt8)
  | edwards (bytes : List UInt8)
  deriving DecidableEq

def KeyMaterial.kind : KeyMaterial → KeyKind
  | .secret _ => .secret
  | .rsa _ => .rsa
  | .elliptic _ => .elliptic
  | .edwards _ => .edwards

/-- A key and the algorithm it is registered for. -/
structure SigningKey where
  material : KeyMaterial
  algorithm : Algorithm
  deriving DecidableEq

namespace SigningKey

/-- The material is of the kind that the algorithm takes. -/
def isSuited (k : SigningKey) : Bool := k.material.kind = k.algorithm.keyKind

/-- The public key whose modulus and exponent are written in base 64. -/
def rsaMaterial? (modulus exponent : String) : Option KeyMaterial := do
  return .rsa ⟨← Text.Base64Url.natural? modulus, ← Text.Base64Url.natural? exponent⟩

/-- The signature is one of the message under the key. Only the two algorithms that
issuers use are computed here; no signature verifies under another. -/
def verifies (k : SigningKey) (message signature : List UInt8) : Bool :=
  match k.algorithm, k.material with
  | .hs256, .secret bytes => Crypto.Hmac.verify bytes message signature
  | .rs256, .rsa key => Crypto.Rsa.verify key message signature
  | _, _ => false

end SigningKey

/-! ### Sets of keys -/

structure KeySet where
  keys : Dict String SigningKey
  deriving DecidableEq

namespace KeySet

def empty : KeySet := ⟨.empty⟩

def insert (s : KeySet) (id : String) (key : SigningKey) : KeySet := ⟨s.keys.insert id key⟩

/-- The keys of both sets, those of `t` before those of `s`. -/
def extend (s t : KeySet) : KeySet := ⟨s.keys.merge t.keys⟩

def get? (s : KeySet) (id : String) : Option SigningKey := s.keys.get? id

def contains (s : KeySet) (id : String) : Bool := s.keys.contains id

def ids (s : KeySet) : List String := s.keys.keys

def size (s : KeySet) : Nat := s.keys.size

def isEmpty (s : KeySet) : Bool := s.keys.isEmpty

/-- A text that shows the ids and no key. -/
def display (s : KeySet) : String :=
  "KeySet \x7b kids: " ++ .ofList (Text.Quoted.renderList s.ids) ++ ", .. \x7d"

@[simp] theorem get?_empty (id : String) : empty.get? id = none := rfl

theorem get?_insert (s : KeySet) (id id' : String) (key : SigningKey) :
    (s.insert id key).get? id' = if id' = id then some key else s.get? id' :=
  Dict.get?_insert ..

end KeySet

end ClaimGate
