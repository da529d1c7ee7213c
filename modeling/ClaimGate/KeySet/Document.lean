import ClaimGate.KeySet.Basic

/-! Key documents. Of the entries of a document only those are kept that publish an RSA
key for signatures with SHA-256; the first of them that is incomplete spoils the whole
document, and everything else in it is passed over. -/

namespace ClaimGate

inductive DocumentFault where
  | missingKeys
  | keysNotList
  | missingId
  | missingModulus (id : String)
  | missingExponent (id : String)
  | undecodable (id : String)
  deriving DecidableEq

/-- The text for what cannot be decoded is shortened: the decoder would go on to tell what is
wrong, and where. -/
def DocumentFault.message : DocumentFault → String
  | .missingKeys => "missing keys field"
  | .keysNotList => "keys field is not an array"
  | .missingId => "JWK entry missing kid"
  | .missingModulus id => "JWK '" ++ id ++ "' missing n"
  | .missingExponent id => "JWK '" ++ id ++ "' missing e"
  | .undecodable id => "JWK '" ++ id ++ "' is invalid: Base64 error"

namespace KeySet

/-- The entry publishes a key that the service uses. -/
def isKept (entry : Json) : Bool :=
  entry.textMember? "alg" = some Algorithm.rs256.name && entry.textMember? "use" = some "sig"

/-- The id and the key of a kept entry. -/
def ofEntry (entry : Json) : Except DocumentFault (String × SigningKey) := do
  let id ← (entry.textMember? "kid").elim (throw .missingId) pure
  let n ← (entry.textMember? "n").elim (throw (.missingModulus id)) pure
  let e ← (entry.textMember? "e").elim (throw (.missingExponent id)) pure
  let material ← (SigningKey.rsaMaterial? n e).elim (throw (.undecodable id)) pure
  return (id, ⟨material, .rs256⟩)

def ofDocument (document : Json) : Except DocumentFault KeySet := do
  let keys ← (document.member? "keys").elim (throw .missingKeys) pure
  let entries ← keys.items?.elim (throw .keysNotList) pure
  let kept ← (entries.filter isKept).mapM ofEntry
  return ⟨.ofList kept⟩

/-! ### Histories -/

/-- What can be done to a key set. -/
inductive Step where
  | insert (id : String) (key : SigningKey)
  | extend (document : Json)

def apply (s : KeySet) : Step → Except DocumentFault KeySet
  | .insert id key => .ok (s.insert id key)
  | .extend document => s.extend <$> ofDocument document

/-- The set after a step; one that fails leaves it as it was. -/
def next (s : KeySet) (step : Step) : KeySet :=
  match s.apply step with
  | .ok t => t
  | .error _ => s

end KeySet

end ClaimGate
