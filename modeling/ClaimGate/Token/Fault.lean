/-! Why a token is refused. -/

namespace ClaimGate

/-- What is wrong with a claim of a token. -/
inductive ClaimProblem where
  | missing | mismatch
  deriving DecidableEq

def ClaimProblem.name : ClaimProblem → String
  | .missing => "missing"
  | .mismatch => "mismatch"

inductive TokenFault where
  | invalidSignature (reason : String)
  | unknownIssuer
  | audience (problem : ClaimProblem)
  | expired
  | tokenUse (problem : ClaimProblem)
  | missingSubject
  deriving DecidableEq

def TokenFault.message : TokenFault → String
  | .invalidSignature r => "invalid signature: " ++ r
  | .unknownIssuer => "unknown issuer"
  | .audience p => "audience " ++ p.name
  | .expired => "token expired"
  | .tokenUse p => "token_use " ++ p.name
  | .missingSubject => "subject claim is missing"

end ClaimGate
