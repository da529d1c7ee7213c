import ClaimGate.Scope
import ClaimGate.Store
import ClaimGate.Token.Fault

/-! Why a request is not granted. A denial has a class, which says on whose side the
reason lies, and for the reasons that arise while claims are resolved the stage. -/

namespace ClaimGate

inductive DenialClass where
  | protocol | credential | authorization | collaborator
  deriving DecidableEq

def DenialClass.name : DenialClass → String
  | .protocol => "protocol"
  | .credential => "credential"
  | .authorization => "authorization"
  | .collaborator => "collaborator"

inductive Denial where
  | identity (fault : IdentityFault)
  | unsupported (reason : String)
  | token (fault : TokenFault)
  | missingUser
  | missingOrganization
  | noActiveOrganization
  | principalNotFound
  | datasetNotFound (nodeId : String)
  | noDatasetAccess (nodeId : String)
  | manifestNotFound (id : String)
  | lookup (family : Family) (fault : StoreFault)
  deriving DecidableEq

namespace Denial

def message : Denial → String
  | identity f => "invalid identity source: " ++ f.message
  | unsupported r => "unsupported authorizer: " ++ r
  | token f => "invalid token: " ++ f.message
  | missingUser => "user_id is required"
  | missingOrganization => "organization_id is required when dataset_id is provided"
  | noActiveOrganization => "no active organization for user"
  | principalNotFound => "user not found"
  | datasetNotFound n => "dataset '" ++ n ++ "' not found"
  | noDatasetAccess n => "no access to dataset '" ++ n ++ "'"
  | manifestNotFound m => "manifest '" ++ m ++ "' not found"
  | lookup family f => family.stage ++ " lookup failed: " ++ f.message

def cls : Denial → DenialClass
  | identity _ | unsupported _ | missingUser | missingOrganization => .protocol
  | token _ => .credential
  | noActiveOrganization | datasetNotFound _ | noDatasetAccess _ => .authorization
  | principalNotFound | manifestNotFound _ | lookup _ _ => .collaborator

/-- The family of queries at whose stage the denial arose. -/
def stage? : Denial → Option Family
  | lookup family _ => some family
  | principalNotFound => some .users
  | manifestNotFound _ => some .manifests
  | datasetNotFound _ | noDatasetAccess _ => some .datasets
  | noActiveOrganization => some .organizations
  | identity _ | unsupported _ | token _ | missingUser | missingOrganization => none

end Denial

end ClaimGate
