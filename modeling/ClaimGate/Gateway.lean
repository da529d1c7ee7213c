import ClaimGate.Request
import ClaimGate.Resolve
import ClaimGate.Token.Validator

/-! The gateway surface: who is asking, what about, whether the token is good, and which
claims follow. The answer to a request that is denied says nothing but that. -/

namespace ClaimGate

/-! ### Claims of a scope -/

namespace Scope

/-- The claims on a dataset that the principal has a role on. -/
def datasetClaims (policy : Policy) (p : Principal) (organization : OrganizationClaim)
    (nodeId : String) : Inquiry ClaimSet := do
  let dataset ← Resolve.datasetClaim policy p organization.id nodeId
  if dataset.role.isNone then .refuse (.noDatasetAccess nodeId)
  else return { user := p.claim, organization := some organization, dataset := some dataset }

/-- The claims of a principal in a scope, before the teams of legacy mode. The
organization that a workspace request names is not the one that counts. -/
def claimsOf (policy : Policy) (t : Token) (p : Principal) : Scope → Inquiry ClaimSet
  | user => return { user := p.claim }
  | workspace _ => do
    let active ← Resolve.activeOrganization t p
    let organization ← Resolve.organizationClaim p.id active
    let teams ← Resolve.teamClaims p.id
    return { user := p.claim, organization := some organization, teams := some teams }
  | dataset nodeId => do
    let active ← Resolve.activeOrganization t p
    let organization ← Resolve.organizationClaim p.id active
    datasetClaims policy p organization nodeId
  | manifest id => do
    let active ← Resolve.activeOrganization t p
    let organization ← Resolve.organizationClaim p.id active
    let m ← Resolve.manifest id
    datasetClaims policy p organization m.datasetNodeId

/-- The claims that a token has in a scope. -/
def resolve (policy : Policy) (tokenClient : String) (t : Token) (scope : Scope) :
    Inquiry ClaimSet := do
  let p ← Resolve.principal tokenClient t
  let c ← scope.claimsOf policy t p
  Resolve.withLegacyTeams policy p.id c

end Scope

/-! ### Requests -/

/-- Who is asking and what about. -/
def GatewayRequest.scope (r : GatewayRequest) : Except Denial (Identity × Scope) :=
  match Identity.ofValues r.identitySource with
  | .error f => .error (.identity f)
  | .ok i =>
    match Scope.select i r.query with
    | .error f => .error (.unsupported f.message)
    | .ok scope => .ok (i, scope)

structure Service where
  validator : Validator
  /-- The client whose tokens belong to services. -/
  tokenClient : String
  policy : Policy
  store : Store

namespace Service

/-- The course of a gateway decision at a time. -/
def inquiry (s : Service) (now : Int) (r : GatewayRequest) : Inquiry ClaimSet :=
  match r.scope with
  | .error d => .refuse d
  | .ok (i, scope) =>
    match s.validator.validate i.token now with
    | .error f => .refuse (.token f)
    | .ok t => scope.resolve s.policy s.tokenClient t

def gatewayOperation : String := "authorize"

/-- The answer to a gateway request at a time, and what is recorded of it. -/
def authorize (s : Service) (now : Int) (r : GatewayRequest) : GatewayResponse × List Event :=
  match (s.inquiry now r).run s.store with
  | (.ok c, events) => (.allow c, events)
  | (.error d, events) => (.deny, events ++ [.denied gatewayOperation d])

end Service

end ClaimGate
