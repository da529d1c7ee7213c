import ClaimGate.Gateway

/-! The direct surface: a trusted service names the user, so no token is asked for. A
request that finds no role on its dataset is answered with the claims that show it, and
one that cannot be decided with the reason. -/

namespace ClaimGate

/-- How a direct request that could be decided ends. -/
inductive DirectOutcome where
  | authorized (c : ClaimSet)
  | noAccess (c : ClaimSet)
  deriving DecidableEq

namespace DirectRequest

/-- The dataset that is asked about; a blank one is none. -/
def datasetId? (r : DirectRequest) : Option String := r.dataset.filter fun d => !Text.allBlank d

/-- What must be there before any query is asked. -/
def check (r : DirectRequest) : Except Denial Unit :=
  if r.user = 0 then .error .missingUser
  else if r.datasetId?.isSome && r.organization.isNone then .error .missingOrganization
  else .ok ()

/-- The organization of a request with its claim and the teams of the user. -/
def organizationClaims (p : Principal) (organization : Int64) : Inquiry ClaimSet := do
  let claim ← Resolve.organizationClaim p.id organization
  let teams ← Resolve.teamClaims p.id
  return { user := p.claim, organization := some claim, teams := some teams }

/-- The end of a request that may be granted. -/
def finish (policy : Policy) (p : Principal) (c : ClaimSet) : Inquiry DirectOutcome := do
  return .authorized (← Resolve.withLegacyTeams policy p.id c)

/-- The course of a direct decision. -/
def inquiry (policy : Policy) (r : DirectRequest) : Inquiry DirectOutcome := do
  let () ← .ofExcept r.check
  let p ← Resolve.principalById r.user
  match r.organization, r.datasetId? with
  | none, _ => finish policy p { user := p.claim }
  | some organization, none => finish policy p (← organizationClaims p organization)
  | some organization, some nodeId =>
    let c ← organizationClaims p organization
    let dataset ← Resolve.datasetClaim policy p organization nodeId
    let c := { c with dataset := some dataset }
    if dataset.role.isNone then .note (.noRole p.id nodeId) (.done (.noAccess c))
    else finish policy p c

end DirectRequest

namespace Service

def directOperation : String := "invoke"

/-- The answer to a direct request, and what is recorded of it. -/
def invoke (s : Service) (r : DirectRequest) : DirectResponse × List Event :=
  match (r.inquiry s.policy).run s.store with
  | (.ok (.authorized c), events) => (.authorized c, events)
  | (.ok (.noAccess c), events) => (.noAccess c, events)
  | (.error d, events) => (.failed d.message, events ++ [.denied directOperation d])

end Service

end ClaimGate
