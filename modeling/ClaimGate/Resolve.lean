import ClaimGate.Inquiry
import ClaimGate.Token.Basic

/-! Resolving a principal and its claims. Each step can be asked for by itself; the two
surfaces compose them. -/

namespace ClaimGate

/-- The two switches of a service. -/
structure Policy where
  /-- Super-admins own every dataset that is found. -/
  superAdminBypass : Bool := false
  /-- Every claim set that is granted tells the teams. -/
  legacyClaims : Bool := false
  deriving DecidableEq

/-- The organization that is active: the one a token pins, else the principal's own. -/
def Token.activeOrganization? (t : Token) (p : Principal) : Option Int64 :=
  (t.pinned.map (·.id)).or p.preferredOrganization

namespace Resolve

/-- The principal of a token: tokens of the client of the service pool belong to whoever
owns their subject there, all others to the person with their subject. -/
def principal (tokenClient : String) (t : Token) : Inquiry Principal := do
  let found : Option Principal ←
    if t.client = tokenClient then .lookUp .users (.userByTokenSubject t.subject)
    else .lookUp .users (.userBySubject t.subject)
  .orRefuse .principalNotFound found

def principalById (id : Int64) : Inquiry Principal := do
  .orRefuse .principalNotFound (← .lookUp .users (.userById id))

def activeOrganization (t : Token) (p : Principal) : Inquiry Int64 :=
  .orRefuse .noActiveOrganization (t.activeOrganization? p)

/-- The claim on an organization; who is no member has no permission there. -/
def organizationClaim (user organization : Int64) : Inquiry OrganizationClaim := do
  let permission : Option Permission ← .lookUp .organizations (.permission user organization)
  let features : List String ← .lookUp .organizations (.features organization)
  return ⟨organization, permission.getD .none, features⟩

def teamClaims (user : Int64) : Inquiry (List TeamClaim) :=
  .lookUp .teams (.teams user)

/-- The teams of a user, asked for only where there are grants that could need them. -/
def teamsFor (user : Int64) (g : Grants) : Inquiry (List Int64) :=
  if g.teamGrants.isEmpty then return []
  else do return (← teamClaims user).map (·.id)

/-- The claim on a dataset of an organization. A super-admin is its owner where the policy
says so, and no grants are asked for then. -/
def datasetClaim (policy : Policy) (p : Principal) (organization : Int64) (nodeId : String) :
    Inquiry DatasetClaim := do
  let found : Option Dataset ← .lookUp .datasets (.datasetByNodeId organization nodeId)
  let dataset ← .orRefuse (.datasetNotFound nodeId) found
  if p.isSuperAdmin && policy.superAdminBypass then
    .note (.bypass p.id dataset.id) (.done ⟨dataset.nodeId, dataset.id, .owner⟩)
  else
    let grants : Grants ← .lookUp .datasets (.grants organization dataset.id p.id)
    let memberOf ← teamsFor p.id grants
    return ⟨dataset.nodeId, dataset.id, grants.roleFor memberOf⟩

def manifest (id : String) : Inquiry Manifest := do
  .orRefuse (.manifestNotFound id) (← .lookUp .manifests (.manifest id))

/-- In legacy mode a claim set without teams gets them. -/
def withLegacyTeams (policy : Policy) (user : Int64) (c : ClaimSet) : Inquiry ClaimSet :=
  if policy.legacyClaims && c.teams.isNone then
    do return { c with teams := some (← teamClaims user) }
  else return c

end Resolve

end ClaimGate
