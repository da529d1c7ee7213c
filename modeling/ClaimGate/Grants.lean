import ClaimGate.Role

/-! Datasets, and the grants that give a user a role on one. The grants of teams name
every team with a role on the dataset; those of which the user is a member count. -/

namespace ClaimGate

/-- A dataset of an organization. -/
structure Dataset where
  id : Int64
  nodeId : String
  organization : Int64
  deriving DecidableEq

def Dataset.shape : Json.Shape Dataset :=
  .via
    (.record .ignored
      (.required "int_id" .int64
      (.required "node_id" .text
      (.required "organization_id" .int64 .nil))))
    (fun (id, nodeId, organization, ()) => ⟨id, nodeId, organization⟩)
    (fun d => (d.id, d.nodeId, d.organization, ()))

/-- The role of a team on a dataset. -/
structure TeamGrant where
  team : Int64
  role : Role
  deriving DecidableEq

def TeamGrant.shape : Json.Shape TeamGrant :=
  .via
    (.record .ignored
      (.required "team_id" .int64
      (.required "role" Role.shape .nil)))
    (fun (team, role, ()) => ⟨team, role⟩)
    (fun g => (g.team, g.role, ()))

/-- The sources of a user's role on a dataset. -/
structure Grants where
  /-- The role stored for the user. -/
  userRole : Option Role := none
  teamGrants : List TeamGrant := []
  /-- Roles granted to the user one by one. -/
  directGrants : List Role := []
  deriving DecidableEq

namespace Grants

def shape : Json.Shape Grants :=
  .via
    (.record .ignored
      (.nullable "user_role" Role.shape
      (.required "team_grants" (.list TeamGrant.shape)
      (.required "direct_grants" (.list Role.shape) .nil))))
    (fun (userRole, teamGrants, directGrants, ()) => ⟨userRole, teamGrants, directGrants⟩)
    (fun g => (g.userRole, g.teamGrants, g.directGrants, ()))

/-- The roles that count for a member of the given teams. -/
def rolesFor (g : Grants) (memberOf : List Int64) : List Role :=
  g.userRole.toList ++ (g.teamGrants.filter (fun t => t.team ∈ memberOf)).map (·.role) ++
    g.directGrants

/-- The role of a member of the given teams: the greatest that counts. -/
def roleFor (g : Grants) (memberOf : List Int64) : Role := Role.highest (g.rolesFor memberOf)

end Grants

end ClaimGate
