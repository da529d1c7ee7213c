import ClaimGate.Store

/-! The contents of a directory as they are configured. A member that a fixture does not
declare is refused, so a misspelled grant cannot go unnoticed; the two records shared
with other stores, team grants and manifests, pass over what they do not know. -/

namespace ClaimGate

structure UserFixture where
  id : Int64 := 0
  nodeId : String := ""
  email : String := ""
  firstName : String := ""
  lastName : String := ""
  isSuperAdmin : Bool := false
  preferredOrganization : Option Int64 := none
  /-- The subject in the pool of persons. -/
  subject : Option String := none
  /-- The subjects in the pool of services that the user owns. -/
  tokenSubjects : List String := []
  deriving DecidableEq

def UserFixture.shape : Json.Shape UserFixture :=
  .via
    (.record .refused
      (.withDefault "id" 0 .int64
      (.withDefault "node_id" "" .text
      (.withDefault "email" "" .text
      (.withDefault "first_name" "" .text
      (.withDefault "last_name" "" .text
      (.withDefault "is_super_admin" false .bool
      (.optional "preferred_org_id" .int64
      (.optional "cognito_id" .text
      (.withDefault "token_cognito_ids" [] (.list .text) .nil))))))))))
    (fun (id, nodeId, email, firstName, lastName, isSuperAdmin, preferred, subject, subjects, ()) =>
      ⟨id, nodeId, email, firstName, lastName, isSuperAdmin, preferred, subject, subjects⟩)
    (fun u => (u.id, u.nodeId, u.email, u.firstName, u.lastName, u.isSuperAdmin,
      u.preferredOrganization, u.subject, u.tokenSubjects, ()))

def UserFixture.principal (u : UserFixture) : Principal :=
  ⟨u.id, u.nodeId, u.email, u.firstName, u.lastName, u.isSuperAdmin, u.preferredOrganization⟩

/-- A member of an organization or a team. -/
structure MemberFixture where
  user : Int64
  permission : Permission
  deriving DecidableEq

def MemberFixture.shape : Json.Shape MemberFixture :=
  .via
    (.record .refused
      (.required "user_id" .int64
      (.required "permission" Permission.storedShape .nil)))
    (fun (user, permission, ()) => ⟨user, permission⟩)
    (fun m => (m.user, m.permission, ()))

structure TeamFixture where
  id : Int64 := 0
  name : String := ""
  nodeId : String := ""
  members : List MemberFixture := []
  deriving DecidableEq

def TeamFixture.shape : Json.Shape TeamFixture :=
  .via
    (.record .refused
      (.withDefault "id" 0 .int64
      (.withDefault "name" "" .text
      (.withDefault "node_id" "" .text
      (.withDefault "members" [] (.list MemberFixture.shape) .nil)))))
    (fun (id, name, nodeId, members, ()) => ⟨id, name, nodeId, members⟩)
    (fun t => (t.id, t.name, t.nodeId, t.members, ()))

/-- A role of a user on a dataset. -/
structure RoleFixture where
  user : Int64
  role : Role
  deriving DecidableEq

def RoleFixture.shape : Json.Shape RoleFixture :=
  .via
    (.record .refused
      (.required "user_id" .int64
      (.required "role" Role.shape .nil)))
    (fun (user, role, ()) => ⟨user, role⟩)
    (fun r => (r.user, r.role, ()))

structure DatasetFixture where
  id : Int64 := 0
  nodeId : String := ""
  userRoles : List RoleFixture := []
  teamRoles : List TeamGrant := []
  directGrants : List RoleFixture := []
  deriving DecidableEq

def DatasetFixture.shape : Json.Shape DatasetFixture :=
  .via
    (.record .refused
      (.withDefault "id" 0 .int64
      (.withDefault "node_id" "" .text
      (.withDefault "user_roles" [] (.list RoleFixture.shape)
      (.withDefault "team_roles" [] (.list TeamGrant.shape)
      (.withDefault "direct_grants" [] (.list RoleFixture.shape) .nil))))))
    (fun (id, nodeId, userRoles, teamRoles, directGrants, ()) =>
      ⟨id, nodeId, userRoles, teamRoles, directGrants⟩)
    (fun d => (d.id, d.nodeId, d.userRoles, d.teamRoles, d.directGrants, ()))

structure OrganizationFixture where
  id : Int64 := 0
  nodeId : String := ""
  features : List String := []
  members : List MemberFixture := []
  teams : List TeamFixture := []
  datasets : List DatasetFixture := []
  deriving DecidableEq

def OrganizationFixture.shape : Json.Shape OrganizationFixture :=
  .via
    (.record .refused
      (.withDefault "id" 0 .int64
      (.withDefault "node_id" "" .text
      (.withDefault "features" [] (.list .text)
      (.withDefault "members" [] (.list MemberFixture.shape)
      (.withDefault "teams" [] (.list TeamFixture.shape)
      (.withDefault "datasets" [] (.list DatasetFixture.shape) .nil)))))))
    (fun (id, nodeId, features, members, teams, datasets, ()) =>
      ⟨id, nodeId, features, members, teams, datasets⟩)
    (fun o => (o.id, o.nodeId, o.features, o.members, o.teams, o.datasets, ()))

structure Fixtures where
  users : List UserFixture := []
  organizations : List OrganizationFixture := []
  manifests : List Manifest := []
  /-- The families of queries that are switched off. -/
  unavailable : List Family := []
  deriving DecidableEq

def Fixtures.shape : Json.Shape Fixtures :=
  .via
    (.record .refused
      (.withDefault "users" [] (.list UserFixture.shape)
      (.withDefault "organizations" [] (.list OrganizationFixture.shape)
      (.withDefault "manifests" [] (.list Manifest.shape)
      (.withDefault "unavailable" [] (.list Family.shape) .nil)))))
    (fun (users, organizations, manifests, unavailable, ()) =>
      ⟨users, organizations, manifests, unavailable⟩)
    (fun f => (f.users, f.organizations, f.manifests, f.unavailable, ()))

end ClaimGate
