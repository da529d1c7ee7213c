import ClaimGate.Directory.Fixtures

/-! A directory is a store in memory. Users, organizations and manifests are indexed by
their ids, and users by their subjects; of several with one id or one subject the last
counts. Inside an organization the first matching entry counts, but the permission of a
member is the greatest of all its entries. -/

namespace ClaimGate

structure Directory where
  users : Dict Int64 UserFixture
  bySubject : Dict String Int64
  byTokenSubject : Dict String Int64
  organizations : Dict Int64 OrganizationFixture
  manifests : Dict String Manifest
  unavailable : List Family
  deriving DecidableEq

namespace Directory

/-- The subjects of the pool of persons with the id of their user, in order. -/
def subjects (users : List UserFixture) : List (String × Int64) :=
  users.flatMap fun u => (u.subject.map fun s => (s, u.id)).toList

/-- The subjects of the pool of services with the id of their owner, in order. -/
def tokenSubjects (users : List UserFixture) : List (String × Int64) :=
  users.flatMap fun u => u.tokenSubjects.map fun s => (s, u.id)

def ofFixtures (f : Fixtures) : Directory where
  users := .ofList (f.users.map fun u => (u.id, u))
  bySubject := .ofList (subjects f.users)
  byTokenSubject := .ofList (tokenSubjects f.users)
  organizations := .ofList (f.organizations.map fun o => (o.id, o))
  manifests := .ofList (f.manifests.map fun m => (m.id, m))
  unavailable := f.unavailable

/-! ### Look-ups -/

def userById? (d : Directory) (id : Int64) : Option Principal :=
  (d.users.get? id).map (·.principal)

def userBySubject? (d : Directory) (subject : String) : Option Principal :=
  (d.bySubject.get? subject).bind d.userById?

def userByTokenSubject? (d : Directory) (subject : String) : Option Principal :=
  (d.byTokenSubject.get? subject).bind d.userById?

def permission? (d : Directory) (user organization : Int64) : Option Permission :=
  (d.organizations.get? organization).bind fun o =>
    ((o.members.filter fun m => m.user = user).map (·.permission)).max?

def features (d : Directory) (organization : Int64) : List String :=
  ((d.organizations.get? organization).map (·.features)).getD []

/-- The claim of a user on a team that lists it. -/
def teamClaim? (user : Int64) (t : TeamFixture) : Option TeamClaim :=
  (t.members.find? fun m => m.user = user).map fun m => ⟨t.id, t.name, t.nodeId, m.permission⟩

/-- The teams of a user over all organizations, ascending by id. -/
def teams (d : Directory) (user : Int64) : List TeamClaim :=
  ((d.organizations.values.flatMap (·.teams)).filterMap (teamClaim? user)).mergeSort
    fun s t => s.id ≤ t.id

def datasetByNodeId? (d : Directory) (organization : Int64) (nodeId : String) : Option Dataset :=
  (d.organizations.get? organization).bind fun o =>
    (o.datasets.find? fun x => x.nodeId = nodeId).map fun x => ⟨x.id, x.nodeId, organization⟩

def datasetById? (d : Directory) (organization dataset : Int64) : Option DatasetFixture :=
  (d.organizations.get? organization).bind fun o => o.datasets.find? fun x => x.id = dataset

/-- The grants of a dataset fixture that concern a user. -/
def grantsOf (x : DatasetFixture) (user : Int64) : Grants where
  userRole := (x.userRoles.find? fun r => r.user = user).map (·.role)
  teamGrants := x.teamRoles
  directGrants := (x.directGrants.filter fun r => r.user = user).map (·.role)

/-- A dataset that is not there has no grants. -/
def grants (d : Directory) (organization dataset user : Int64) : Grants :=
  ((d.datasetById? organization dataset).map (grantsOf · user)).getD {}

def manifest? (d : Directory) (id : String) : Option Manifest := d.manifests.get? id

/-! ### As a store -/

/-- The answer to a query whose family is not switched off. -/
def answer (d : Directory) : (q : Query) → q.Answer
  | .userBySubject subject => d.userBySubject? subject
  | .userByTokenSubject subject => d.userByTokenSubject? subject
  | .userById id => d.userById? id
  | .permission user organization => d.permission? user organization
  | .features organization => d.features organization
  | .teams user => d.teams user
  | .datasetByNodeId organization nodeId => d.datasetByNodeId? organization nodeId
  | .grants organization dataset user => d.grants organization dataset user
  | .manifest id => d.manifest? id

def switchedOff (f : Family) : StoreFault := .unavailable (f.name ++ " queries are switched off")

def store (d : Directory) : Store where
  answer q := if q.family ∈ d.unavailable then .error (switchedOff q.family) else .ok (d.answer q)

end Directory

def Fixtures.store (f : Fixtures) : Store := (Directory.ofFixtures f).store

end ClaimGate
