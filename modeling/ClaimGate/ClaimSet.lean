import ClaimGate.Json.Printer
import ClaimGate.Principal
import ClaimGate.Role

/-! Claims about a principal and the set of them that a decision hands on. A claim set
is written in three ways: as one object, as a context of one text for each claim, and
as the list of its labels. An empty list of teams is a claim and differs from no claim
about teams. -/

namespace ClaimGate

structure OrganizationClaim where
  id : Int64
  permission : Permission
  features : List String := []
  deriving DecidableEq

def OrganizationClaim.shape : Json.Shape OrganizationClaim :=
  .via
    (.record .ignored
      (.required "int_id" .int64
      (.required "role" Permission.shape
      (.withDefault "enabled_features" [] (.list .text) .nil))))
    (fun (id, permission, features, ()) => ⟨id, permission, features⟩)
    (fun c => (c.id, c.permission, c.features, ()))

/-- Membership in one team. -/
structure TeamClaim where
  id : Int64
  name : String
  nodeId : String
  permission : Permission
  deriving DecidableEq

def TeamClaim.shape : Json.Shape TeamClaim :=
  .via
    (.record .ignored
      (.required "int_id" .int64
      (.required "name" .text
      (.required "node_id" .text
      (.required "permission" Permission.shape .nil)))))
    (fun (id, name, nodeId, permission, ()) => ⟨id, name, nodeId, permission⟩)
    (fun c => (c.id, c.name, c.nodeId, c.permission, ()))

structure DatasetClaim where
  nodeId : String
  id : Int64
  role : Role
  deriving DecidableEq

def DatasetClaim.shape : Json.Shape DatasetClaim :=
  .via
    (.record .ignored
      (.required "node_id" .text
      (.required "int_id" .int64
      (.required "role" Role.shape .nil))))
    (fun (nodeId, id, role, ()) => ⟨nodeId, id, role⟩)
    (fun c => (c.nodeId, c.id, c.role, ()))

/-! ### Labels -/

/-- The kinds of claim, in the order in which a claim set lists them. -/
inductive Label where
  | user | organization | dataset | teams
  deriving DecidableEq

def Label.rank : Label → Nat
  | .user => 0
  | .organization => 1
  | .dataset => 2
  | .teams => 3

instance : LT Label := ⟨fun a b => a.rank < b.rank⟩

instance : DecidableLT Label := fun a b => inferInstanceAs (Decidable (a.rank < b.rank))

/-- The member of the written claim set, and the key of the context. -/
def Label.name : Label → String
  | .user => "user_claim"
  | .organization => "org_claim"
  | .dataset => "dataset_claim"
  | .teams => "teams_claim"

/-! ### Claim sets -/

structure ClaimSet where
  user : UserClaim
  organization : Option OrganizationClaim := none
  dataset : Option DatasetClaim := none
  teams : Option (List TeamClaim) := none
  deriving DecidableEq

namespace ClaimSet

def shape : Json.Shape ClaimSet :=
  .via
    (.record .ignored
      (.required Label.user.name UserClaim.shape
      (.omissible Label.organization.name OrganizationClaim.shape
      (.omissible Label.dataset.name DatasetClaim.shape
      (.omissible Label.teams.name (.list TeamClaim.shape) .nil)))))
    (fun (user, organization, dataset, teams, ()) => ⟨user, organization, dataset, teams⟩)
    (fun c => (c.user, c.organization, c.dataset, c.teams, ()))

/-- The labels of the claims that are present. -/
def labels (c : ClaimSet) : List Label :=
  .user :: (c.organization.map fun _ => Label.organization).toList ++
    (c.dataset.map fun _ => Label.dataset).toList ++ (c.teams.map fun _ => Label.teams).toList

/-- The claim under a label, as a JSON value. -/
def claim? (c : ClaimSet) : Label → Option Json
  | .user => some (UserClaim.shape.encode c.user)
  | .organization => c.organization.map OrganizationClaim.shape.encode
  | .dataset => c.dataset.map DatasetClaim.shape.encode
  | .teams => c.teams.map (Json.Shape.list TeamClaim.shape).encode

/-- One text for each claim that is present. -/
def context (c : ClaimSet) : Dict String String :=
  .ofList (c.labels.filterMap fun l => (c.claim? l).map fun j => (l.name, j.text))

end ClaimSet

end ClaimGate
