import ClaimGate.Json.Shape

/-! The user on whose behalf a request acts, and the claim that says who it is. -/

namespace ClaimGate

structure Principal where
  id : Int64
  nodeId : String
  email : String := ""
  firstName : String := ""
  lastName : String := ""
  isSuperAdmin : Bool := false
  /-- The organization that is active where a token names none. -/
  preferredOrganization : Option Int64 := none
  deriving DecidableEq

def Principal.shape : Json.Shape Principal :=
  .via
    (.record .ignored
      (.required "id" .int64
      (.required "node_id" .text
      (.withDefault "email" "" .text
      (.withDefault "first_name" "" .text
      (.withDefault "last_name" "" .text
      (.withDefault "is_super_admin" false .bool
      (.optional "preferred_org_id" .int64 .nil))))))))
    (fun (id, nodeId, email, firstName, lastName, isSuperAdmin, preferred, ()) =>
      ⟨id, nodeId, email, firstName, lastName, isSuperAdmin, preferred⟩)
    (fun p => (p.id, p.nodeId, p.email, p.firstName, p.lastName, p.isSuperAdmin,
      p.preferredOrganization, ()))

structure UserClaim where
  id : Int64
  nodeId : String
  isSuperAdmin : Bool
  deriving DecidableEq

def UserClaim.shape : Json.Shape UserClaim :=
  .via
    (.record .ignored
      (.required "id" .int64
      (.required "node_id" .text
      (.required "is_super_admin" .bool .nil))))
    (fun (id, nodeId, isSuperAdmin, ()) => ⟨id, nodeId, isSuperAdmin⟩)
    (fun c => (c.id, c.nodeId, c.isSuperAdmin, ()))

def Principal.claim (p : Principal) : UserClaim := ⟨p.id, p.nodeId, p.isSuperAdmin⟩

end ClaimGate
