import ClaimGate.ClaimSet

/-! Requests and answers on the two surfaces: the gateway, which hands on an event with
a caller's token, and the direct one, where a trusted service names the user. -/

namespace ClaimGate

/-! ### Gateway -/

structure GatewayRequest where
  /-- Values that identify the caller, in no fixed order. -/
  identitySource : List String := []
  queryParameters : Option (Dict String String) := none
  pathParameters : Option (Dict String String) := none
  headers : Dict String String := .empty
  routeKey : Option String := none
  rawPath : Option String := none
  deriving DecidableEq

namespace GatewayRequest

def shape : Json.Shape GatewayRequest :=
  .via
    (.record .ignored
      (.withDefault "identitySource" [] (.list .text)
      (.optional "queryStringParameters" .table
      (.optional "pathParameters" .table
      (.withDefault "headers" .empty .table
      (.optional "routeKey" .text
      (.optional "rawPath" .text .nil)))))))
    (fun (identitySource, query, path, headers, routeKey, rawPath, ()) =>
      ⟨identitySource, query, path, headers, routeKey, rawPath⟩)
    (fun r => (r.identitySource, r.queryParameters, r.pathParameters, r.headers, r.routeKey,
      r.rawPath, ()))

/-- The query parameters; none where the gateway sent none. -/
def query (r : GatewayRequest) : Dict String String := r.queryParameters.getD .empty

end GatewayRequest

/-- The answer to a gateway. A denial says nothing but that it is one. -/
structure GatewayResponse where
  isAuthorized : Bool
  context : Option (Dict String String)
  deriving DecidableEq

namespace GatewayResponse

def shape : Json.Shape GatewayResponse :=
  .via
    (.record .ignored
      (.required "isAuthorized" .bool
      (.nullable "context" .table .nil)))
    (fun (isAuthorized, context, ()) => ⟨isAuthorized, context⟩)
    (fun r => (r.isAuthorized, r.context, ()))

def allow (c : ClaimSet) : GatewayResponse := ⟨true, some c.context⟩

def deny : GatewayResponse := ⟨false, none⟩

end GatewayResponse

/-! ### Direct -/

structure DirectRequest where
  /-- Zero stands for no user. -/
  user : Int64 := 0
  organization : Option Int64 := none
  dataset : Option String := none
  deriving DecidableEq

def DirectRequest.shape : Json.Shape DirectRequest :=
  .via
    (.record .ignored
      (.withDefault "user_id" 0 .int64
      (.optional "organization_id" .int64
      (.optional "dataset_id" .text .nil))))
    (fun (user, organization, dataset, ()) => ⟨user, organization, dataset⟩)
    (fun r => (r.user, r.organization, r.dataset, ()))

/-- The answer to a direct request; a failed look-up or a bad request has a fault text,
which a plain refusal has not. -/
structure DirectResponse where
  isAuthorized : Bool
  claims : Option ClaimSet := none
  fault : Option String := none
  deriving DecidableEq

namespace DirectResponse

def shape : Json.Shape DirectResponse :=
  .via
    (.record .ignored
      (.required "is_authorized" .bool
      (.omissible "claims" ClaimSet.shape
      (.omissible "error" .text .nil))))
    (fun (isAuthorized, claims, fault, ()) => ⟨isAuthorized, claims, fault⟩)
    (fun r => (r.isAuthorized, r.claims, r.fault, ()))

def authorized (c : ClaimSet) : DirectResponse := { isAuthorized := true, claims := some c }

def noAccess (c : ClaimSet) : DirectResponse := { isAuthorized := false, claims := some c }

def failed (text : String) : DirectResponse := { isAuthorized := false, fault := some text }

end DirectResponse

end ClaimGate
