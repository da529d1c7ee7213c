import ClaimGate.Gateway

/-! The two identity pools and the switches of a service. The pool of persons and the
pool of services each have an issuer, a client and an address for their keys. -/

namespace ClaimGate

structure Pool where
  id : String := ""
  client : String := ""
  deriving DecidableEq

def Pool.shape : Json.Shape Pool :=
  .via
    (.record .refused
      (.withDefault "pool_id" "" .text
      (.withDefault "client_id" "" .text .nil)))
    (fun (id, client, ()) => ⟨id, client⟩)
    (fun p => (p.id, p.client, ()))

structure PoolSettings where
  region : String := "us-east-1"
  userPool : Pool := {}
  tokenPool : Pool := {}
  manifestTable : String := "manifests"
  /-- Stands in for the address of the region. -/
  endpoint : Option String := none
  legacyClaims : Bool := false
  superAdminBypass : Bool := false
  deriving DecidableEq

inductive SettingsFault where
  | emptyPoolId (pool : String)
  | emptyClient (pool : String)
  | sameClient
  | emptyRegion
  deriving DecidableEq

def SettingsFault.message : SettingsFault → String
  | .emptyPoolId pool => pool ++ ".pool_id must not be empty"
  | .emptyClient pool => pool ++ ".client_id must not be empty"
  | .sameClient => "user_pool.client_id and token_pool.client_id must differ"
  | .emptyRegion => "region must not be empty"

namespace PoolSettings

def shape : Json.Shape PoolSettings :=
  .via
    (.record .refused
      (.withDefault "region" "us-east-1" .text
      (.withDefault "user_pool" {} Pool.shape
      (.withDefault "token_pool" {} Pool.shape
      (.withDefault "manifest_table" "manifests" .text
      (.optional "cognito_endpoint" .text
      (.withDefault "legacy_claims" false .bool
      (.withDefault "super_admin_bypass" false .bool .nil))))))))
    (fun (region, userPool, tokenPool, manifestTable, endpoint, legacyClaims, bypass, ()) =>
      ⟨region, userPool, tokenPool, manifestTable, endpoint, legacyClaims, bypass⟩)
    (fun s => (s.region, s.userPool, s.tokenPool, s.manifestTable, s.endpoint, s.legacyClaims,
      s.superAdminBypass, ()))

/-! ### Addresses -/

/-- The text without the slashes at its end. -/
def withoutSlashes (s : String) : String :=
  .ofList (s.toList.reverse.dropWhile (· = '/')).reverse

/-- The address under which both pools stand. -/
def base (s : PoolSettings) : String :=
  match s.endpoint with
  | none => "https://cognito-idp." ++ s.region ++ ".amazonaws.com"
  | some e => withoutSlashes e

def issuerOf (s : PoolSettings) (p : Pool) : String := s.base ++ "/" ++ p.id

def userIssuer (s : PoolSettings) : String := s.issuerOf s.userPool

def tokenIssuer (s : PoolSettings) : String := s.issuerOf s.tokenPool

/-- The address of an issuer's key document. -/
def keyAddress (issuer : String) : String := issuer ++ "/.well-known/jwks.json"

def keyAddresses (s : PoolSettings) : List String :=
  [keyAddress s.userIssuer, keyAddress s.tokenIssuer]

/-! ### Use -/

def checkPool (name : String) (p : Pool) : Except SettingsFault Unit :=
  if Text.allBlank p.id then .error (.emptyPoolId name)
  else if Text.allBlank p.client then .error (.emptyClient name)
  else .ok ()

/-- What must hold of settings before a service runs under them. -/
def check (s : PoolSettings) : Except SettingsFault Unit := do
  checkPool "user_pool" s.userPool
  checkPool "token_pool" s.tokenPool
  if s.userPool.client = s.tokenPool.client then throw .sameClient
  if Text.allBlank s.region && s.endpoint.isNone then throw .emptyRegion

def policy (s : PoolSettings) : Policy := ⟨s.superAdminBypass, s.legacyClaims⟩

def validator (s : PoolSettings) (keys : KeySet) : Validator where
  keys
  issuers := (s.userIssuer, s.tokenIssuer)
  clients := (s.userPool.client, s.tokenPool.client)

def service (s : PoolSettings) (keys : KeySet) (store : Store) : Service where
  validator := s.validator keys
  tokenClient := s.tokenPool.client
  policy := s.policy
  store

end PoolSettings

end ClaimGate
