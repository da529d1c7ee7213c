import ClaimGate.Denial

/-! The audit trail: what is recorded about decisions and about the start of the service.
A denial is recorded as loudly as its class asks: a failing collaborator is an error, a
refusal of access is worth notice, and a bad request or credential is the caller's affair. -/

namespace ClaimGate

inductive Level where
  | debug | info | warn | error
  deriving DecidableEq

def Level.name : Level → String
  | .debug => "DEBUG"
  | .info => "INFO"
  | .warn => "WARN"
  | .error => "ERROR"

inductive Event where
  | denied (operation : String) (denial : Denial)
  /-- A super-admin was made owner of a dataset. -/
  | bypass (user dataset : Int64)
  /-- A direct request found no role on its dataset. -/
  | noRole (user : Int64) (dataset : String)
  | keysLoaded (address : String) (count : Nat)
  | initializing
  | noKeys
  | initialized (legacyClaims superAdminBypass : Bool)
  deriving DecidableEq

def DenialClass.level : DenialClass → Level
  | .collaborator => .error
  | .authorization => .info
  | .protocol | .credential => .debug

namespace Event

def level : Event → Level
  | denied _ d => d.cls.level
  | noKeys => .warn
  | bypass _ _ | noRole _ _ | keysLoaded _ _ | initializing | initialized _ _ => .info

def message : Event → String
  | denied _ _ => "authorizer denied"
  | bypass _ _ => "super-admin bypass grants owner role"
  | noRole _ _ => "direct invocation denied: no dataset role"
  | keysLoaded _ _ => "loaded signing keys"
  | initializing => "Initializing authorizer module"
  | noKeys => "signing key set is empty, every token will be rejected"
  | initialized _ _ => "authorizer module initialized successfully"

/-- The stage of a denial is recorded for the classes that can have one. -/
def stageField (d : Denial) : List (String × Json) :=
  match d.cls with
  | .protocol | .credential => []
  | .authorization | .collaborator =>
    [("stage", (d.stage?.map fun f => Json.str f.stage).getD .null)]

def fields : Event → List (String × Json)
  | denied operation d =>
    ("operation", .str operation) :: ("error_class", .str d.cls.name) ::
      ("error", .str d.message) :: stageField d
  | bypass user dataset => [("user_id", .int user.toInt), ("dataset_id", .int dataset.toInt)]
  | noRole user dataset => [("user_id", .int user.toInt), ("dataset_id", .str dataset)]
  | keysLoaded address count => [("url", .str address), ("keys", .int count)]
  | initializing | noKeys => []
  | initialized legacyClaims superAdminBypass =>
    [("legacy_claims", .bool legacyClaims), ("super_admin_bypass", .bool superAdminBypass)]

/-- One line of the trail. -/
def toJson (e : Event) : Json :=
  .obj (("level", .str e.level.name) :: ("message", .str e.message) :: e.fields)

end Event

end ClaimGate
