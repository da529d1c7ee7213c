import ClaimGate.Client
import ClaimGate.KeySet.Fetch
import ClaimGate.Settings.Pools

/-! The life of the module that holds the service. It starts without one; the first
initialization that succeeds gives it its service for good, and every client decides
with that service. -/

namespace ClaimGate

structure Host where
  service : Option Service := none

/-- Why an initialization fails. -/
inductive InitFault where
  | settings (fault : SettingsFault)
  | keys (fault : KeySetFault)
  | alreadyInitialized
  deriving DecidableEq

namespace InitFault

def message : InitFault → String
  | settings f => f.message
  | keys _ => "failed to load signing keys"
  | alreadyInitialized => "authorizer module already initialized"

/-- The fault of the keys behind a failed load. -/
def cause? : InitFault → Option KeySetFault
  | keys f => some f
  | settings _ | alreadyInitialized => none

end InitFault

namespace Host

/-- Sets the service that the settings, keys and store make, if there is none yet. -/
def initWithKeys (m : Host) (settings : PoolSettings) (keys : KeySet) (store : Store) :
    Except InitFault Host × List Event :=
  match settings.check with
  | .error f => (.error (.settings f), [])
  | .ok () =>
    let warning := if keys.isEmpty then [Event.noKeys] else []
    match m.service with
    | some _ => (.error .alreadyInitialized, warning)
    | none =>
      (.ok ⟨some (settings.service keys store)⟩,
        warning ++ [.initialized settings.legacyClaims settings.superAdminBypass])

/-- Loads the keys of the settings over a network, and sets the service with them. -/
def init (m : Host) (network : Network) (settings : PoolSettings) (store : Store) :
    Except InitFault Host × List Event :=
  match settings.check with
  | .error f => (.error (.settings f), [.initializing])
  | .ok () =>
    match KeySet.fetchAll network settings.keyAddresses with
    | (.error f, events) => (.error (.keys f), .initializing :: events)
    | (.ok keys, events) =>
      let (result, more) := m.initWithKeys settings keys store
      (result, .initializing :: events ++ more)

/-- The service that clients decide with. -/
def client (m : Host) : Except ClientFault Service :=
  match m.service with
  | some s => .ok s
  | none => .error (.unavailable "authorizer module is not initialized")

/-! ### Histories -/

/-- What can be done to a module. -/
inductive Step where
  | initWithKeys (settings : PoolSettings) (keys : KeySet) (store : Store)
  | init (network : Network) (settings : PoolSettings) (store : Store)
  | client

/-- The module after a step. -/
def next (m : Host) : Step → Host
  | .initWithKeys settings keys store => ((m.initWithKeys settings keys store).1.toOption).getD m
  | .init network settings store => ((m.init network settings store).1.toOption).getD m
  | .client => m

end Host

end ClaimGate
