/-! What an accepted token says about its bearer. -/

namespace ClaimGate

/-- The organization that a token pins. -/
structure PinnedOrganization where
  id : Int64
  nodeId : Option String := none
  deriving DecidableEq

structure Token where
  subject : String
  username : Option String := none
  client : String
  issuer : String
  /-- Seconds since the epoch. -/
  expiresAt : Int
  use : String
  pinned : Option PinnedOrganization := none
  deriving DecidableEq

end ClaimGate
