import ClaimGate.Direct

/-! Whoever answers for the two surfaces. A client may be out of reach or fail; a denial is
no failure but an answer. -/

namespace ClaimGate

/-- Why a client cannot answer. -/
inductive ClientFault where
  | unavailable (reason : String)
  | internal (reason : String)
  deriving DecidableEq

def ClientFault.message : ClientFault → String
  | .unavailable r => "service unavailable: " ++ r
  | .internal r => "internal error: " ++ r

structure Client where
  authorize : GatewayRequest → Except ClientFault GatewayResponse
  invoke : DirectRequest → Except ClientFault DirectResponse

/-- The client that a service is at a time; it always answers. -/
def Service.clientAt (s : Service) (now : Int) : Client where
  authorize r := .ok (s.authorize now r).1
  invoke r := .ok (s.invoke r).1

/-- The client that fails whatever it is asked. -/
def Client.failing (f : ClientFault) : Client where
  authorize _ := .error f
  invoke _ := .error f

end ClaimGate
