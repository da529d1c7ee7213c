import ClaimGate.Audit
import ClaimGate.Json.Reader
import ClaimGate.KeySet.Document

/-! Loading key documents over a network. The documents are asked for one after another
and merged in order; any failure fails the whole load. -/

namespace ClaimGate

/-- What an address answered. -/
structure Reply where
  status : Nat
  body : String

/-- A network gives the reply of an address, or none where it cannot be reached. -/
abbrev Network := String → Option Reply

inductive KeySetFault where
  /-- The address gave no JSON document. -/
  | fetch (address : String)
  | document (fault : DocumentFault)
  deriving DecidableEq

def KeySetFault.message : KeySetFault → String
  | .fetch address => "failed to fetch JWKS from " ++ address
  | .document f => "malformed JWKS: " ++ f.message

namespace KeySet

/-- The statuses by which an address tells that a request failed, on either side. -/
def isFailure (status : Nat) : Bool := 400 ≤ status && status < 600

def fetchDocument? (network : Network) (address : String) : Option Json := do
  let reply ← network address
  if isFailure reply.status then none else Json.document? reply.body

def fetch (network : Network) (address : String) : Except KeySetFault KeySet :=
  match fetchDocument? network address with
  | none => .error (.fetch address)
  | some document => (ofDocument document).mapError .document

/-- The given keys, extended by those of all addresses, and what is recorded of it. -/
def fetchOnto (network : Network) (s : KeySet) :
    List String → Except KeySetFault KeySet × List Event
  | [] => (.ok s, [])
  | address :: rest =>
    match fetch network address with
    | .error f => (.error f, [])
    | .ok t =>
      let (result, events) := fetchOnto network (s.extend t) rest
      (result, .keysLoaded address t.size :: events)

def fetchAll (network : Network) (addresses : List String) :
    Except KeySetFault KeySet × List Event :=
  fetchOnto network empty addresses

end KeySet

end ClaimGate
