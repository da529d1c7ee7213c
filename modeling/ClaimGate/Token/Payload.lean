import ClaimGate.Json.Shape
import ClaimGate.Token.Basic
import ClaimGate.Token.Segment

/-! Token payloads: the claims as they are written, before any of them is checked. Members
without a meaning here are passed over, whatever they hold. -/

namespace ClaimGate

structure Payload where
  subject : Option String := none
  username : Option String := none
  poolUsername : Option String := none
  issuer : Option String := none
  clientId : Option String := none
  audience : Option Json := none
  expiry : Option Int64 := none
  tokenUse : Option String := none
  organizationId : Option Json := none
  organizationNodeId : Option String := none

namespace Payload

/-- The claims in the order in which a list gives them. The time before which a token is
not meant for use is not consulted, and may be whatever a reader gets past. -/
def shape : Json.Shape Payload :=
  .via
    (.record .ignored
      (.optional "sub" .text
      (.optional "username" .text
      (.optional "cognito:username" .text
      (.optional "iss" .text
      (.optional "client_id" .text
      (.optional "aud" .any
      (.optional "exp" .int64
      (.optional "nbf" (.unread Json.isPassable)
      (.optional "token_use" .text
      (.optional "custom:organization_id" .any
      (.optional "custom:organization_node_id" .text .nil))))))))))))
    (fun (subject, username, poolUsername, issuer, clientId, audience, expiry, _, tokenUse,
        organizationId, organizationNodeId, ()) =>
      ⟨subject, username, poolUsername, issuer, clientId, audience, expiry, tokenUse,
        organizationId, organizationNodeId⟩)
    (fun p => (p.subject, p.username, p.poolUsername, p.issuer, p.clientId, p.audience, p.expiry,
      none, p.tokenUse, p.organizationId, p.organizationNodeId, ()))

/-- The number of claims that a list in place of a payload gives; it ends before the
audience. -/
def listLength : Nat := 5

/-- The value is an object, or a list that gives the claims it can. -/
def isForm : Json → Bool
  | .arr l => l.length = listLength
  | _ => true

/-- The values that are kept whole are not nested too deeply inside the payload. -/
def isReadable (p : Payload) : Bool :=
  [p.audience, p.organizationId].all fun j => (j.map Json.depth).getD 0 < Json.maxDepth

/-- The payload of a segment. -/
def ofSegment (segment : List Char) : Except SegmentFault Payload := do
  let j ← Segments.json segment
  match isForm j, shape.decode j with
  | true, .ok p => if p.isReadable then return p else throw .json
  | _, _ => throw .json

/-- The client that a payload names: its client id, else its audience if that is a text. -/
def client? (p : Payload) : Option String := p.clientId.or (p.audience.bind Json.text?)

/-- The integer that an organization id denotes. -/
def organizationOf? : Json → Option Int64
  | .int n => Text.int64? n
  | .str s => Text.readId? s
  | _ => none

/-- The organization that a payload pins. -/
def pinned? (p : Payload) : Option PinnedOrganization := do
  let id ← p.organizationId.bind organizationOf?
  return ⟨id, p.organizationNodeId.filter (fun n => n ≠ "")⟩

end Payload

end ClaimGate
