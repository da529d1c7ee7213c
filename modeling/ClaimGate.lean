import ClaimGate.Http.Routes
import ClaimGate.Lifecycle
import ClaimGate.Main
import ClaimGate.Proofs.Result
import ClaimGate.Proofs.Support
import ClaimGate.Proofs.Grant
import ClaimGate.Proofs.Acceptance
import ClaimGate.Proofs.Payload
import ClaimGate.Proofs.DatasetRole
import ClaimGate.Proofs.Message
import ClaimGate.Proofs.Surfaces
import ClaimGate.Proofs.Outage
import ClaimGate.Proofs.Interference
import ClaimGate.Proofs.DirectAnswer
import ClaimGate.Proofs.Selection
import ClaimGate.Proofs.Directory
import ClaimGate.Proofs.IssuingPool
import ClaimGate.Proofs.KeyDocument
import ClaimGate.Proofs.SigningKeys
import ClaimGate.Proofs.KeyHistory
import ClaimGate.Proofs.LegacyMode
import ClaimGate.Proofs.Numeral
import ClaimGate.Proofs.PinnedOrganization
import ClaimGate.Proofs.ManifestScope
import ClaimGate.Proofs.SuperAdmin
import ClaimGate.Proofs.Isolation
import ClaimGate.Proofs.ColdStart
import ClaimGate.Proofs.ClaimEncoding
import ClaimGate.Proofs.RoundTrip
import ClaimGate.Proofs.AuditTrail
import ClaimGate.Proofs.SignatureGate
import ClaimGate.Proofs.Expiry
import ClaimGate.Proofs.BearerValue
import ClaimGate.Proofs.ScopeSelection
import ClaimGate.Proofs.OrganizationId
import ClaimGate.Proofs.UserIndex
import ClaimGate.Proofs.TeamRoll
import ClaimGate.Proofs.UnknownMember
import ClaimGate.Proofs.MemberPermission
import ClaimGate.Proofs.StandInHeader
import ClaimGate.Proofs.Layering
import ClaimGate.Proofs.LayeredSettings
