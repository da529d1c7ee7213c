import ClaimGate.Grants
import ClaimGate.Manifest
import ClaimGate.Proofs.WrittenForm
import ClaimGate.Request

/-! Round trips of what crosses the wire: requests and answers of both surfaces, and the
records that a store hands out. Each shape is faithful because its fields are, and the value
that stands for a record determines it. Proved: whatever crosses the wire reads back as it
was from each of its written forms, a manifest status that no one knows is unknown from then
on, and a field without a value stays absent or `null`, as its kind prescribes. -/

namespace ClaimGate

open Json Json.Shape Json.Fields

/-! ### Claims -/

instance Permission.faithful : Permission.shape.Faithful := faithful_name ofName?_name

instance Role.faithful : Role.shape.Faithful := faithful_name ofName?_name

instance UserClaim.faithful : UserClaim.shape.Faithful :=
  faithful_record (by decide) fun _ => rfl

instance OrganizationClaim.faithful : OrganizationClaim.shape.Faithful :=
  faithful_record (by decide) fun _ => rfl

instance TeamClaim.faithful : TeamClaim.shape.Faithful :=
  faithful_record (by decide) fun _ => rfl

instance DatasetClaim.faithful : DatasetClaim.shape.Faithful :=
  faithful_record (by decide) fun _ => rfl

instance ClaimSet.faithful : ClaimSet.shape.Faithful :=
  faithful_record (by decide) fun _ => rfl

/-! ### Records of a store -/

instance Principal.faithful : Principal.shape.Faithful :=
  faithful_record (by decide) fun _ => rfl

instance ManifestStatus.faithful : ManifestStatus.shape.Faithful :=
  faithful_name fun m => congrArg some (ofName_name m)

instance Manifest.faithful : Manifest.shape.Faithful :=
  faithful_record (by decide) fun _ => rfl

instance TeamGrant.faithful : TeamGrant.shape.Faithful :=
  faithful_record (by decide) fun _ => rfl

instance Grants.faithful : Grants.shape.Faithful :=
  faithful_record (by decide) fun _ => rfl

/-! ### Requests and answers -/

instance GatewayRequest.faithful : GatewayRequest.shape.Faithful :=
  faithful_record (by decide) fun _ => rfl

instance GatewayResponse.faithful : GatewayResponse.shape.Faithful :=
  faithful_record (by decide) fun _ => rfl

instance DirectRequest.faithful : DirectRequest.shape.Faithful :=
  faithful_record (by decide) fun _ => rfl

instance DirectResponse.faithful : DirectResponse.shape.Faithful :=
  faithful_record (by decide) fun _ => rfl

/-! ### What is missing -/

theorem GatewayRequest.mayLack :
    shape.MayLack "queryStringParameters" queryParameters (some .null) ∧
      shape.MayLack "pathParameters" pathParameters (some .null) ∧
      shape.MayLack "routeKey" routeKey (some .null) ∧
      shape.MayLack "rawPath" rawPath (some .null) := by
  refine ⟨?_, ?_, ?_, ?_⟩
  · exact mayLack_record (.later .null) (by decide) (fun _ => rfl) fun _ => rfl
  · exact mayLack_record (.later (.later .null)) (by decide) (fun _ => rfl) fun _ => rfl
  · exact mayLack_record (.later (.later (.later (.later .null)))) (by decide) (fun _ => rfl)
      fun _ => rfl
  · exact mayLack_record (.later (.later (.later (.later (.later .null))))) (by decide)
      (fun _ => rfl) fun _ => rfl

theorem GatewayResponse.mayLack : shape.MayLack "context" context (some .null) :=
  mayLack_record (.later .null) (by decide) (fun _ => rfl) fun _ => rfl

theorem DirectRequest.mayLack :
    shape.MayLack "organization_id" organization (some .null) ∧
      shape.MayLack "dataset_id" dataset (some .null) := by
  constructor
  · exact mayLack_record (.later .null) (by decide) (fun _ => rfl) fun _ => rfl
  · exact mayLack_record (.later (.later .null)) (by decide) (fun _ => rfl) fun _ => rfl

theorem DirectResponse.mayLack :
    shape.MayLack "claims" claims none ∧ shape.MayLack "error" fault none := by
  constructor
  · exact mayLack_record (.later .absent) (by decide) (fun _ => rfl) fun _ => rfl
  · exact mayLack_record (.later (.later .absent)) (by decide) (fun _ => rfl) fun _ => rfl

theorem ClaimSet.mayLack :
    shape.MayLack "org_claim" organization none ∧
      shape.MayLack "dataset_claim" dataset none ∧ shape.MayLack "teams_claim" teams none := by
  refine ⟨?_, ?_, ?_⟩
  · exact mayLack_record (.later .absent) (by decide) (fun _ => rfl) fun _ => rfl
  · exact mayLack_record (.later (.later .absent)) (by decide) (fun _ => rfl) fun _ => rfl
  · exact mayLack_record (.later (.later (.later .absent))) (by decide) (fun _ => rfl) fun _ => rfl

theorem Principal.mayLack : shape.MayLack "preferred_org_id" preferredOrganization (some .null) :=
  mayLack_record (.later (.later (.later (.later (.later (.later .null)))))) (by decide)
    (fun _ => rfl) fun _ => rfl

theorem Grants.mayLack : shape.MayLack "user_role" userRole (some .null) :=
  mayLack_record .null (by decide) (fun _ => rfl) fun _ => rfl

theorem ManifestStatus.ofName_eq_unknown {status : String}
    (foreign : ∀ k, k ≠ unknown → name k ≠ status) : ofName status = unknown := by
  have none : [initiated, uploading, completed, cancelled, archived].find?
      (fun k => decide (k.name = status)) = none :=
    List.find?_eq_none.2 fun k hk => by
      have known : k ≠ unknown := by
        rintro rfl
        simp at hk
      simpa using foreign k known
  rw [ofName, none]
  rfl

theorem Manifest.member?_status (m : Manifest) :
    (shape.encode m).member? "status" = some (.str m.status.name) := rfl

/-- A status without a name of its own is read, and written again, as unknown. -/
theorem Manifest.status_of_foreign {manner : Manner} {ms : List (String × Json)} {m : Manifest}
    {status : String} (read : shape.read manner (.obj ms) = .ok m)
    (written : ms.lookup "status" = some (.str status))
    (foreign : ∀ k, k ≠ .unknown → ManifestStatus.name k ≠ status) :
    m.status = .unknown ∧ (shape.encode m).member? "status" = some (.str "Unknown") := by
  have unknown : m.status = .unknown := by
    obtain ⟨a, inner, rfl⟩ := read_via.1 read
    have given := (given_of_read (by decide) inner).2.2.2.2.2.1
    rw [written] at given
    have known : some (ManifestStatus.ofName status) = some a.2.2.2.2.2.1 := by
      simpa [ManifestStatus.shape, Shape.read, decodeName] using given
    exact (Option.some.inj known).symm.trans (ManifestStatus.ofName_eq_unknown foreign)
  refine ⟨unknown, ?_⟩
  rw [member?_status, unknown]
  rfl

example : Manifest.shape.decode (.obj [("status", .str "Exploded"), ("manifest_id", .str "m"),
    ("dataset_node_id", .str "d"), ("dataset_id", .int 1), ("organization_id", .int 2),
    ("user_id", .int 3)]) = .ok ⟨"m", "d", 1, 2, 3, .unknown⟩ := by
  rfl

/-! ### The wire -/

/-- Whatever crosses the wire reads back as it was from each of its written forms, and what was
read of a value is encoded in a normal form, up to the order of tables: a status that no one knows
is unknown from then on, and what was missing stays absent or `null`. -/
theorem wire_round_trips :
    (GatewayRequest.shape.RoundTrips ∧ GatewayResponse.shape.RoundTrips) ∧
    (DirectRequest.shape.RoundTrips ∧ DirectResponse.shape.RoundTrips) ∧
    (Principal.shape.RoundTrips ∧ Manifest.shape.RoundTrips ∧ Grants.shape.RoundTrips) ∧
    (∀ {manner ms m status}, Manifest.shape.read manner (.obj ms) = .ok m →
      ms.lookup "status" = some (.str status) →
      (∀ k, k ≠ .unknown → ManifestStatus.name k ≠ status) → m.status = .unknown ∧
        (Manifest.shape.encode m).member? "status" = some (.str "Unknown")) ∧
    (GatewayRequest.shape.MayLack "queryStringParameters" (·.queryParameters) (some .null) ∧
      GatewayRequest.shape.MayLack "pathParameters" (·.pathParameters) (some .null) ∧
      GatewayRequest.shape.MayLack "routeKey" (·.routeKey) (some .null) ∧
      GatewayRequest.shape.MayLack "rawPath" (·.rawPath) (some .null)) ∧
    GatewayResponse.shape.MayLack "context" (·.context) (some .null) ∧
    (DirectRequest.shape.MayLack "organization_id" (·.organization) (some .null) ∧
      DirectRequest.shape.MayLack "dataset_id" (·.dataset) (some .null)) ∧
    (DirectResponse.shape.MayLack "claims" (·.claims) none ∧
      DirectResponse.shape.MayLack "error" (·.fault) none) ∧
    (ClaimSet.shape.MayLack "org_claim" (·.organization) none ∧
      ClaimSet.shape.MayLack "dataset_claim" (·.dataset) none ∧
      ClaimSet.shape.MayLack "teams_claim" (·.teams) none) ∧
    Principal.shape.MayLack "preferred_org_id" (·.preferredOrganization) (some .null) ∧
    Grants.shape.MayLack "user_role" (·.userRole) (some .null) :=
  ⟨⟨GatewayRequest.shape.roundTrips, GatewayResponse.shape.roundTrips⟩,
    ⟨DirectRequest.shape.roundTrips, DirectResponse.shape.roundTrips⟩,
    ⟨Principal.shape.roundTrips, Manifest.shape.roundTrips, Grants.shape.roundTrips⟩,
    Manifest.status_of_foreign, GatewayRequest.mayLack, GatewayResponse.mayLack,
    DirectRequest.mayLack, DirectResponse.mayLack, ClaimSet.mayLack, Principal.mayLack,
    Grants.mayLack⟩

end ClaimGate
